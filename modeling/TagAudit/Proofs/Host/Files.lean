import TagAudit.Host.Machine
import TagAudit.Proofs.Outcome
import TagAudit.Proofs.Text.Utf8

/-!
# What a host in memory does to its files

Files are told by the places of a tree, for what a path names depends on the directories that are
there.

* `SameFiles`, `PutFile`: two trees with the same files, or with one file put into the second.
* `Harmless`: operations that leave all files alone; `harmless_makeDirectories` is one of them.
* `writeText_refused`, `writeText_opened`: a file that cannot be opened is left as it is; one that
  can be is emptied by a text without an encoding, and else holds the text.
-/

namespace TagAudit

open Outcome

namespace FileTree

/-- What the file at a place holds. -/
def fileAt? (tree : FileTree) (place : List Text) : Option Octets :=
  match tree.at? place with
  | some (.file content) => some content
  | _ => none

/-- Two trees with the same files. -/
def SameFiles (tree after : FileTree) : Prop := ∀ place, after.fileAt? place = tree.fileAt? place

/-- The files of a tree with one put in place of what was there. -/
def PutFile (tree after : FileTree) (place : List Text) (content : Octets) : Prop :=
  after.fileAt? place = some content ∧
    ∀ other, other ≠ place → after.fileAt? other = tree.fileAt? other

theorem SameFiles.refl (tree : FileTree) : SameFiles tree tree := fun _ => rfl

theorem SameFiles.trans {tree middle after : FileTree} (h : SameFiles tree middle)
    (h' : SameFiles middle after) : SameFiles tree after :=
  fun place => (h' place).trans (h place)

theorem SameFiles.putFile {tree middle after : FileTree} {place : List Text} {content : Octets}
    (h : SameFiles tree middle) (h' : PutFile middle after place content) :
    PutFile tree after place content :=
  ⟨h'.1, fun other hother => (h'.2 other hother).trans (h other)⟩

theorem PutFile.trans {tree middle after : FileTree} {place : List Text} {content last : Octets}
    (h : PutFile tree middle place content) (h' : PutFile middle after place last) :
    PutFile tree after place last :=
  ⟨h'.1, fun other hother => (h'.2 other hother).trans (h.2 other hother)⟩

/-! ## Entries -/

/-- Putting an entry changes what is at its place, and nothing else. -/
theorem at?_put {place : List Text} (hplace : place ≠ []) (tree : FileTree) (entry : Entry)
    (other : List Text) :
    (tree.put place entry).at? other = if other = place then some entry else tree.at? other := by
  by_cases hroot : other = []
  · subst hroot
    rw [if_neg hplace.symm]
    rfl
  have hroot : other.isEmpty = false := by simpa using hroot
  by_cases hthere : (tree.entries.any fun e => decide (e.1 = place)) = true
  · -- The entry is replaced where it stands, and entries keep their places.
    let replaced (e : List Text × Entry) := if e.1 = place then (place, entry) else e
    have hkeys (e : List Text × Entry) : (replaced e).1 = e.1 := by
      by_cases he : e.1 = place <;> simp [replaced, he]
    have hput : (tree.put place entry).entries = tree.entries.map replaced := by
      simp only [put, if_pos hthere, replaced]
    simp only [at?, hroot, hput, List.find?_map, Function.comp_def, hkeys, Option.map_map]
    cases hfound : tree.entries.find? fun e => decide (e.1 = other) with
    | none =>
      have hne : other ≠ place := by
        rintro rfl
        obtain ⟨e, he, hother⟩ := List.any_eq_true.mp hthere
        exact absurd hother (List.find?_eq_none.mp hfound e he)
      simp [hne]
    | some e =>
      have he : e.1 = other := by simpa using List.find?_some hfound
      by_cases hother : other = place <;> simp [replaced, he, hother]
  · have hput : (tree.put place entry).entries = tree.entries ++ [(place, entry)] := by
      simp only [put, if_neg hthere]
    simp only [at?, hroot, hput, List.find?_append]
    by_cases hother : other = place
    · subst hother
      have hnone : tree.entries.find? (fun e => decide (e.1 = other)) = none :=
        List.find?_eq_none.mpr fun e he h => hthere (List.any_eq_true.mpr ⟨e, he, h⟩)
      simp [hnone]
    · have hne : ¬place = other := fun h => hother h.symm
      simp [hother, hne]

theorem putFile_put {place : List Text} (hplace : place ≠ []) (tree : FileTree) (content : Octets) :
    PutFile tree (tree.put place (.file content)) place content := by
  constructor
  · simp [fileAt?, at?_put hplace]
  · intro other hother
    simp [fileAt?, at?_put hplace, hother]

/-- The root is a directory. -/
theorem ne_root {tree : FileTree} {place : List Text} (h : tree.at? place ≠ some .directory) :
    place ≠ [] := by
  rintro rfl
  exact h rfl

/-- A way goes through directories, so that what is put at a place without one is not on it. -/
theorem walk_put {tree : FileTree} {place : List Text} (hplace : tree.at? place ≠ some .directory)
    (entry : Entry) {here there : List Text} {names : List Text}
    (h : tree.walk here names = .ok there) :
    (tree.put place entry).walk here names = .ok there := by
  induction names generalizing here with
  | nil => exact h
  | cons name names ih =>
    unfold walk at h ⊢
    cases hhere : tree.at? here with
    | none => simp [hhere] at h
    | some found =>
      cases found with
      | file content => simp [hhere] at h
      | directory =>
        have hne : here ≠ place := by
          rintro rfl
          exact hplace hhere
        rw [at?_put (ne_root hplace), if_neg hne]
        rw [hhere] at h ⊢
        dsimp only at h ⊢
        split
        · rename_i hup
          rw [if_pos hup] at h
          exact ih h
        · rename_i hup
          rw [if_neg hup] at h
          split
          · rename_i hlong
            rw [if_pos hlong] at h
            cases h
          · rename_i hlong
            rw [if_neg hlong] at h
            exact ih h

theorem locate_put {tree : FileTree} {place : List Text}
    (hplace : tree.at? place ≠ some .directory) (entry : Entry) {p : Path} {there : List Text}
    (h : tree.locate p = .ok there) : (tree.put place entry).locate p = .ok there := by
  have hhome : (tree.put place entry).home = tree.home := by
    unfold put
    split <;> rfl
  unfold locate at h ⊢
  dsimp only at h ⊢
  split
  · rename_i fault hfault
    rw [hfault] at h
    cases h
  · rename_i hfault
    rw [hfault] at h
    dsimp only at h
    split
    · rename_i hnull
      rw [if_pos hnull] at h
      cases h
    · rename_i hnull
      rw [if_neg hnull] at h
      rw [hhome]
      cases hwalk : tree.walk (if p.isAbsolute then [] else tree.home) p.parts with
      | error obstacle =>
        rw [hwalk] at h
        cases h
      | ok found =>
        rw [hwalk] at h
        rw [walk_put hplace entry hwalk]
        exact h

theorem write_eq_ok_iff {tree after : FileTree} {p : Path} {content : Octets} :
    tree.write p content = .ok after ↔ ∃ place, tree.locate p = .ok place ∧
      tree.at? place ≠ some .directory ∧ after = tree.put place (.file content) := by
  unfold write
  cases hplace : tree.locate p with
  | error fault => simp [bind, Except.bind]
  | ok place =>
    cases hthere : tree.at? place with
    | none => simp [bind, Except.bind, hthere, pure, Except.pure, eq_comm]
    | some found =>
      cases found <;>
        simp [bind, Except.bind, hthere, pure, Except.pure, throw, throwThe, MonadExceptOf.throw,
          eq_comm]

theorem read_eq_ok {tree : FileTree} {p : Path} {place : List Text} {content : Octets}
    (hplace : tree.locate p = .ok place) (h : tree.fileAt? place = some content) :
    tree.read p = .ok content := by
  unfold fileAt? at h
  unfold read
  rw [hplace]
  cases hthere : tree.at? place with
  | none => simp [hthere] at h
  | some found =>
    cases found with
    | directory => simp [hthere] at h
    | file octets =>
      obtain rfl : octets = content := by simpa [hthere] using h
      simp [bind, Except.bind, hthere, pure, Except.pure]

theorem makeDirectory_sameFiles {tree after : FileTree} {p : Path}
    (h : tree.makeDirectory p = .ok after) : SameFiles tree after := by
  unfold makeDirectory at h
  cases hplace : tree.locate p with
  | error fault => simp [hplace, bind, Except.bind] at h
  | ok place =>
    cases hthere : tree.at? place with
    | some found =>
      simp [hplace, hthere, bind, Except.bind, throw, throwThe, MonadExceptOf.throw] at h
    | none =>
      obtain rfl : tree.put place .directory = after := by
        simpa [hplace, hthere, bind, Except.bind, pure, Except.pure] using h
      have hfree : tree.at? place ≠ some .directory := by simp [hthere]
      have hroot : place ≠ [] := ne_root hfree
      intro other
      by_cases hother : other = place
      · subst hother
        simp [fileAt?, at?_put hroot, hthere]
      · simp [fileAt?, at?_put hroot, hother]

end FileTree

open FileTree

/-! ## Operations on a machine -/

/-- An operation that leaves all files alone. -/
def Harmless {α : Type} (x : InMemory α) : Prop :=
  ∀ machine, SameFiles machine.files (x machine).2.files

theorem harmless_pure {α : Type} (a : α) : Harmless (pure a : InMemory α) :=
  fun machine => .refl machine.files

theorem Harmless.bind {α β : Type} {x : InMemory α} {f : α → InMemory β} (hx : Harmless x)
    (hf : ∀ a, Harmless (f a)) : Harmless (x >>= f) :=
  fun machine => (hx machine).trans (hf _ _)

theorem harmless_holdsDirectory (p : Path) : Harmless (Host.holdsDirectory p) :=
  fun machine => .refl machine.files

theorem harmless_makeDirectory (p : Path) : Harmless (Host.makeDirectory p) := by
  intro machine
  change SameFiles machine.files (InMemory.change (·.makeDirectory p) machine).2.files
  unfold InMemory.change
  dsimp only
  cases h : machine.files.makeDirectory p with
  | ok after => exact makeDirectory_sameFiles h
  | error fault => exact .refl machine.files

theorem harmless_orThere (p : Path) (outcome : Except Fault Unit) :
    Harmless (Host.orThere p outcome) := by
  cases outcome with
  | ok => exact harmless_pure _
  | error fault =>
    unfold Host.orThere
    refine (harmless_holdsDirectory p).bind fun there => ?_
    split
    · exact harmless_pure _
    · exact harmless_pure _

theorem harmless_makeDirectoriesUpTo (depth : Nat) (p : Path) :
    Harmless (Host.makeDirectoriesUpTo depth p) := by
  induction depth generalizing p with
  | zero =>
    rw [Host.makeDirectoriesUpTo]
    refine (harmless_makeDirectory p).bind fun outcome => ?_
    cases outcome with
    | ok => exact harmless_pure _
    | error fault => exact harmless_orThere p _
  | succ above ih =>
    rw [Host.makeDirectoriesUpTo]
    refine (harmless_makeDirectory p).bind fun outcome => ?_
    cases outcome with
    | ok => exact harmless_pure _
    | error fault =>
      dsimp only
      split
      · refine (ih p.parent).bind fun outcome => ?_
        cases outcome with
        | ok => exact (harmless_makeDirectory p).bind fun _ => harmless_orThere p _
        | error fault => exact harmless_pure _
      · exact harmless_orThere p _

/-- Making directories leaves all files alone, whether or not it succeeds. -/
theorem harmless_makeDirectories (p : Path) : Harmless (Host.makeDirectories p) :=
  harmless_makeDirectoriesUpTo _ p

/-! ## Writing a text -/

theorem run_holds (p : Path) (machine : Machine) :
    (Host.holds p : InMemory _) machine = (machine.files.holds p, machine) := rfl

theorem run_read (p : Path) (machine : Machine) :
    (Host.read p : InMemory _) machine = (machine.files.read p, machine) := rfl

theorem run_write (p : Path) (content : Octets) (machine : Machine) :
    (Host.write p content : InMemory _) machine =
      match machine.files.write p content with
      | .ok files => (.ok (), { machine with files })
      | .error fault => (.error fault, machine) := rfl

/-- A file that cannot be opened is left as it is. -/
theorem writeText_refused {machine : Machine} {p : Path} {fault : Fault}
    (h : machine.files.write p [] = .error fault) (t : Text) :
    (Host.writeText p t : InMemory _) machine = (.error fault, machine) := by
  rw [Host.writeText, run_bind, run_write, h]
  rfl

/-- A file that can be opened is emptied by a text that has no encoding, and else holds the text. -/
theorem writeText_opened {machine : Machine} {p : Path} {opened : FileTree}
    (h : machine.files.write p [] = .ok opened) (t : Text) :
    ∃ place after, after.files.locate p = .ok place ∧
      match Utf8.encode t with
      | .ok octets => (Host.writeText p t : InMemory _) machine = (.ok (), after) ∧
          PutFile machine.files after.files place octets
      | .error fault => (Host.writeText p t : InMemory _) machine = (.error fault, after) ∧
          PutFile machine.files after.files place [] := by
  obtain ⟨place, hplace, hthere, rfl⟩ := write_eq_ok_iff.mp h
  have hroot : place ≠ [] := ne_root hthere
  have hopened := putFile_put hroot machine.files []
  have hlocate := locate_put hthere (.file []) hplace
  cases hencode : Utf8.encode t with
  | error fault =>
    refine ⟨place, { machine with files := _ }, hlocate, ?_, hopened⟩
    rw [Host.writeText, run_bind, run_write, h]
    dsimp only
    rw [hencode]
    rfl
  | ok octets =>
    -- The place now holds the emptied file, so that it is written without another obstacle.
    have hfile : (machine.files.put place (.file [])).at? place ≠ some .directory := by
      simp [at?_put hroot]
    have hwrite : (machine.files.put place (.file [])).write p octets = .ok _ :=
      write_eq_ok_iff.mpr ⟨place, hlocate, hfile, rfl⟩
    refine ⟨place, ⟨(machine.files.put place (.file [])).put place (.file octets), machine.time⟩,
      locate_put hfile _ hlocate, ?_, hopened.trans (putFile_put hroot _ octets)⟩
    rw [Host.writeText, run_bind, run_write, h]
    dsimp only
    rw [hencode]
    dsimp only
    rw [run_write, hwrite]

end TagAudit
