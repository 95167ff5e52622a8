import TagAudit.Proofs.Data.Members
import TagAudit.Proofs.Host.Files
import TagAudit.Table.Files

/-!
# Tables that fail to be written

A table is rendered before its file is touched, and its directory is made and its file opened before
any content is lost. Only the encoding of the text comes too late: a text with a surrogate is found
out after the file was emptied.

* `save_refused`, `save_opened`: what saving a text does, where the file cannot or can be opened.
* `Attempt`, `attempts`: tables written one after the other, whether or not each of them could be.
* `Attempt.Spoils`: an attempt that opens its file for a text without an encoding.
* `attempts_atomic`: every other failed attempt leaves all files alone, and the files noted as
  written are those of the attempts that succeeded.
* `attempts_spoil`: an attempt that loses the table that was there.
-/

namespace TagAudit.FileStore

open FileTree Outcome

/-! ## Saving a text -/

/-- The host lets the file at a path be opened, its directory made before. -/
def Opens (directory p : Path) (machine : Machine) : Prop :=
  ((save directory p [] : InMemory _) machine).1 = .ok ()

section

variable {directory p : Path} {machine : Machine}

theorem run_save (t : Text) : (save directory p t : InMemory _) machine =
    match (Host.makeDirectories directory : InMemory _) machine with
    | (.error fault, after) => (.error fault, after)
    | (.ok (), after) => (Host.writeText p t : InMemory _) after := by
  rw [save, run_bind]
  cases (Host.makeDirectories directory : InMemory _) machine with
  | mk outcome after => cases outcome <;> rfl

/-- A file that cannot be opened: no text is saved, and no file changes. -/
theorem save_refused (h : ¬Opens directory p machine) (t : Text) :
    ∃ fault after, (save directory p t : InMemory _) machine = (.error fault, after) ∧
      SameFiles machine.files after.files := by
  have hmade := harmless_makeDirectories directory machine
  unfold Opens at h
  rw [run_save] at h ⊢
  cases hrun : (Host.makeDirectories directory : InMemory _) machine with
  | mk outcome after =>
    rw [hrun] at h hmade
    cases outcome with
    | error fault => exact ⟨fault, after, rfl, hmade⟩
    | ok =>
      dsimp only at h ⊢
      cases hopen : after.files.write p [] with
      | error fault => exact ⟨fault, after, writeText_refused hopen t, hmade⟩
      | ok opened =>
        obtain ⟨place, last, -, hempty, -⟩ := writeText_opened hopen []
        exact absurd (congrArg Prod.fst hempty) h

/-- A file that can be opened: a text without an encoding leaves it empty. -/
theorem save_opened (h : Opens directory p machine) (t : Text) :
    ∃ place after, after.files.locate p = .ok place ∧
      match Utf8.encode t with
      | .ok octets => (save directory p t : InMemory _) machine = (.ok (), after) ∧
          PutFile machine.files after.files place octets
      | .error fault => (save directory p t : InMemory _) machine = (.error fault, after) ∧
          PutFile machine.files after.files place [] := by
  have hmade := harmless_makeDirectories directory machine
  unfold Opens at h
  rw [run_save] at h ⊢
  cases hrun : (Host.makeDirectories directory : InMemory _) machine with
  | mk outcome after =>
    rw [hrun] at h hmade
    cases outcome with
    | error fault => cases h
    | ok =>
      dsimp only at h ⊢
      cases hopen : after.files.write p [] with
      | error fault =>
        rw [writeText_refused hopen] at h
        cases h
      | ok opened =>
        obtain ⟨place, last, hplace, hlast⟩ := writeText_opened hopen t
        refine ⟨place, last, hplace, ?_⟩
        cases hencode : Utf8.encode t with
        | ok octets =>
          rw [hencode] at hlast
          exact ⟨hlast.1, hmade.putFile hlast.2⟩
        | error fault =>
          rw [hencode] at hlast
          exact ⟨hlast.1, hmade.putFile hlast.2⟩

end

/-! ## Attempts -/

/-- A table that was to be written, with what came of it, and with the store and the machine before
it and after it. -/
structure Attempt where
  table : Table
  outcome : Except Fault Unit
  before : FileStore × Machine
  after : FileStore × Machine

/-- Writes a table, whether or not that succeeds. -/
def attempt (state : FileStore × Machine) (t : Table) : Attempt :=
  let ((outcome, store), machine) := (state.1.write t : InMemory _) state.2
  { table := t, outcome, before := state, after := (store, machine) }

/-- Writes tables one after the other, whether or not each of them can be. -/
def attempts (state : FileStore × Machine) : List Table → List Attempt
  | [] => []
  | t :: ts => attempt state t :: attempts (attempt state t).after ts

/-- The store and the machine after some tables. -/
def stateAfter (state : FileStore × Machine) (ts : List Table) : FileStore × Machine :=
  ts.foldl (fun state t => (attempt state t).after) state

namespace Attempt

variable (a : Attempt)

/-- The file of an attempt. -/
def path : Path := a.before.1.pathOf a.table.name

/-- The file of an attempt that succeeded. -/
def success? : Option Path :=
  match a.outcome with
  | .ok () => some a.path
  | .error _ => none

/-- The text of a table holds a surrogate, which has no encoding, and its file can be opened. -/
def Spoils : Prop :=
  (∃ text, a.table.render a.before.1.format = .ok text ∧ ∃ c ∈ text, c.isSurrogate = true) ∧
    Opens a.before.1.directory a.path a.before.2

/-- What an attempt leaves: the new table if it succeeds, and else the store as it was, with all
files as they were unless it spoils its own. -/
inductive Leaves : Prop where
  | written {text : Text} {octets : Octets} {place : List Text} : a.outcome = .ok () →
    a.table.render a.before.1.format = .ok text → Utf8.encode text = .ok octets →
    a.after.2.files.locate a.path = .ok place →
    PutFile a.before.2.files a.after.2.files place octets →
    a.after.1 = a.before.1.noting a.path → Leaves
  | kept {fault : Fault} : a.outcome = .error fault → ¬a.Spoils → a.after.1 = a.before.1 →
    SameFiles a.before.2.files a.after.2.files → Leaves
  | spoiled {fault : Fault} {place : List Text} : a.outcome = .error fault → a.Spoils →
    a.after.1 = a.before.1 → a.after.2.files.locate a.path = .ok place →
    PutFile a.before.2.files a.after.2.files place [] → Leaves

end Attempt

theorem run_write_table (store : FileStore) (t : Table) (machine : Machine) :
    (store.write t : InMemory _) machine =
      match t.render store.format with
      | .error fault => ((.error fault, store), machine)
      | .ok text =>
        match (save store.directory (store.pathOf t.name) text : InMemory _) machine with
        | (.error fault, after) =>
          ((.error (reported t.name (store.pathOf t.name) fault), store), after)
        | (.ok (), after) => ((.ok (), store.noting (store.pathOf t.name)), after) := by
  rw [write]
  cases t.render store.format with
  | error fault => rfl
  | ok text =>
    dsimp only
    rw [run_bind]
    cases (save store.directory (store.pathOf t.name) text : InMemory _) machine with
    | mk outcome after => cases outcome <;> rfl

theorem attempt_eq {state : FileStore × Machine} {t : Table} {outcome : Except Fault Unit}
    {store : FileStore} {machine : Machine}
    (h : (state.1.write t : InMemory _) state.2 = ((outcome, store), machine)) :
    attempt state t = { table := t, outcome, before := state, after := (store, machine) } := by
  rw [attempt, h]

/-- **One attempt.** -/
theorem attempt_leaves (state : FileStore × Machine) (t : Table) : (attempt state t).Leaves := by
  obtain ⟨store, machine⟩ := state
  have hrun := run_write_table store t machine
  cases hrender : t.render store.format with
  | error fault =>
    rw [hrender] at hrun
    rw [attempt_eq hrun]
    refine .kept rfl ?_ rfl (.refl machine.files)
    rintro ⟨⟨text, htext, -⟩, -⟩
    rw [hrender] at htext
    cases htext
  | ok text =>
    rw [hrender] at hrun
    dsimp only at hrun
    by_cases hopens : Opens store.directory (store.pathOf t.name) machine
    · obtain ⟨place, after, hplace, hsaved⟩ := save_opened hopens text
      cases hencode : Utf8.encode text with
      | ok octets =>
        rw [hencode] at hsaved
        rw [hsaved.1] at hrun
        rw [attempt_eq hrun]
        exact .written rfl hrender hencode hplace hsaved.2 rfl
      | error fault =>
        rw [hencode] at hsaved
        rw [hsaved.1] at hrun
        rw [attempt_eq hrun]
        have hsurrogate := Utf8.encode_eq_error_iff.mp ⟨fault, hencode⟩
        exact .spoiled rfl ⟨⟨text, hrender, hsurrogate⟩, hopens⟩ rfl hplace hsaved.2
    · obtain ⟨fault, after, hsaved, hsame⟩ := save_refused hopens text
      rw [hsaved] at hrun
      rw [attempt_eq hrun]
      exact .kept rfl (fun h => hopens h.2) rfl hsame

/-! ## Runs of attempts -/

theorem attempts_concat (state : FileStore × Machine) (ts : List Table) (t : Table) :
    attempts state (ts ++ [t]) = attempts state ts ++ [attempt (stateAfter state ts) t] := by
  induction ts generalizing state with
  | nil => rfl
  | cons first ts ih => simp [attempts, stateAfter, ih]

theorem stateAfter_concat (state : FileStore × Machine) (ts : List Table) (t : Table) :
    stateAfter state (ts ++ [t]) = (attempt (stateAfter state ts) t).after := by
  simp [stateAfter]

theorem leaves_of_mem {state : FileStore × Machine} {ts : List Table} {a : Attempt}
    (ha : a ∈ attempts state ts) : a.Leaves := by
  induction ts generalizing state with
  | nil => cases ha
  | cons t ts ih =>
    rcases List.mem_cons.mp ha with rfl | ha
    · exact attempt_leaves state t
    · exact ih ha

theorem written_noting (store : FileStore) (p : Path) :
    (store.noting p).written =
      if p ∈ store.written then store.written else store.written ++ [p] := by
  unfold noting
  split <;> rfl

/-- What is noted as written are the files of the attempts that succeeded, each once. -/
theorem written_stateAfter {state : FileStore × Machine} (hnew : state.1.written = [])
    (ts : List Table) : (stateAfter state ts).1.written =
      ((attempts state ts).filterMap Attempt.success?).eraseDups := by
  induction ts using List.reverseRecOn with
  | nil => exact hnew
  | append_singleton ts t ih =>
    rw [stateAfter_concat, attempts_concat, List.filterMap_append]
    generalize hlast : attempt (stateAfter state ts) t = last
    have hbefore : last.before = stateAfter state ts := hlast ▸ rfl
    rw [← hbefore] at ih
    cases hlast ▸ attempt_leaves (stateAfter state ts) t with
    | written hok _ _ _ _ hnoted =>
      have hsuccess : last.success? = some last.path := by rw [Attempt.success?, hok]
      have hmem : last.path ∈ (attempts state ts).filterMap Attempt.success? ↔
          last.path ∈ last.before.1.written := by
        rw [ih, List.mem_eraseDups]
      simp only [List.filterMap_cons, hsuccess, List.filterMap_nil, Members.eraseDups_concat,
        hnoted, written_noting, hmem, ih]
    | kept hfault _ hstore _ =>
      have hsuccess : last.success? = none := by rw [Attempt.success?, hfault]
      simp [hsuccess, hstore, ih]
    | spoiled hfault _ hstore _ _ =>
      have hsuccess : last.success? = none := by rw [Attempt.success?, hfault]
      simp [hsuccess, hstore, ih]

theorem map_table_attempts (state : FileStore × Machine) (ts : List Table) :
    (attempts state ts).map (·.table) = ts := by
  induction ts generalizing state with
  | nil => rfl
  | cons t ts ih => exact congrArg (t :: ·) (ih _)

/-- **Failed writes.** Whatever the files, the format and the tables: a table that is written is in
its file, a failed attempt leaves the store and all files as they were unless it spoils its own
file, and the files noted as written are those of the attempts that succeeded, each once and in the
order of their first success. -/
theorem attempts_atomic (directory : Path) (format : TableFormat) (machine : Machine)
    (tables : List Table) :
    let start : FileStore × Machine := ({ directory, format }, machine)
    (attempts start tables).map (·.table) = tables ∧
    (∀ a ∈ attempts start tables, a.Leaves) ∧
    (stateAfter start tables).1.written =
      ((attempts start tables).filterMap Attempt.success?).eraseDups :=
  ⟨map_table_attempts _ tables, fun _ ha => leaves_of_mem ha, written_stateAfter rfl tables⟩

/-- A table of one cell. -/
def cellTable (cell : Text) : Table where
  name := "T"
  columns := ["a"]
  rows := [.object [("a", .text cell)]]

/-- A table is written, and then one of the same name that holds a surrogate: the second attempt
fails, and the file that held the first table is empty. -/
theorem attempts_spoil :
    let start : FileStore × Machine := ({ directory := Path.ofText "out", format := .csv }, default)
    ¬∀ a ∈ attempts start [cellTable "x", cellTable [CodePoint.ofNat 0xD800]],
      ∀ fault, a.outcome = .error fault → SameFiles a.before.2.files a.after.2.files := by
  intro start hall
  let last := attempt (attempt start (cellTable "x")).after (cellTable [CodePoint.ofNat 0xD800])
  have hfailed : last.outcome = .error (.unencodable (CodePoint.ofNat 0xD800) 3 3) := by
    decide +kernel
  have hsame := hall last (List.mem_cons_of_mem _ List.mem_cons_self) _ hfailed ["out", "T.csv"]
  revert hsame
  decide +kernel

end TagAudit.FileStore
