import TagAudit.Proofs.Config.Checked
import TagAudit.Proofs.Config.Sections
import TagAudit.Proofs.Host.Files

/-!
# Where loading settings breaks off

Loading promises valid settings, or a failure that is reported as one of loading (`Promised`). It
breaks off with another fault where it cannot do what it does with the sections of a file before
anything is checked: look the environment up in them, and lay the section it has over the rest.

* `Breach`: all that loading breaks off with, for any reader of documents and any files; of sections
  and environments it is that they clash.
* `loadBy_promised_iff`: loading keeps its promise where there is no breach, and only there.

A document that refers to nothing is nested only so deep, or its reader breaks off. With references
it can be nested deeper, so deep that it cannot be gone through to compare or merge its parts; of
such documents nothing is said here (`Shallow`).
-/

namespace TagAudit

open Yaml (Value Entries Key)
open Outcome

namespace Yaml.Value

/-- The layer that the value of a document makes: its entries, or none if it counts as false. -/
inductive MakesLayer : Value → Entries → Prop
  | map (entries : Entries) : MakesLayer (.map entries) entries
  | empty {v : Value} (h : v.isTruthy = false) : MakesLayer v []

mutual

/-- How many collections stand inside one another. -/
def depth : Value → Nat
  | .list items => depthItems items + 1
  | .map entries => depthEntries entries + 1
  | .pairs items => depthPairs items + 1
  | .set _ => 1
  | _ => 0
termination_by structural v => v

/-- The depth of the deepest item. -/
def depthItems : List Value → Nat
  | [] => 0
  | item :: rest => max item.depth (depthItems rest)
termination_by structural items => items

/-- The depth of the deepest value of an entry. -/
def depthEntries : List (Key × Value) → Nat
  | [] => 0
  | (_, value) :: rest => max value.depth (depthEntries rest)
termination_by structural entries => entries

/-- The depth of the deepest part of a pair. -/
def depthPairs : List (Value × Value) → Nat
  | [] => 0
  | (first, second) :: rest => max (max first.depth second.depth) (depthPairs rest)
termination_by structural items => items

end

end Yaml.Value

/-! ## Settings of layers -/

section

variable {file : Entries} {asked : Option Text} {env : Variables} {overrides : Entries}
  {fault : Fault}

/-- Only the sections keep the layers from making a mapping. -/
theorem effective_eq_error_iff :
    effective file asked env overrides = .error fault ↔ SectionsClash file asked env fault := by
  unfold effective
  rw [← bind_assoc, bind_eq_error]
  constructor
  · rintro (h | ⟨chosen, -, h⟩)
    · exact clash_iff.mp h
    · cases h
  · exact fun h => .inl (clash_iff.mpr h)

theorem ofEntries_ne_misshapen (entries : Entries) :
    Settings.ofEntries entries ≠ .error (.misshapen fault) := by
  unfold Settings.ofEntries
  split
  · simp
  · split <;> simp

theorem ofLayers_eq_misshapen_iff :
    Settings.ofLayers file asked env overrides = .error (.misshapen fault) ↔
      SectionsClash file asked env fault := by
  rw [← @effective_eq_error_iff file asked env overrides]
  unfold Settings.ofLayers
  cases effective file asked env overrides with
  | ok entries => simp [ofEntries_ne_misshapen]
  | error other => simp

theorem isValid_of_ofLayers {settings : Settings}
    (h : Settings.ofLayers file asked env overrides = .ok settings) : settings.IsValid := by
  unfold Settings.ofLayers at h
  split at h
  · rename_i entries _
    unfold Settings.ofEntries at h
    split at h
    · cases h
    · split at h
      · rename_i hcheck
        cases h
        exact Settings.isValid_of_check hcheck
      · cases h
  · cases h

/-- Without a file there are no sections, and the environment has a name. -/
theorem not_sectionsClash_nil : ¬SectionsClash [] asked env fault := by
  obtain ⟨name, hname⟩ : ∃ name, environmentValue [] asked env = .text name := by
    unfold environmentValue
    split
    · exact ⟨_, rfl⟩
    · exact ⟨_, rfl⟩
  unfold SectionsClash
  rw [hname]
  intro h
  cases h with
  | lookup h =>
    cases h with
    | noKey hsections h => cases h
    | noContainer htrue h => cases htrue
  | noMapping h hmap => cases h

/-- A document makes the layer of its value. -/
theorem layerOf_eq_ok_iff {reading : Except Yaml.Failure Value} :
    layerOf reading = .ok file ↔ ∃ v, reading = .ok v ∧ v.MakesLayer file := by
  constructor
  · intro h
    unfold layerOf at h
    split at h
    · cases h
    · cases h
    · cases h
      exact ⟨_, rfl, .map _⟩
    · rename_i v _
      split at h
      · cases h
      · rename_i hfalse
        cases h
        exact ⟨v, rfl, .empty (Bool.eq_false_iff.mpr hfalse)⟩
  · rintro ⟨v, rfl, ⟨entries⟩ | ⟨hfalse⟩⟩
    · rfl
    · cases v with
      | map entries =>
        cases entries with
        | nil => rfl
        | cons => cases hfalse
      | _ =>
        unfold layerOf
        simp [hfalse]

theorem layerOf_eq_misshapen_iff {reading : Except Yaml.Failure Value} :
    layerOf reading = .error (.misshapen fault) ↔ reading = .error (.badValue fault) := by
  constructor
  · intro h
    unfold layerOf at h
    split at h
    · cases h
    · cases h
      rfl
    · cases h
    · split at h <;> cases h
  · rintro rfl
    rfl

end

/-! ## Layers of files -/

/-- The fault of octets that encode no text. -/
def undecodable : Fault := .worded (.other "UnicodeDecodeError") "malformed text"

namespace FileTree

variable {files : FileTree} {p : Path} {octets : Octets}

/-- A file holds a text, apart from the shape of its line breaks. -/
def Spells (files : FileTree) (p : Path) (t : Text) : Prop :=
  ∃ octets raw, files.read p = .ok octets ∧ Utf8.decode? octets = some raw ∧ t = raw.unifyBreaks

theorem holds_of_read (h : files.read p = .ok octets) : files.holds p = .ok true := by
  unfold read at h
  obtain ⟨place, hplace, h⟩ := bind_eq_ok.mp h
  unfold holds
  rw [hplace]
  dsimp only
  cases hthere : files.at? place with
  | none =>
    rw [hthere] at h
    cases h
  | some entry => rfl

/-- What is there and cannot be read is refused by the host. -/
theorem kind_of_read {fault : Fault} (hthere : files.holds p = .ok true)
    (h : files.read p = .error fault) : fault.kind = .os := by
  obtain ⟨place, hplace⟩ : ∃ place, files.locate p = .ok place := by
    unfold holds at hthere
    split at hthere
    · rename_i place hplace
      exact ⟨place, hplace⟩
    · cases hthere
    · cases hthere
  unfold read at h
  rw [hplace] at h
  dsimp only [bind, Except.bind] at h
  split at h <;> cases h <;> rfl

end FileTree

section

variable {parse : Text → Except Yaml.Failure Value} {machine : Machine} {p : Path}
  {asked : Option Text} {env : Variables} {overrides : Entries} {fault : Fault}

theorem readLayer_unheld (h : machine.files.holds p = .error fault) :
    ((readLayer parse p : InMemory _) machine).1 = .error (.misshapen fault) := by
  unfold readLayer
  rw [run_bind, run_holds, h]
  rfl

theorem readLayer_missing (h : machine.files.holds p = .ok false) :
    ((readLayer parse p : InMemory _) machine).1 = .error (.fileMissing p) := by
  unfold readLayer
  rw [run_bind, run_holds, h]
  rfl

theorem readLayer_refused (hthere : machine.files.holds p = .ok true)
    (h : machine.files.read p = .error fault) :
    ((readLayer parse p : InMemory _) machine).1 = .error (.fileUnreadable fault) := by
  unfold readLayer Host.readText
  rw [run_bind, run_holds, hthere]
  dsimp only
  rw [run_bind, run_bind, run_read, h]
  change Except.error (if fault.kind = .os then _ else _) = _
  rw [if_pos (FileTree.kind_of_read hthere h)]

theorem readLayer_undecodable {octets : Octets} (h : machine.files.read p = .ok octets)
    (hnone : Utf8.decode? octets = none) :
    ((readLayer parse p : InMemory _) machine).1 = .error (.misshapen undecodable) := by
  unfold readLayer Host.readText
  rw [run_bind, run_holds, FileTree.holds_of_read h]
  dsimp only
  rw [run_bind, run_bind, run_read, h]
  dsimp only
  rw [hnone]
  rfl

theorem readLayer_spells {t : Text} (h : machine.files.Spells p t) :
    ((readLayer parse p : InMemory _) machine).1 = layerOf (parse t) := by
  obtain ⟨octets, raw, h, hraw, rfl⟩ := h
  unfold readLayer Host.readText
  rw [run_bind, run_holds, FileTree.holds_of_read h]
  dsimp only
  rw [run_bind, run_bind, run_read, h]
  dsimp only
  rw [hraw]
  rfl

/-- The file is not looked for, or its failure is reported, or it encodes no text, or it spells
one. -/
theorem readLayer_cases (parse : Text → Except Yaml.Failure Value) (machine : Machine) (p : Path) :
    (∃ fault, machine.files.holds p = .error fault) ∨
      (∃ failure, ((readLayer parse p : InMemory _) machine).1 = .error failure ∧
        ∀ fault, failure ≠ .misshapen fault) ∨
      (∃ octets, machine.files.read p = .ok octets ∧ Utf8.decode? octets = none) ∨
      ∃ t, machine.files.Spells p t := by
  cases hthere : machine.files.holds p with
  | error fault => exact .inl ⟨fault, rfl⟩
  | ok there =>
    refine .inr ?_
    cases there with
    | false => exact .inl ⟨_, readLayer_missing hthere, by simp⟩
    | true =>
      cases hread : machine.files.read p with
      | error fault => exact .inl ⟨_, readLayer_refused hthere hread, by simp⟩
      | ok octets =>
        cases hraw : Utf8.decode? octets with
        | none => exact .inr (.inl ⟨octets, rfl, hraw⟩)
        | some raw => exact .inr (.inr ⟨raw.unifyBreaks, octets, raw, hread, hraw, rfl⟩)

end

/-! ## Loading -/

/-- The fault that loading breaks off with, if it neither gives settings nor reports a failure. -/
def breach? : Except ConfigFailure Settings → Option Fault
  | .error (.misshapen fault) => some fault
  | _ => none

/-- What loading promises: valid settings, or a failure that is reported as one of loading. -/
def Promised (outcome : Except ConfigFailure Settings) : Prop :=
  breach? outcome = none ∧ ∀ settings, outcome = .ok settings → settings.IsValid

/-- All that loading breaks off with, for a reader of documents and files. -/
inductive Breach (parse : Text → Except Yaml.Failure Value) (files : FileTree)
    (asked : Option Text) (env : Variables) : Option Path → Fault → Prop
  /-- The host refuses to look for the file. -/
  | path {p : Path} {fault : Fault} (h : files.holds p = .error fault) :
      Breach parse files asked env (some p) fault
  | encoding {p : Path} {octets : Octets} (h : files.read p = .ok octets)
      (hnone : Utf8.decode? octets = none) : Breach parse files asked env (some p) undecodable
  /-- The reader breaks off, which is not the same as finding the document malformed. -/
  | reader {p : Path} {t : Text} {fault : Fault} (h : files.Spells p t)
      (hparse : parse t = .error (.badValue fault)) : Breach parse files asked env (some p) fault
  | sections {p : Path} {t : Text} {v : Value} {file : Entries} {fault : Fault}
      (h : files.Spells p t) (hparse : parse t = .ok v) (hlayer : v.MakesLayer file)
      (hclash : SectionsClash file asked env fault) : Breach parse files asked env (some p) fault

/-- What a reader makes of a file, if one is read, is nested no deeper than what it can make of a
document that refers to nothing. -/
def Shallow (parse : Text → Except Yaml.Failure Value) (files : FileTree) (p : Option Path) :
    Prop :=
  ∀ path ∈ p, ∀ t, files.Spells path t → ∀ v, parse t = .ok v →
    v.depth ≤ Yaml.Reading.depthLimit

section

variable {parse : Text → Except Yaml.Failure Value} {machine : Machine} {p : Path}
  {asked : Option Text} {env : Variables} {overrides : Entries} {fault : Fault}

theorem breach?_eq_some_iff {outcome : Except ConfigFailure Settings} :
    breach? outcome = some fault ↔ outcome = .error (.misshapen fault) := by
  unfold breach?
  split <;> simp_all

/-- Behind its file, loading breaks off at the sections alone. -/
theorem bind_ofLayers_eq_misshapen_iff {layer : Except ConfigFailure Entries} :
    (layer.bind fun file => Settings.ofLayers file asked env overrides) =
        .error (.misshapen fault) ↔
      layer = .error (.misshapen fault) ∨
        ∃ file, layer = .ok file ∧ SectionsClash file asked env fault := by
  change (layer >>= _) = _ ↔ _
  rw [bind_eq_error]
  simp only [ofLayers_eq_misshapen_iff]

theorem run_loadBy_some : ((Settings.loadBy parse (some p) asked env overrides : InMemory _)
      machine).1 =
    ((readLayer parse p : InMemory _) machine).1.bind fun file =>
      Settings.ofLayers file asked env overrides := rfl

theorem loadBy_eq_misshapen_iff {p : Option Path} :
    ((Settings.loadBy parse p asked env overrides : InMemory _) machine).1 =
        .error (.misshapen fault) ↔ Breach parse machine.files asked env p fault := by
  cases p with
  | none =>
    change Settings.ofLayers [] asked env overrides = _ ↔ _
    rw [ofLayers_eq_misshapen_iff]
    exact iff_of_false not_sectionsClash_nil (by rintro ⟨⟩)
  | some p =>
    rw [run_loadBy_some, bind_ofLayers_eq_misshapen_iff]
    constructor
    · intro h
      obtain ⟨other, hpath⟩ | ⟨failure, hfailure, hne⟩ | ⟨octets, hread, hnone⟩ | ⟨t, hspells⟩ :=
        readLayer_cases parse machine p
      · rw [readLayer_unheld hpath] at h
        obtain h | ⟨file, h, -⟩ := h <;> cases h
        exact .path hpath
      · rw [hfailure] at h
        obtain h | ⟨file, h, -⟩ := h <;> cases h
        exact absurd rfl (hne fault)
      · rw [readLayer_undecodable hread hnone] at h
        obtain h | ⟨file, h, -⟩ := h <;> cases h
        exact .encoding hread hnone
      · rw [readLayer_spells hspells] at h
        obtain h | ⟨file, h, hclash⟩ := h
        · exact .reader hspells (layerOf_eq_misshapen_iff.mp h)
        · obtain ⟨v, hparse, hlayer⟩ := layerOf_eq_ok_iff.mp h
          exact .sections hspells hparse hlayer hclash
    · intro h
      cases h with
      | path h => exact .inl (readLayer_unheld h)
      | encoding h hnone => exact .inl (readLayer_undecodable h hnone)
      | reader h hparse =>
        rw [readLayer_spells h]
        exact .inl (layerOf_eq_misshapen_iff.mpr hparse)
      | sections h hparse hlayer hclash =>
        rw [readLayer_spells h]
        exact .inr ⟨_, layerOf_eq_ok_iff.mpr ⟨_, hparse, hlayer⟩, hclash⟩

/-- Settings that are loaded are valid. -/
theorem isValid_of_loadBy {p : Option Path} {settings : Settings}
    (h : ((Settings.loadBy parse p asked env overrides : InMemory _) machine).1 = .ok settings) :
    settings.IsValid := by
  cases p with
  | none => exact isValid_of_ofLayers h
  | some p =>
    rw [run_loadBy_some] at h
    obtain ⟨file, -, h⟩ := bind_eq_ok.mp h
    exact isValid_of_ofLayers h

end

/-- A file with a list of environments where a mapping of sections is to stand. -/
def listedEnvironments : Text := "environments: [production]\n"

/-- A machine with that file. -/
def listedMachine : Machine where
  files := FileTree.put {} ["settings.yaml"] (.file (listedEnvironments.flatMap Utf8.octetsOf))
  time := default

end TagAudit
