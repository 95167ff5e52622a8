import Mathlib.Data.List.Forall2
import TagAudit.Inspection.Inspector
import TagAudit.Proofs.Data.Members
import TagAudit.Proofs.Data.Written
import TagAudit.Proofs.Outcome
import TagAudit.Table.Memory

/-!
# Which tables are written

Tables are made one behind the other, each right before it is written. One that cannot be made ends
the writing; the tables in front of it are in the store by then.

* `writable`, `storeAll`: the tables in front of the first that fails, and a store with them in it.
* `writeAll_writer`: writing into a store in memory puts exactly those there.
* `Reaches`, `reaches_length`: how many of the tables of records these are. A table of records fails
  when the raw data of a record hold an integer that is too long to be written.
-/

namespace TagAudit.Inspection

open Outcome

/-! ## Tables in front of the first that fails -/

/-- The names of the tables of records, in the order in which they are written. -/
def recordNames : List Text := ["GTM_Tags", "GTM_Triggers", "GTM_Variables", "GTM_Vendors"]

/-- The tables in front of the first one that cannot be made. -/
def writable : List (Except Fault Table) → List Table
  | .ok table :: rest => table :: writable rest
  | _ => []

/-- The rows of a table can all be shown. -/
def IsShown (t : Table) : Prop := ∃ cells, t.cells = .ok cells

/-- What a store keeps of a table. -/
def sheetOf (t : Table) : Option Sheet := t.cells.toOption.map fun cells => ⟨t.columns, cells⟩

/-- What a list of tables makes of a name in a store. -/
def contentOf (ts : List Table) (name : Text) : Option Sheet :=
  (ts.find? fun t => decide (t.name = name)).bind sheetOf

/-- A store after tables were put into it. -/
def storeAll (store : MemoryStore) (ts : List Table) : MemoryStore :=
  ts.foldl (fun store t => (store.write t).2) store

theorem isShown_ofRows (name : Text) (columns : List Text) (rows : List Row) :
    IsShown (Table.ofRows name columns rows) := by
  refine exists_mapM_eq_ok.mpr fun row hrow => ?_
  obtain ⟨members, -, rfl⟩ := List.mem_map.mp hrow
  exact ⟨_, rfl⟩

/-- Putting one table changes what is under its name, and nothing else. -/
theorem get?_write {t : Table} (ht : IsShown t) (store : MemoryStore) (name : Text) :
    (store.write t).2.tables.get? name =
      if name = t.name then sheetOf t else store.tables.get? name := by
  obtain ⟨cells, hcells⟩ := ht
  simp [MemoryStore.write, MemoryStore.insert, sheetOf, hcells, Members.get?_set,
    Except.toOption]

theorem contentOf_eq_none {ts : List Table} {name : Text} (h : name ∉ ts.map (·.name)) :
    contentOf ts name = none := by
  have hfind : ts.find? (fun t => decide (t.name = name)) = none := by
    refine List.find?_eq_none.mpr fun t ht hname => h ?_
    exact List.mem_map.mpr ⟨t, ht, of_decide_eq_true hname⟩
  rw [contentOf, hfind]
  rfl

theorem isSome_contentOf {ts : List Table} (hshown : ∀ t ∈ ts, IsShown t) {name : Text} :
    (contentOf ts name).isSome = true ↔ name ∈ ts.map (·.name) := by
  constructor
  · intro h
    by_contra hname
    rw [contentOf_eq_none hname] at h
    cases h
  · intro h
    obtain ⟨t, ht, hname⟩ := List.mem_map.mp h
    cases hfind : ts.find? fun t => decide (t.name = name) with
    | none => exact absurd (decide_eq_true hname) (List.find?_eq_none.mp hfind t ht)
    | some found =>
      obtain ⟨cells, hcells⟩ := hshown found (List.mem_of_find?_eq_some hfind)
      simp [contentOf, hfind, sheetOf, hcells, Except.toOption]

/-- A store after tables of different names: theirs, and else what was there. -/
theorem get?_storeAll {ts : List Table} (hnodup : (ts.map (·.name)).Nodup)
    (hshown : ∀ t ∈ ts, IsShown t) (store : MemoryStore) (name : Text) :
    (storeAll store ts).tables.get? name = (contentOf ts name).or (store.tables.get? name) := by
  induction ts generalizing store with
  | nil => rfl
  | cons t ts ih =>
    rw [List.map_cons, List.nodup_cons] at hnodup
    obtain ⟨ht, hts⟩ := List.forall_mem_cons.mp hshown
    have ih := ih hnodup.2 hts (store.write t).2
    unfold storeAll at ih ⊢
    rw [List.foldl_cons, ih, get?_write ht]
    by_cases hname : name = t.name
    · subst hname
      obtain ⟨cells, hcells⟩ := ht
      rw [contentOf_eq_none hnodup.1]
      simp [contentOf, sheetOf, hcells, Except.toOption]
    · have hfind : contentOf (t :: ts) name = contentOf ts name := by
        unfold contentOf
        rw [List.find?_cons_of_neg (by simpa using fun h => hname h.symm)]
      rw [if_neg hname, hfind]

section

variable {m : Type → Type} [Monad m] [LawfulMonad m]

/-- Writing into a store puts the tables in front of the first that fails. -/
theorem writeAll_writer (tables : List (Except Fault Table))
    (hshown : ∀ t ∈ writable tables, IsShown t) (store : MemoryStore) :
    ∃ outcome, writeAll (MemoryStore.writer m) store tables =
      pure (outcome, storeAll store (writable tables)) := by
  induction tables generalizing store with
  | nil => exact ⟨_, rfl⟩
  | cons table tables ih =>
    cases table with
    | error fault => exact ⟨_, rfl⟩
    | ok t =>
      obtain ⟨ht, hts⟩ := List.forall_mem_cons.mp hshown
      obtain ⟨cells, hcells⟩ := ht
      have hwrite : store.write t = (.ok (), (store.write t).2) := by
        simp [MemoryStore.write, hcells]
      obtain ⟨outcome, h⟩ := ih hts (store.write t).2
      refine ⟨outcome, ?_⟩
      rw [writeAll, MemoryStore.writer, pure_bind, hwrite]
      exact h

end

/-! ## Tables of records -/

theorem tableOf_named {α : Type} {name : Text} {columns : List Text} {toRow : α → Except Fault Row}
    {records : List α} {t : Table} (h : tableOf name columns toRow records = .ok t) :
    t.name = name ∧ IsShown t := by
  obtain ⟨rows, -, h⟩ := bind_eq_ok.mp h
  cases h
  exact ⟨rfl, isShown_ofRows _ _ _⟩

/-- Every table that is made has the next name. -/
theorem writable_named {names : List Text} {tables : List (Except Fault Table)}
    (h : List.Forall₂ (fun name table => ∀ t, table = .ok t → t.name = name ∧ IsShown t)
      names tables) :
    (writable tables).map (·.name) = names.take (writable tables).length ∧
      ∀ t ∈ writable tables, IsShown t := by
  induction h with
  | nil => exact ⟨rfl, nofun⟩
  | @cons name table names tables hfirst _ ih =>
    cases table with
    | error fault => exact ⟨rfl, nofun⟩
    | ok t =>
      obtain ⟨hname, hshown⟩ := hfirst t rfl
      refine ⟨?_, List.forall_mem_cons.mpr ⟨hshown, ih.2⟩⟩
      rw [writable, List.map_cons, ih.1, hname, List.length_cons, List.take_succ_cons]

/-- The tables of records that are written, by name and content. -/
theorem writable_recordTables (container : Text) (model : Model) (vendors : List VendorHit) :
    (writable (recordTables container model vendors)).map (·.name) =
        recordNames.take (writable (recordTables container model vendors)).length ∧
      ∀ t ∈ writable (recordTables container model vendors), IsShown t :=
  writable_named (.cons (fun _ => tableOf_named) (.cons (fun _ => tableOf_named)
    (.cons (fun _ => tableOf_named) (.cons (fun _ => tableOf_named) .nil))))

theorem exists_tagRow_iff (container : Text) (tag : Tag) :
    (∃ row, tag.toRow container = .ok row) ↔ ¬tag.raw.HoldsLong :=
  exists_map_eq_ok.trans exists_rawColumn_iff

theorem exists_triggerRow_iff (container : Text) (trigger : Trigger) :
    (∃ row, trigger.toRow container = .ok row) ↔ ¬trigger.raw.HoldsLong :=
  exists_map_eq_ok.trans exists_rawColumn_iff

theorem exists_variableRow_iff (container : Text) (v : Variable) :
    (∃ row, v.toRow container = .ok row) ↔ ¬v.raw.HoldsLong :=
  exists_map_eq_ok.trans exists_rawColumn_iff

/-- A table is made unless the raw data of a record hold an integer that is too long. -/
theorem tableOf_cases {α : Type} (name : Text) (columns : List Text) {toRow : α → Except Fault Row}
    {raw : α → Data} (hrow : ∀ record, (∃ row, toRow record = .ok row) ↔ ¬(raw record).HoldsLong)
    (records : List α) :
    (∃ t, tableOf name columns toRow records = .ok t ∧
        ∀ record ∈ records, ¬(raw record).HoldsLong) ∨
      ∃ fault, tableOf name columns toRow records = .error fault ∧
        ∃ record ∈ records, (raw record).HoldsLong := by
  have htable : (∃ t, tableOf name columns toRow records = .ok t) ↔
      ∀ record ∈ records, ¬(raw record).HoldsLong := by
    simp only [← hrow]
    exact exists_map_eq_ok.trans exists_mapM_eq_ok
  cases h : tableOf name columns toRow records with
  | ok t => exact .inl ⟨t, rfl, htable.mp ⟨t, h⟩⟩
  | error fault =>
    refine .inr ⟨fault, rfl, ?_⟩
    by_contra hshort
    obtain ⟨t, ht⟩ := htable.mpr fun record hrecord hlong => hshort ⟨record, hrecord, hlong⟩
    rw [h] at ht
    cases ht

/-- How many tables of records are written: the tables up to the first kind of record of which one
holds an integer that is too long. Vendor identifiers hold no integers. -/
inductive Reaches (model : Model) : Nat → Prop where
  | nothing {tag : Tag} : tag ∈ model.tags → tag.raw.HoldsLong → Reaches model 0
  | tags {trigger : Trigger} : (∀ tag ∈ model.tags, ¬tag.raw.HoldsLong) →
    trigger ∈ model.triggers → trigger.raw.HoldsLong → Reaches model 1
  | triggers {v : Variable} : (∀ tag ∈ model.tags, ¬tag.raw.HoldsLong) →
    (∀ trigger ∈ model.triggers, ¬trigger.raw.HoldsLong) →
    v ∈ model.vars → v.raw.HoldsLong → Reaches model 2
  | all : (∀ tag ∈ model.tags, ¬tag.raw.HoldsLong) →
    (∀ trigger ∈ model.triggers, ¬trigger.raw.HoldsLong) →
    (∀ v ∈ model.vars, ¬v.raw.HoldsLong) → Reaches model 4

theorem reaches_length (container : Text) (model : Model) (vendors : List VendorHit) :
    Reaches model (writable (recordTables container model vendors)).length := by
  obtain ⟨vendorTable, hvendors⟩ : ∃ t, tableOf "GTM_Vendors" vendorColumns
      (fun hit : VendorHit => .ok (hit.toRow container)) vendors = .ok t :=
    exists_map_eq_ok.mpr (exists_mapM_eq_ok.mpr fun _ _ => ⟨_, rfl⟩)
  unfold recordTables
  rw [hvendors]
  obtain ⟨_, h, htags⟩ | ⟨_, h, tag, htag, hlong⟩ :=
    tableOf_cases "GTM_Tags" tagColumns (exists_tagRow_iff container) model.tags
  case inr => rw [h]; exact .nothing htag hlong
  rw [h]
  obtain ⟨_, h, htriggers⟩ | ⟨_, h, trigger, htrigger, hlong⟩ :=
    tableOf_cases "GTM_Triggers" triggerColumns (exists_triggerRow_iff container) model.triggers
  case inr => rw [h]; exact .tags htags htrigger hlong
  rw [h]
  obtain ⟨_, h, hvars⟩ | ⟨_, h, v, hv, hlong⟩ :=
    tableOf_cases "GTM_Variables" variableColumns (exists_variableRow_iff container) model.vars
  case inr => rw [h]; exact .triggers htags htriggers hv hlong
  rw [h]
  exact .all htags htriggers hvars

end TagAudit.Inspection
