import TagAudit.Table.Basic

/-!
# Tables in memory

A store that keeps tables by name, the last content of each. A table that cannot be shown leaves the
store as it was.

* `MemoryStore.write` puts a table into a store.
* `MemoryStore.rows` reads one back; `rows_insert` says what it reads.
-/

namespace TagAudit

/-- The content of a table. -/
structure Sheet where
  columns : List Text
  cells : List (List Data)

/-- Tables by name, in the order in which they came, and how many were written. -/
structure MemoryStore where
  tables : Members Sheet := []
  writeCount : Nat := 0

namespace MemoryStore

/-- The store with a table put into it. -/
def insert (store : MemoryStore) (name : Text) (sheet : Sheet) : MemoryStore where
  tables := store.tables.set name sheet
  writeCount := store.writeCount + 1

/-- Puts a table into a store. -/
def write (store : MemoryStore) (t : Table) : Except Fault Unit × MemoryStore :=
  match t.cells with
  | .ok cells => (.ok (), store.insert t.name ⟨t.columns, cells⟩)
  | .error fault => (.error fault, store)

/-- The content of a table. -/
def sheet (store : MemoryStore) (name : Text) : Except Fault Sheet :=
  match store.tables.get? name with
  | some sheet => .ok sheet
  | none => .error (.missingKey name)

/-- The columns of a table. -/
def columns (store : MemoryStore) (name : Text) : Except Fault (List Text) :=
  (store.sheet name).map (·.columns)

/-- The rows of a table as objects. -/
def rows (store : MemoryStore) (name : Text) : Except Fault (List (Members Data)) :=
  (store.sheet name).map fun sheet => sheet.cells.map (Table.record sheet.columns)

theorem rows_insert (store : MemoryStore) (name : Text) (sheet : Sheet) :
    (store.insert name sheet).rows name = .ok (sheet.cells.map (Table.record sheet.columns)) := by
  simp [rows, MemoryStore.sheet, insert, Members.get?_set, Except.map]

/-- The writer into a store. -/
def writer (m : Type → Type) [Monad m] : TableWriter m MemoryStore := fun store t =>
  let (outcome, store) := store.write t
  return (outcome.mapError .fault, store)

end MemoryStore

end TagAudit
