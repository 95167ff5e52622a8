import TagAudit.Data.Basic

/-!
# Tables

A table has a name, columns and rows. A row is an object; a table shows of it the members that its
columns name, and an empty text where one is missing.

* `Table.cells` is what a table shows.
* `TableWriter` is where tables go.
-/

namespace TagAudit

/-- A table. -/
structure Table where
  name : Text
  columns : List Text
  rows : List Data

namespace Table

/-- The cells of a row under some columns; a row has to be an object. -/
def cellsOf (columns : List Text) (row : Data) : Except Fault (List Data) :=
  match row with
  | .object members => .ok (columns.map fun column => (Members.get? members column).getD (.text []))
  | _ => .error .noMembers

/-- The cells of all rows. -/
def cells (t : Table) : Except Fault (List (List Data)) := t.rows.mapM (cellsOf t.columns)

/-- The cells of a row as an object again; of columns with one name the last cell counts. -/
def record (columns : List Text) (cells : List Data) : Members Data :=
  Members.ofList (columns.zip cells)

end Table

/-- Where tables go: a table puts its content in place of what was there under its name. A writer
has a state, may come from outside the program, and may raise anything. -/
abbrev TableWriter (m : Type → Type) (σ : Type) := σ → Table → m (Except Raised Unit × σ)

end TagAudit
