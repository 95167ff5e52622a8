import TagAudit.Data.Display
import TagAudit.Json.Printer
import TagAudit.Table.Basic

/-!
# Formats of tables

The text of a table as comma-separated values, as JSON, and as one JSON object a line.

* `csvField` quotes a field that would not read back as it is.
* `Table.render` writes a table.
-/

namespace TagAudit

/-- The formats of a table. -/
inductive TableFormat where
  | json
  | ndjson
  | csv
deriving DecidableEq

namespace TableFormat

/-- All formats. -/
def all : List TableFormat := [.json, .ndjson, .csv]

/-- The name of a format, which is also the ending of its files. -/
def name : TableFormat → Text
  | .json => "json"
  | .ndjson => "ndjson"
  | .csv => "csv"

/-- The format of a name. -/
def ofName? (name : Text) : Option TableFormat := all.find? fun f => decide (f.name = name)

/-- The format of a name; a name of none is a fault. -/
def ofName (name : Text) : Except Fault TableFormat :=
  match ofName? name with
  | some format => .ok format
  | none => .error (.worded .value (name.quote ++ (" is not a valid ExportFormat" : Text)))

end TableFormat

/-! ## Comma-separated values -/

/-- A code point that a field may only hold between quotes. -/
def needsQuotes (c : CodePoint) : Bool := c = ',' || c = '"' || c = '\n' || c = '\r'

/-- A field as it is written: between quotes, with quotes doubled, if it holds a mark of the
format. -/
def csvField (t : Text) : Text :=
  if t.any needsQuotes then
    ('"' : CodePoint) :: t.flatMap (fun (c : CodePoint) => if c = '"' then [c, c] else [c]) ++
      (['"'] : Text)
  else t

/-- A record of fields; a lone empty field stands between quotes. -/
def csvRecord (fields : List Text) : Text :=
  let line : Text := if fields = [[]] then "\"\"" else Text.join "," (fields.map csvField)
  line ++ ("\r\n" : Text)

/-- The text of a cell; nothing for null. -/
def csvCell : Data → Except Fault Text
  | .null => .ok []
  | d => d.display

/-! ## Tables -/

namespace Table

/-- The records of a table as objects. -/
def records (t : Table) : Except Fault (List Data) := do
  return (← t.cells).map fun cells => .object (record t.columns cells)

/-- A table as comma-separated values, the columns first. -/
def csv (t : Table) : Except Fault Text := do
  let lines ← t.rows.mapM fun row => do
    return csvRecord (← (← cellsOf t.columns row).mapM csvCell)
  return (csvRecord t.columns :: lines).flatten

/-- A table as one JSON object a line. -/
def ndjson (t : Table) : Except Fault Text := do
  let lines ← t.rows.mapM fun row => do
    let cells ← cellsOf t.columns row
    let line ← Json.write (Json.Style.line false).limited (.object (record t.columns cells))
    return line ++ (['\n'] : Text)
  return lines.flatten

/-- A table as a JSON array of objects. -/
def json (t : Table) : Except Fault Text := do
  Json.write (Json.Style.indented false).limited (.array (← t.records))

/-- A table in some format. -/
def render (t : Table) : TableFormat → Except Fault Text
  | .csv => t.csv
  | .ndjson => t.ndjson
  | .json => t.json

end Table

end TagAudit
