import TagAudit.Data.Basic

/-!
# Writing JSON

One printer for every place that JSON is written, with the differences in a `Style`.

* `Style.compact` is the form of raw columns: no blanks, and no escapes but the necessary ones.
* `Style.line` puts a blank behind commas and colons; `Style.indented` puts every item on a line
  of its own, two blanks deeper than what holds it.
* `Style.limited` is for values from anywhere, which may be nested more deeply than can be written.
-/

namespace TagAudit.Json

/-- How JSON is laid out. -/
structure Style where
  /-- What stands between neighbours on one line. -/
  comma : Text
  /-- What stands between a key and its value. -/
  colon : Text
  /-- Whether items stand on lines of their own. -/
  multiline : Bool
  /-- Whether only ASCII is written. -/
  ascii : Bool
  /-- How many arrays and objects may stand inside each other; any number if none is given, as for
  values that a reader with a limit of its own has read. -/
  depth : Option Nat := none

/-- How many arrays and objects may stand inside each other before the stack is used up. -/
def nestingLimit : Nat := 984

namespace Style

/-- No blanks at all. -/
def compact : Style := { comma := ",", colon := ":", multiline := false, ascii := false }

/-- Everything on one line. -/
def line (ascii : Bool) : Style := { comma := ", ", colon := ": ", multiline := false, ascii }

/-- Every item on a line of its own. -/
def indented (ascii : Bool) : Style := { comma := ",", colon := ": ", multiline := true, ascii }

/-- A style for values of any depth. -/
def limited (style : Style) : Style := { style with depth := some nestingLimit }

/-- Lets an array or an object stand inside `level` others. -/
def enter (style : Style) (level : Nat) : Except Fault Unit :=
  match style.depth with
  | some limit => if level < limit then .ok () else .error .tooDeep
  | none => .ok ()

end Style

/-- The escape by number for one UTF-16 unit. -/
def unitEscape (n : Nat) : Text := ("\\u" : Text) ++ Text.hex 4 n

/-- One code point inside a string. -/
def escape (ascii : Bool) (c : CodePoint) : Text :=
  if c = '"' then "\\\""
  else if c = '\\' then "\\\\"
  else if c = '\n' then "\\n"
  else if c = '\r' then "\\r"
  else if c = '\t' then "\\t"
  else if c = '\x0c' then "\\f"
  else if c = '\x08' then "\\b"
  else if c.val < 0x20 then unitEscape c.val
  else if ascii && 0x7F ≤ c.val then
    if c.val < 0x10000 then unitEscape c.val
    else
      let n := c.val - 0x10000
      unitEscape (0xD800 + n / 0x400) ++ unitEscape (0xDC00 + n % 0x400)
  else [c]

/-- A string. -/
def writeString (ascii : Bool) (t : Text) : Text :=
  ('"' : CodePoint) :: t.flatMap (escape ascii) ++ (['"'] : Text)

/-- The text of a number; the words of the reader for those that have no decimal. -/
def writeFloat : Binary64 → Text
  | .nan => "NaN"
  | .infinite false => "Infinity"
  | .infinite true => "-Infinity"
  | x => x.text

/-- Parts between brackets; on lines of their own when the style says so. -/
def bracket (style : Style) (level : Nat) (opening closing : CodePoint) (parts : List Text) :
    Text :=
  if parts.isEmpty then [opening, closing]
  else if style.multiline then
    let margin (n : Nat) : Text := ('\n' : CodePoint) :: Text.replicate n "  "
    opening :: margin (level + 1) ++ Text.join (style.comma ++ margin (level + 1)) parts ++
      margin level ++ [closing]
  else opening :: Text.join style.comma parts ++ [closing]

mutual

/-- A value inside `level` others. -/
def writeAt (style : Style) (level : Nat) : Data → Except Fault Text
  | .null => .ok "null"
  | .bool true => .ok "true"
  | .bool false => .ok "false"
  | .int n => writeInteger n
  | .float x => .ok (writeFloat x)
  | .text t => .ok (writeString style.ascii t)
  | .array items => do
    style.enter level
    return bracket style level '[' ']' (← writeItems style (level + 1) items)
  | .object members => do
    style.enter level
    return bracket style level '{' '}' (← writeMembers style (level + 1) members)
termination_by structural d => d

/-- The items of an array. -/
def writeItems (style : Style) (level : Nat) : List Data → Except Fault (List Text)
  | [] => .ok []
  | item :: rest => do
    let first ← writeAt style level item
    let others ← writeItems style level rest
    return first :: others
termination_by structural items => items

/-- The members of an object. -/
def writeMembers (style : Style) (level : Nat) : List (Text × Data) → Except Fault (List Text)
  | [] => .ok []
  | (key, value) :: rest => do
    let first ← writeAt style level value
    let others ← writeMembers style level rest
    return (writeString style.ascii key ++ style.colon ++ first) :: others
termination_by structural members => members

end

/-- The JSON text of a value. -/
def write (style : Style) (d : Data) : Except Fault Text := writeAt style 0 d

end TagAudit.Json
