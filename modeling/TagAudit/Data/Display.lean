import TagAudit.Data.Basic

/-!
# Values as display text

A value inside a message or a plain table cell: a text stands as itself, everything else is written
with its structure, texts inside quoted.
-/

namespace TagAudit.Data

mutual

/-- A value with its structure shown. -/
def inspect : Data → Except Fault Text
  | .null => .ok "None"
  | .bool true => .ok "True"
  | .bool false => .ok "False"
  | .int n => writeInteger n
  | .float x => .ok x.text
  | .text t => .ok t.quote
  | .array items => do
    let parts ← inspectItems items
    return ("[" : Text) ++ Text.join ", " parts ++ ("]" : Text)
  | .object members => do
    let parts ← inspectMembers members
    return ("\x7b" : Text) ++ Text.join ", " parts ++ ("\x7d" : Text)
termination_by structural d => d

/-- The items of an array, each with its structure shown. -/
def inspectItems : List Data → Except Fault (List Text)
  | [] => .ok []
  | item :: rest => do
    let first ← inspect item
    let others ← inspectItems rest
    return first :: others
termination_by structural items => items

/-- The members of an object, each as `key: value`. -/
def inspectMembers : List (Text × Data) → Except Fault (List Text)
  | [] => .ok []
  | (key, value) :: rest => do
    let first ← inspect value
    let others ← inspectMembers rest
    return (key.quote ++ (": " : Text) ++ first) :: others
termination_by structural members => members

end

/-- A value as plain text: a text is itself, everything else is shown with its structure. -/
def display : Data → Except Fault Text
  | .text t => .ok t
  | d => d.inspect

end TagAudit.Data
