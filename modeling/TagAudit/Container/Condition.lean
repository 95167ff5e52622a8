import TagAudit.Json.Printer

/-!
# Conditions and rules

A predicate compares a subject with an operand; a rule lists the predicates under which it fires or
does not, and the tags that it fires or blocks. Both come in two encodings, as objects and as lists.
All positions in them are untrusted: what is no position, or points nowhere, resolves to nothing.

* `Condition.ofData?` decodes a predicate, `RuleShape.ofData` a rule.
* `resolve` gives the conditions at some positions.
-/

namespace TagAudit.Container

/-- The position of the variable that holds the event. -/
def eventPosition : Int := 0

/-- Labels of comparison operators. -/
def operatorLabels : List (Text × Text) := [
  ("_eq", "=="),
  ("equals", "=="),
  ("eq", "=="),
  ("_cn", "contains"),
  ("cn", "contains"),
  ("contains", "contains"),
  ("_sw", "starts with"),
  ("sw", "starts with"),
  ("_ew", "ends with"),
  ("ew", "ends with"),
  ("_re", "matches"),
  ("re", "matches"),
  ("regex", "matches"),
  ("_css", "matches CSS selector"),
  ("_lt", "<"),
  ("_le", "<="),
  ("_gt", ">"),
  ("_ge", ">=")]

/-- Operators that test for equality. -/
def equalityOperators : List Text := ["_eq", "equals", "eq"]

/-- Operators that test for a part. -/
def containsOperators : List Text := ["_cn", "cn", "contains"]

/-- The readable label of an operator; an unknown one is its own label. -/
def operatorLabel (operator : Text) : Text :=
  if operator.isEmpty then "?"
  else
    match operatorLabels.find? fun (o, _) => decide (o = operator) with
    | some (_, label) => label
    | none => operator

/-! ## Positions -/

/-- The position that a value spells: an integer, or a text of digits. -/
def position? (d : Data) : Except Fault (Option Int) :=
  match d with
  | .int n => .ok (some n)
  | .text t => if t.isDigits then (readInteger t).map some else .ok none
  | _ => .ok none

/-- The positions in a list, or of a single value; what spells none is left out. -/
def positions (d : Data) : Except Fault (List Int) :=
  let values := match d with
    | .array items => items
    | .null => []
    | single => [single]
  values.foldr (fun value found => do
    match ← position? value with
    | some n => return n :: (← found)
    | none => found) (.ok [])

/-- The position of the variable that a value refers to. -/
def reference? (d : Data) : Except Fault (Option Int) :=
  match d with
  | .array (head :: target :: _) => if head.isText "macro" then position? target else .ok none
  | .object members =>
    match Members.get? members "macro" with
    | some target => position? target
    | none => .ok none
  | _ => .ok none

/-- A reference to a variable as text. -/
def referenceText (n : Int) : Except Fault Text := do
  return ("\x7b\x7bmacro " : Text) ++ (← writeInteger n) ++ ("\x7d\x7d" : Text)

/-! ## Conditions -/

/-- A decoded predicate. -/
structure Condition where
  operator : Text
  subject : Data
  operand : Text
  negated : Bool := false

/-- The operand of a predicate as text. -/
def operandText (d : Data) : Except Fault Text :=
  match d with
  | .text t => .ok t
  | .null => .ok []
  | d => do
    match ← reference? d with
    | some n => referenceText n
    | none => Json.write (.line false) d

/-- Whether a condition tests the event. -/
def Condition.testsEvent (c : Condition) : Except Fault Bool := do
  return (← reference? c.subject) = some eventPosition

/-- A condition in words, as in `event == "gtm.js"`. -/
def Condition.describe (c : Condition) : Except Fault Text := do
  let subject : List Text ← match ← reference? c.subject with
    | some n => if n = eventPosition then pure ["event"] else do pure [← referenceText n]
    | none => pure []
  let negation : List Text := if c.negated then ["NOT"] else []
  return Text.join " " (subject ++ negation ++
    [operatorLabel c.operator, ("\"" : Text) ++ c.operand ++ ("\"" : Text)])

/-- The condition of a raw predicate; none for an unknown shape. -/
def Condition.ofData? (predicate : Data) : Except Fault (Option Condition) :=
  match predicate with
  | .object members =>
    match Members.get? members "function" with
    | some (.text operator) => do
      let operand ← operandText (Data.getD members "arg1")
      return some {
        operator, operand
        subject := Data.getD members "arg0"
        negated := (Data.getD members "negate").isTruthy }
    | _ => .ok none
  | .array (.text operator :: rest) => do
    let operand ← operandText ((rest[1]?).getD .null)
    return some { operator, operand, subject := (rest[0]?).getD .null }
  | _ => .ok none

/-- The conditions at some positions; a position without a predicate gives none. -/
def resolve (indices : List Int) (predicates : List Data) : Except Fault (List Condition) :=
  indices.foldr (fun i found => do
    if i < 0 then found
    else
      match predicates[i.toNat]? with
      | some predicate =>
        match ← Condition.ofData? predicate with
        | some c => return c :: (← found)
        | none => found
      | none => found) (.ok [])

/-! ## Rules -/

/-- The positions in a rule. -/
structure RuleShape where
  /-- Predicates that have to hold. -/
  conditions : List Int := []
  /-- Predicates that must not hold. -/
  exceptions : List Int := []
  /-- Tags that the rule fires. -/
  fires : List Int := []
  /-- Tags that the rule blocks. -/
  blocks : List Int := []
deriving DecidableEq

/-- A shape with the positions of one clause added. -/
def RuleShape.extend (shape : RuleShape) (clause : Data) : Except Fault RuleShape :=
  match clause with
  | .array (.text head :: rest) =>
    if head = ("if" : Text) then do
      return { shape with conditions := shape.conditions ++ (← positions (.array rest)) }
    else if head = ("unless" : Text) then do
      return { shape with exceptions := shape.exceptions ++ (← positions (.array rest)) }
    else if head = ("add" : Text) then do
      return { shape with fires := shape.fires ++ (← positions (.array rest)) }
    else if head = ("block" : Text) then do
      return { shape with blocks := shape.blocks ++ (← positions (.array rest)) }
    else .ok shape
  | _ => .ok shape

/-- The shape of a raw rule. In an object without `if`, the key `add` lists predicates and the key
`tags` lists tags. -/
def RuleShape.ofData (rule : Data) : Except Fault RuleShape :=
  match rule with
  | .object members => do
    let listed (key : Text) := positions (Data.getD members key)
    let (conditions, fires) ←
      if Members.has members "if" then do
        let conditions ← listed "if"
        pure (conditions, ← listed "add")
      else do
        let conditions ← listed "add"
        pure (conditions, ← listed "tags")
    let exceptions ← listed "unless"
    return { conditions, fires, exceptions, blocks := ← listed "block" }
  | .array clauses => clauses.foldlM RuleShape.extend {}
  | _ => .ok {}

end TagAudit.Container
