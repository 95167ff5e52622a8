import TagAudit.Fault
import TagAudit.Number.Power

/-!
# Integers as decimal text

Integers are unbounded, but no decimal text of more than `Fault.digitLimit` digits is read or
written.

* `Numeral.toNat` is the value of a list of digit values.
* `readInteger` reads a numeral with blanks around it, a sign, digits of any script and single
  underscores between digits.
* `writeInteger` writes an integer.
-/

namespace TagAudit

namespace Numeral

/-- The number that a list of digits denotes in a base. -/
def toNat (base : Nat) (digits : List Nat) : Nat := digits.foldl (fun n d => n * base + d) 0

/-- The value of a run of decimal digits, unless it is too long. -/
def ofDigits? (digits : List Nat) : Option Nat :=
  if digits.length > Fault.digitLimit then none else some (toNat 10 digits)

/-- The digits at the front of a text, single underscores between them skipped, and what
follows; none where underscores stand elsewhere. -/
def scan : Text → Option (List Nat × Text) := go false []
where
  go (afterDigit : Bool) (digits : List Nat) : Text → Option (List Nat × Text)
    | [] => if afterDigit || digits.isEmpty then some (digits.reverse, []) else none
    | c :: rest =>
      match c.decimalValue? with
      | some d => go true (d :: digits) rest
      | none =>
        if c = '_' then if afterDigit then go false digits rest else none
        else if afterDigit || digits.isEmpty then some (digits.reverse, c :: rest) else none

end Numeral

/-- The integer that a text spells. -/
def readInteger (text : Text) : Except Fault Int :=
  let bare := text.strip
  let (negative, body) := match bare with
    | c :: rest =>
      if c = '-' then (true, rest) else if c = '+' then (false, rest) else (false, bare)
    | [] => (false, [])
  match Numeral.scan body with
  | some ([], _) => .error (.notNumeral text)
  | some (digits, rest) =>
    match Numeral.ofDigits? digits with
    | none => .error (.longNumeral digits.length)
    | some n => if rest.isEmpty then .ok (if negative then -n else n) else .error (.notNumeral text)
  | none => .error (.notNumeral text)

/-- The decimal text of an integer. -/
def writeInteger (n : Int) : Except Fault Text :=
  if n.natAbs < tenPow Fault.digitLimit then
    .ok (Text.ofInt n)
  else .error .longInteger

end TagAudit
