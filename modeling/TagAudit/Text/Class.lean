import TagAudit.Text.CodePoint
import TagAudit.Text.Ranges

/-!
# Classes of code points

Predicates on single code points: digits, blanks, word parts, printables, and the caseless
classes. The ASCII part of each class is decided before its table is consulted.
-/

namespace TagAudit.CodePoint

open Text

/-- A decimal digit of any script, as in `0`, `٣` or `１`. -/
def isDecimal (c : CodePoint) : Bool :=
  c.isAsciiDigit || (0x80 ≤ c.val && Ranges.mem Ranges.decimalDigits c.val)

/-- The value of a decimal digit of any script: its distance from the zero of its run. -/
def decimalValue? (c : CodePoint) : Option Nat :=
  if c.isAsciiDigit then some (c.val - 0x30)
  else (Ranges.decimalDigits.find? fun (low, high) => low ≤ c.val && c.val ≤ high).map
    fun (low, _) => (c.val - low) % 10

/-- A digit in the wide sense: decimal digits and those without a place value, as in `²` or `①`. -/
def isDigit (c : CodePoint) : Bool :=
  c.isDecimal || (0x80 ≤ c.val && Ranges.mem Ranges.otherDigits c.val)

/-- White space of any script. -/
def isBlank (c : CodePoint) : Bool := Ranges.mem Ranges.blanks c.val

/-- A part of a word: a letter, a number or the underscore. -/
def isWordPart (c : CodePoint) : Bool :=
  if c.val < 0x80 then c.isAsciiDigit || c.isAsciiUpper || c.isAsciiLower || c.val == 0x5F
  else Ranges.mem Ranges.wordParts c.val

/-- Shown as itself in a quotation. -/
def isPrintable (c : CodePoint) : Bool :=
  if c.val < 0x80 then 0x20 ≤ c.val && c.val ≤ 0x7E
  else Ranges.mem Ranges.printables c.val

/-- The ASCII letter that is the small form of a code point, if it has one: the letters themselves,
their capitals, and the Kelvin sign, whose small form is `k`. -/
def lower (c : CodePoint) : CodePoint :=
  if c.isAsciiUpper then ofNat (c.val + 0x20)
  else if c.val = 0x212A then 'k'
  else c

end TagAudit.CodePoint
