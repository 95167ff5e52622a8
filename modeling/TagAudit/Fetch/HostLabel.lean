import TagAudit.Fault
import TagAudit.Fetch.HostLabelTable
import TagAudit.Text.Composition
import TagAudit.Text.Punycode

/-!
# Labels of host names

The name of a host is made of labels. A label may be in any script, within rules: it is composed, no
mark starts it, its letters run in one direction, and some code points are allowed only beside
certain others. On the network a label is in ASCII; one that goes beyond is written in Punycode
behind `xn--`.

* `check` tells what is wrong with a label.
* `toAscii` writes a label as it goes over the network, `toUnicode` as people do.
-/

namespace TagAudit.HostLabel

/-! ## Flaws -/

/-- What can be wrong with a label, or with the name that it is a part of. -/
inductive Flaw where
  | empty
  | longLabel
  | longName
  /-- Nothing stands behind the mark of an encoded label. -/
  | nothingEncoded
  /-- An encoded label ends in a hyphen. -/
  | openEncoded
  /-- An encoded label stands for no text. -/
  | unreadable
  | uncomposed
  /-- The third and the fourth code point are hyphens. -/
  | reservedHyphens
  /-- A hyphen is the first or the last code point. -/
  | outerHyphen
  | initialMark
  /-- A code point is never allowed. -/
  | codePoint (c : CodePoint) (position : Nat) (label : Text)
  /-- A code point that joins letters does not stand between letters that can be joined. -/
  | joiner (c : CodePoint) (position : Nat) (label : Text)
  /-- A code point does not stand where it is allowed. -/
  | context (c : CodePoint) (position : Nat) (label : Text)
  /-- The first code point has no direction. -/
  | noDirection (label : Text)
  /-- A code point runs against a label from right to left, or against one from left to right. -/
  | against (leftward : Bool) (position : Nat)
  /-- Digits of two kinds stand in a label from right to left. -/
  | mixedNumbers
  /-- The last code point has no direction. -/
  | openEnd

/-- The number of a code point as messages have it. -/
def numberText (c : CodePoint) : Text :=
  ("U+" : Text) ++ (Text.hex 4 c.val).map fun (d : CodePoint) =>
    if d.isAsciiLower then CodePoint.ofNat (d.val - 0x20) else d

/-- The class of a flaw. -/
def Flaw.kind : Flaw → Text
  | codePoint .. => "InvalidCodepoint"
  | context .. => "InvalidCodepointContext"
  | noDirection _ | against .. | mixedNumbers | openEnd => "IDNABidiError"
  | _ => "IDNAError"

/-- A flaw in words. -/
def Flaw.message : Flaw → Text
  | empty => "Empty Label"
  | longLabel => "Label too long"
  | longName => "Domain too long"
  | nothingEncoded => "Malformed A-label, no Punycode eligible content found"
  | openEncoded => "A-label must not end with a hyphen"
  | unreadable => "Invalid A-label"
  | uncomposed => "Label must be in Normalization Form C"
  | reservedHyphens => "Label has disallowed hyphens in 3rd and 4th position"
  | outerHyphen => "Label must not start or end with a hyphen"
  | initialMark => "Label begins with an illegal combining character"
  | codePoint c position label =>
    ("Codepoint " : Text) ++ numberText c ++ (" at position " : Text) ++ Text.ofNat position ++
      (" of " : Text) ++ label.quote ++ (" not allowed" : Text)
  | joiner c position label =>
    ("Unknown codepoint adjacent to joiner " : Text) ++ numberText c ++ (" at position " : Text) ++
      Text.ofNat position ++ (" in " : Text) ++ label.quote
  | context c position label =>
    ("Codepoint " : Text) ++ numberText c ++ (" not allowed at position " : Text) ++
      Text.ofNat position ++ (" in " : Text) ++ label.quote
  | noDirection label =>
    ("First codepoint in label " : Text) ++ label.quote ++
      (" must be directionality L, R or AL" : Text)
  | against leftward position =>
    ("Invalid direction for codepoint at position " : Text) ++ Text.ofNat position ++
      (if leftward then " in a right-to-left label" else " in a left-to-right label" : Text)
  | mixedNumbers => "Can not mix numeral types in a right-to-left label"
  | openEnd => "Label ends with illegal codepoint directionality"

/-- A flaw as a fault. -/
def Flaw.fault (f : Flaw) : Fault := .worded (.other f.kind) f.message

/-! ## Code points beside others -/

/-- The class of the marks that take the vowel from a consonant. -/
def viramaClass : Nat := 9

/-- Whether a code point takes the vowel from the consonant before it. -/
def isVirama (c : CodePoint) : Bool := Text.markClass c.val = viramaClass

/-- How a code point joins others, if it does. -/
def joining? (c : CodePoint) : Option Joining :=
  (joined.find? fun (first, last, _) => first ≤ c.val && c.val ≤ last).map fun (_, _, j) => j

/-- Whether the next code point that is not skipped joins the letter on one side of it. -/
def meetsJoining (side : Joining) (t : Text) : Bool :=
  ((t.dropWhile fun c => joining? c = some .skipped).head?).any fun c =>
    joining? c = some side || joining? c = some .both

/-- Whether a joiner may stand between two texts, the first one read backwards. -/
def joinerFits (c : CodePoint) (before after : Text) : Bool :=
  (before.head?).any isVirama ||
    (decide (c.val = 0x200C) && meetsJoining .left before && meetsJoining .right after)

/-- A joiner of letters. -/
def isJoiner (c : CodePoint) : Bool := c.val = 0x200C || c.val = 0x200D

/-- A digit of the first kind that Arabic has. -/
def isArabicDigit (c : CodePoint) : Bool := 0x660 ≤ c.val && c.val ≤ 0x669

/-- A digit of the second kind that Arabic has. -/
def isExtendedDigit (c : CodePoint) : Bool := 0x6F0 ≤ c.val && c.val ≤ 0x6F9

/-- Whether a code point that is allowed only beside others may stand between two texts, the first
one read backwards; none for a code point of another kind. -/
def contextFits? (c : CodePoint) (before after : Text) : Option Bool :=
  let isIn (ranges : List (Nat × Nat)) (o : Option CodePoint) : Bool :=
    o.any fun d => Text.Ranges.mem ranges d.val
  if c.val = 0xB7 then
    some (decide (before.head? = some ('l' : CodePoint)) &&
      decide (after.head? = some ('l' : CodePoint)))
  else if c.val = 0x375 then some (isIn greek after.head?)
  else if c.val = 0x5F3 || c.val = 0x5F4 then some (isIn hebrew before.head?)
  else if c.val = 0x30FB then
    some ((before ++ after).any fun d => d ≠ c && Text.Ranges.mem japanese d.val)
  else if isArabicDigit c then some (!(before ++ after).any isExtendedDigit)
  else if isExtendedDigit c then some (!(before ++ after).any isArabicDigit)
  else none

/-- Checks the code points of a label from one on; `before` are those in front of it, the last one
first. -/
def checkFrom (label before : Text) : Text → Except Flaw Unit
  | [] => .ok ()
  | c :: after =>
    let position := before.length + 1
    let next := checkFrom label (c :: before) after
    if Text.Ranges.mem allowed c.val then next
    else if isJoiner c then
      if joinerFits c before after then next else .error (.joiner c position label)
    else
      match contextFits? c before after with
      | some true => next
      | some false => .error (.context c position label)
      | none => .error (.codePoint c position label)

/-! ## Directions -/

/-- The direction of a code point. -/
def direction (c : CodePoint) : Direction :=
  ((directed.find? fun (first, last, _) => first ≤ c.val && c.val ≤ last).map
    fun (_, _, d) => d).getD .left

/-- A direction that is not found in labels from left to right. -/
def Direction.isLeftward (d : Direction) : Bool :=
  d = .right || d = .arabic || d = .arabicNumber

/-- Whether a label may end after one more code point; marks do not count. -/
def Direction.mayEnd (d : Direction) (already : Bool) : Bool :=
  if d = .mark then already else decide (d ≠ .neutral)

/-- Checks a label from right to left; `number` is the kind of digits that were seen. -/
def checkLeftward (position : Nat) (number : Option Direction) (mayEnd : Bool) :
    List Direction → Except Flaw Unit
  | [] => if mayEnd then .ok () else .error .openEnd
  | d :: rest =>
    let isNumber := decide (d = .number) || decide (d = .arabicNumber)
    if d = .left then .error (.against true position)
    else if isNumber && (number.any fun n => n ≠ d) then .error .mixedNumbers
    else
      checkLeftward (position + 1) (if isNumber then some d else number) (d.mayEnd mayEnd) rest

/-- Checks a label from left to right. -/
def checkRightward (position : Nat) (mayEnd : Bool) : List Direction → Except Flaw Unit
  | [] => if mayEnd then .ok () else .error .openEnd
  | d :: rest =>
    if d.isLeftward then .error (.against false position)
    else checkRightward (position + 1) (d.mayEnd mayEnd) rest

/-- Checks the directions in a label. Nothing can be wrong with them if all run from left to
right. -/
def checkDirections (label : Text) : Except Flaw Unit :=
  let directions := label.map direction
  if !directions.any Direction.isLeftward then .ok ()
  else
    match directions.head? with
    | some .left => checkRightward 1 false directions
    | some .right | some .arabic => checkLeftward 1 none false directions
    | _ => .error (.noDirection label)

/-! ## Labels -/

/-- Checks a label. -/
def check (label : Text) : Except Flaw Unit := do
  let hyphen : CodePoint := '-'
  if label.isEmpty then throw .empty
  if !Text.isComposed label then throw .uncomposed
  if (label.drop 2).take 2 = [hyphen, hyphen] then throw .reservedHyphens
  if label.head? = some hyphen || label.getLast? = some hyphen then throw .outerHyphen
  if (label.head?).any fun c => Text.Ranges.mem marks c.val then throw .initialMark
  checkFrom label [] label
  checkDirections label

/-- What stands in front of an encoded label. -/
def encodedMark : Text := "xn--"

/-- How long a label may be on the network. -/
def maxLength : Nat := 63

/-- A label in ASCII as people write it. -/
def toUnicode (label : Text) : Except Flaw Text := do
  let label := label.lower
  if !encodedMark.isPrefixOf label then
    check label
    return label
  let encoded := label.drop encodedMark.length
  if encoded.isEmpty then throw .nothingEncoded
  if encoded.getLast? = some ('-' : CodePoint) then throw .openEncoded
  match Punycode.decode? encoded with
  | none => throw .unreadable
  | some label =>
    check label
    return label

/-- A label as it goes over the network. -/
def toAscii (label : Text) : Except Flaw Text := do
  let written ←
    if label.all fun c => c.val < 0x80 then (toUnicode label).map fun _ => label
    else (check label).map fun _ => encodedMark ++ Punycode.encode label
  if maxLength < written.length then throw .longLabel
  return written

end TagAudit.HostLabel
