import TagAudit.Fetch.HostLabel

/-!
# Names of hosts

A host is given by a name, which is made of labels with full stops between them, or by an address:
four numbers with dots between them or groups of hexadecimal digits between brackets.

* `looksLikeDotted` tells which hosts have to be addresses of four numbers.
* `isDotted` and `isGrouped` tell whether an address is one.
* `checkBrackets` checks the address that stands between brackets.
* `toAscii` is a name as it goes over the network, `toUnicode` as people write it.
-/

namespace TagAudit.HostName

/-! ## Four numbers -/

/-- How many numbers an address has. -/
def numberCount : Nat := 4

/-- Whether a text is four runs of digits with dots between them. -/
def looksLikeDotted (t : Text) : Bool :=
  let runs := Text.splitOn '.' t
  decide (runs.length = numberCount) &&
    runs.all fun run => !run.isEmpty && run.all CodePoint.isAsciiDigit

/-- The value of decimal digits. -/
def decimalValue (t : Text) : Nat := t.foldl (fun n c => n * 10 + (c.val - 0x30)) 0

/-- Whether a text is a number up to 255, without zeros in front. -/
def isOctet (t : Text) : Bool :=
  !t.isEmpty && t.length ≤ 3 && t.all CodePoint.isAsciiDigit &&
    (decide (t.length = 1) || decide (t.head? ≠ some ('0' : CodePoint))) && decimalValue t ≤ 255

/-- Whether a text is an address of four numbers. -/
def isDotted (t : Text) : Bool :=
  let parts := Text.splitOn '.' t
  decide (parts.length = numberCount) && parts.all isOctet

/-! ## Groups -/

/-- How many groups an address has. -/
def groupCount : Nat := 8

/-- Whether a text is a group of hexadecimal digits. -/
def isGroup (t : Text) : Bool :=
  !t.isEmpty && t.length ≤ 4 && t.all fun c => c.hexValue?.isSome

/-- The groups of an address, an address of four numbers at its end counted as two; none if it ends
with what is no such address. -/
def groupsOf? (t : Text) : Option (List Text) :=
  let parts := Text.splitOn ':' t
  match parts.getLast? with
  | some last =>
    if !last.contains ('.' : CodePoint) then some parts
    else if isDotted last then some (parts.dropLast ++ [("0" : Text), ("0" : Text)])
    else none
  | none => none

/-- Whether groups stand on both sides of a gap, which an empty text at the far end only goes on. -/
def gapFits (before after : List Text) : Bool :=
  let side (outer : Option Text) (groups : List Text) : Option (List Text) :=
    if outer = some [] then if groups.length = 1 then some [] else none else some groups
  match side before.head? before, side after.getLast? after with
  | some first, some second =>
    first.length + second.length < groupCount && (first ++ second).all isGroup
  | _, _ => false

/-- Whether groups make an address: all of them, or fewer with one gap between two colons. -/
def groupsFit (groups : List Text) : Bool :=
  let inner := (groups.drop 1).dropLast
  match inner.countP List.isEmpty with
  | 0 => decide (groups.length = groupCount) && groups.all isGroup
  | 1 =>
    let place := 1 + (inner.takeWhile fun g => !g.isEmpty).length
    gapFits (groups.take place) (groups.drop (place + 1))
  | _ => false

/-- Whether a text is an address of groups; behind a percent sign there may be a zone. -/
def isGrouped (t : Text) : Bool :=
  let mark : CodePoint := '%'
  let address := t.takeWhile fun (c : CodePoint) => decide (c ≠ mark)
  let zone := t.drop (address.length + 1)
  let zoneFits := decide (address.length = t.length) || (!zone.isEmpty && !zone.contains mark)
  zoneFits &&
    match groupsOf? address with
    | some groups => 3 ≤ (Text.splitOn ':' address).length && groups.length ≤ groupCount + 1 &&
        groupsFit groups
    | none => false

/-! ## Brackets -/

/-- What is wrong with an address that stands between brackets. -/
def refused (reason : Text) : Fault := .worded .value reason

/-- Whether a text is an address of a kind that is not known yet: a letter, hexadecimal digits, and
behind a full stop anything. -/
def isFuture (t : Text) : Bool :=
  let digits := (t.drop 1).takeWhile fun c => c.hexValue?.isSome
  match t.drop (1 + digits.length) with
  | stop :: _ :: _ => !digits.isEmpty && decide (stop = '.')
  | _ => false

/-- Checks an address that stands between brackets. -/
def checkBracketed (t : Text) : Except Fault Unit :=
  if t.head? = some ('v' : CodePoint) then
    if isFuture t then .ok () else .error (refused "IPvFuture address is invalid")
  else if isDotted t then .error (refused "An IPv4 address cannot be in brackets")
  else if isGrouped t then .ok ()
  else .error (refused (t.quote ++ (" does not appear to be an IPv4 or IPv6 address" : Text)))

/-- Checks what stands between the first bracket that opens and the next one that closes. -/
def checkBrackets (authority : Text) : Except Fault Unit :=
  let opening : CodePoint := '['
  let closing : CodePoint := ']'
  match authority.contains opening, authority.contains closing with
  | false, false => .ok ()
  | true, true =>
    let behind := (authority.dropWhile fun c => c ≠ opening).drop 1
    checkBracketed (behind.takeWhile fun c => c ≠ closing)
  | _, _ => .error (refused "Invalid IPv6 URL")

/-! ## Names -/

/-- A full stop of any script. -/
def isStop (c : CodePoint) : Bool :=
  c.val = 0x2E || c.val = 0x3002 || c.val = 0xFF0E || c.val = 0xFF61

/-- The labels of a name, with an empty one behind a full stop at the end. -/
def labels (name : Text) : List Text :=
  Text.splitOn '.' (name.map fun c => if isStop c then '.' else c)

/-- How long a name may be; a full stop at the end does not count. -/
def maxLength : Nat := 253

/-- A name with every label in another form. An empty label is allowed behind the last full stop
only. -/
def mapLabels (f : Text → Except HostLabel.Flaw Text) (name : Text) :
    Except HostLabel.Flaw Text := do
  if maxLength + 1 < name.length then throw .longName
  let labels := labels name
  let closing : List Text := if labels.getLast? = some [] then [[]] else []
  let inner := labels.take (labels.length - closing.length)
  return Text.join "." ((← inner.mapM f) ++ closing)

/-- A name as it goes over the network. -/
def toAscii (name : Text) : Except HostLabel.Flaw Text := do
  let written ← mapLabels HostLabel.toAscii name
  let closed := decide (written.getLast? = some ('.' : CodePoint))
  if (if closed then maxLength + 1 else maxLength) < written.length then throw .longName
  return written

/-- A name in ASCII as people write it. -/
def toUnicode (name : Text) : Except HostLabel.Flaw Text := mapLabels HostLabel.toUnicode name

end TagAudit.HostName
