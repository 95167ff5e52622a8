import TagAudit.Charset.Basic
import TagAudit.Number.Power

/-!
# UTF-7

Code points of ASCII stand for themselves. Between a plus sign and a hyphen, or another octet that
cannot belong to it, stands a section of digits to base 64, six bits each, which spell units of 16
bits. A plus sign and a hyphen are a plus sign.
-/

namespace TagAudit.Charset.Utf7

/-- The value of a digit to base 64. -/
def digitValue? (n : Nat) : Option Nat :=
  if 0x41 ≤ n && n ≤ 0x5A then some (n - 0x41)
  else if 0x61 ≤ n && n ≤ 0x7A then some (n - 0x61 + 26)
  else if 0x30 ≤ n && n ≤ 0x39 then some (n - 0x30 + 52)
  else if n = 0x2B then some 62
  else if n = 0x2F then some 63
  else none

/-- A section read so far. -/
structure Section where
  /-- How many bits are left over. -/
  bits : Nat := 0
  /-- The bits that are left over. -/
  value : Nat := 0
  /-- The first half of a surrogate pair whose second half is to come. -/
  half : Option CodePoint := none

/-- How many bits a unit has. -/
def unitBits : Nat := 16

/-- A section with one more digit, and the text that is complete now. -/
def Section.push (s : Section) (digit : Nat) : Text × Section :=
  let bits := s.bits + 6
  let value := s.value * 64 + digit
  if bits < unitBits then ([], { s with bits, value })
  else
    let left := twoPow (bits - unitBits)
    let c := CodePoint.ofNat (value / left)
    let next : Section := { bits := bits - unitBits, value := value % left }
    match s.half with
    | some high =>
      if c.isLowSurrogate then ([CodePoint.joinSurrogates high c], next)
      else if c.isHighSurrogate then ([high], { next with half := some c })
      else ([high, c], next)
    | none => if c.isHighSurrogate then ([], { next with half := some c }) else ([c], next)

/-- Whether a section may not end here: part of a unit is left over. -/
def Section.isPartial (s : Section) : Bool := 6 ≤ s.bits || (0 < s.bits && decide (s.value ≠ 0))

/-- The front of octets outside of sections. -/
def frontOutside (octet : Nat) (rest : Octets) : Front × Option Section :=
  if octet = 0x2B then
    match rest with
    | [] => (.text [] 0, none)
    | next :: _ =>
      if next = 0x2D then (.text ['+'] 1, none)
      else if (digitValue? next.toNat).isNone then (.invalid 1, none)
      else (.text [] 0, some {})
  else
    match ascii? octet with
    | some c => (.text [c] 0, none)
    | none => (.invalid 0, none)

/-- The front of octets behind a section that has ended: the half of a pair that stands alone, and
what follows. The hyphen only ends the section. -/
def frontBehind (s : Section) (octet : Nat) (rest : Octets) : Front × Option Section :=
  let alone : Text := if octet < 0x80 then s.half.toList else []
  if octet = 0x2D then (.text alone 0, none)
  else
    match frontOutside octet rest with
    | (.text t more, next) => (.text (alone ++ t) more, next)
    | (.invalid more, next) => (.text (alone ++ [unreadable]) more, next)
    | other => other

/-- The front of octets, outside or inside of a section. -/
def front (state : Option Section) (octet : Nat) (rest : Octets) : Front × Option Section :=
  match state, digitValue? octet with
  | none, _ => frontOutside octet rest
  | some s, some digit =>
    let (t, s) := s.push digit
    if rest.isEmpty && (s.isPartial || s.half.isSome) then (.text (t ++ [unreadable]) 0, none)
    else (.text t 0, some s)
  | some s, none => if s.isPartial then (.invalid 0, none) else frontBehind s octet rest

end TagAudit.Charset.Utf7

namespace TagAudit.Charset

/-- UTF-7. -/
def utf7 : Charset := readFrom Utf7.front none []

end TagAudit.Charset
