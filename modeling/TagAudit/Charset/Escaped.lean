import TagAudit.Charset.Basic

/-!
# Texts with escapes

Octets as numbers of code points, with escapes behind backslashes.

* `numberEscapes` knows the escapes by number only; the backslash stays in front of anything else.
* `escapes` also knows the escapes by letter and the octal ones; it tells escapes by name from them,
  but knows no names.
-/

namespace TagAudit.Charset

/-- The octet as a code point. -/
def octetCode (octet : UInt8) : CodePoint := CodePoint.ofNat octet.toNat

/-- The hexadecimal digits at the front of octets, at most `count` of them. -/
def hexDigits (count : Nat) (octets : Octets) : List Nat :=
  ((octets.take count).map fun o => (octetCode o).hexValue?).takeWhile Option.isSome |>.reduceOption

/-- The front of octets behind a backslash and a letter that announces `count` hexadecimal digits.
Too few of them have no meaning, and neither has a number beyond Unicode. -/
def numberFront (count : Nat) (rest : Octets) : Front :=
  let digits := hexDigits count rest
  let n := digits.foldl (fun n d => n * 16 + d) 0
  if digits.length < count then .invalid (1 + digits.length)
  else if n < 0x110000 then .text [CodePoint.ofNat n] (1 + count)
  else .invalid (1 + count)

/-- The front of octets with escapes by number. -/
def numberEscapeFront (octet : Nat) (rest : Octets) : Front :=
  if octet ≠ 0x5C then .text [CodePoint.ofNat octet] 0
  else
    match rest with
    | [] => .text ['\\'] 0
    | 0x75 :: rest => numberFront 4 rest
    | 0x55 :: rest => numberFront 8 rest
    | next :: _ => .text ['\\', octetCode next] 1

/-- Texts with escapes by number. -/
def numberEscapes : Charset := ofFront numberEscapeFront

/-- The code point that a letter behind a backslash stands for. -/
def letterEscape? (letter : Nat) : Option CodePoint :=
  match letter with
  | 0x5C => some '\\'
  | 0x27 => some '\''
  | 0x22 => some '"'
  | 0x62 => some (CodePoint.ofNat 0x8)
  | 0x66 => some (CodePoint.ofNat 0xC)
  | 0x74 => some '\t'
  | 0x6E => some '\n'
  | 0x72 => some '\r'
  | 0x76 => some (CodePoint.ofNat 0xB)
  | 0x61 => some (CodePoint.ofNat 0x7)
  | _ => none

/-- The front of the octets behind a backslash and the letter of a name, which stands between
braces. No name has a meaning. -/
def nameFront (rest : Octets) : Front :=
  match rest with
  | 0x7B :: more =>
    let name := more.takeWhile fun o => o ≠ 0x7D
    if name.isEmpty then .invalid 2
    else .invalid (min (name.length + 3) (1 + rest.length))
  | _ => .invalid 1

/-- The front of octets with escapes. -/
def escapeFront (octet : Nat) (rest : Octets) : Front :=
  if octet ≠ 0x5C then .text [CodePoint.ofNat octet] 0
  else
    match rest with
    | [] => .incomplete
    | 0x0A :: _ => .text [] 1
    | 0x4E :: rest => nameFront rest
    | 0x78 :: rest => numberFront 2 rest
    | 0x75 :: rest => numberFront 4 rest
    | 0x55 :: rest => numberFront 8 rest
    | next :: _ =>
      let octal := (rest.take 3).takeWhile fun o => 0x30 ≤ o.toNat && o.toNat ≤ 0x37
      if octal.isEmpty then
        match letterEscape? next.toNat with
        | some c => .text [c] 1
        | none => .text ['\\', octetCode next] 1
      else
        .text [CodePoint.ofNat (octal.foldl (fun n o => n * 8 + (o.toNat - 0x30)) 0)] octal.length

/-- Texts with escapes. -/
def escapes : Charset := ofFront escapeFront

end TagAudit.Charset
