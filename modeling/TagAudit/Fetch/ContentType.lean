import TagAudit.Charset.Names
import TagAudit.Fetch.Url

/-!
# Content types

A content type is a kind and parameters, parted by semicolons. A parameter is a name and a value,
which may stand between quotes. Beside the plain parameters there are continued ones, as RFC 2231
lays down: a star behind the name, and the number of a part, if there are several. A star at the end
says that octets of the part are escaped; then the charset of the value stands in front of it.

* `ContentType.charset?` is the charset that a content type names, if it is known.
-/

namespace TagAudit.ContentType

/-! ## Pieces -/

/-- The pieces of a content type: semicolons part them, but not between quotes. A quote behind a
backslash is none. -/
def pieces (t : Text) : List Text := go false false [] t
where
  /-- The pieces from `piece` on, which is backwards; `isQuoted` is whether a quote is open. -/
  go (isQuoted isEscaped : Bool) (piece : Text) : Text → List Text
    | [] => [piece.reverse]
    | c :: rest =>
      if c = ';' && !isQuoted then piece.reverse :: go false false [] rest
      else go (isQuoted != (decide (c = '"') && !isEscaped)) (decide (c = '\\')) (c :: piece) rest

/-- A parameter, as it is written. -/
structure Parameter where
  name : Text
  value : Text := []

/-- The parameter of a piece. The name of one with a value is in small letters. -/
def Parameter.ofPiece (piece : Text) : Parameter :=
  match Text.splitOnce? "=" piece with
  | some (name, value) => { name := name.strip.lower, value := value.strip }
  | none => { name := piece.strip }

/-- A text with one code point in place of the pairs of a backslash and that code point. -/
def unescape (c : CodePoint) : Text → Text
  | a :: b :: rest =>
    if a = '\\' && b = c then c :: unescape c rest else a :: unescape c (b :: rest)
  | t => t

/-- A value without the quotes or the angle brackets around it. -/
def unquoted (t : Text) : Text :=
  let isBetween (first last : CodePoint) : Bool :=
    2 ≤ t.length && t.head? = some first && t.getLast? = some last
  let inner := (t.drop 1).dropLast
  if isBetween '"' '"' then unescape '"' (unescape '\\' inner)
  else if isBetween '<' '>' then inner
  else t

/-! ## Continued parameters -/

/-- A part of a continued parameter. -/
structure Part where
  number : Option Nat
  value : Text
  isEscaped : Bool
deriving DecidableEq

/-- The order of parts: by number, and by value if that is the same. -/
def Part.le (a b : Part) : Bool :=
  if a.number ≠ b.number then a.number.getD 0 ≤ b.number.getD 0
  else if a.value ≠ b.value then Text.le a.value b.value
  else !a.isEscaped || b.isEscaped

/-- Whether a code point may stand in front of a star. -/
def isWordMark (c : CodePoint) : Bool :=
  c.isAsciiLower || c.isAsciiUpper || c.isAsciiDigit || c = '_'

/-- The star behind the name of a continued parameter. -/
def star : CodePoint := '*'

/-- The part that a parameter is, with the name of the continued one, if it is a part. -/
def Parameter.part? (p : Parameter) : Except Fault (Option (Text × Part)) :=
  let name := p.name.takeWhile isWordMark
  let behind := p.name.drop name.length
  let digits := (behind.drop 1).takeWhile CodePoint.isAsciiDigit
  let last := behind.drop (digits.length + 1)
  let isPart := !name.isEmpty && behind.head? = some star &&
    (last.isEmpty || (!digits.isEmpty && last = [star]))
  if !isPart then .ok none
  else if Fault.digitLimit < digits.length then .error (.longNumeral digits.length)
  else
    .ok (some (name, {
      number := if digits.isEmpty then none
        else some (digits.foldl (fun n d => n * 10 + (d.val - 0x30)) 0)
      value := unquoted p.value
      isEscaped := p.name.getLast? = some star }))

/-- The text of a part; each octet that is escaped is a code point. -/
def Part.text (p : Part) : Text :=
  if p.isEscaped then (Url.unescapeOctets p.value).map fun o => CodePoint.ofNat o.toNat
  else p.value

/-- The parts in order. Those with and without a number do not go together. -/
def inOrder (parts : List Part) : Except Fault (List Part) :=
  if parts.any (fun p => p.number.isSome) && parts.any (fun p => p.number.isNone) then
    .error .unusable
  else .ok (parts.mergeSort Part.le)

/-- The octets of a text that holds one in each code point. -/
def octetsOf (t : Text) : Octets := t.map fun c => UInt8.ofNat c.val

/-- What a value behind the name of its charset and a language is, if it is ASCII. What cannot be
read stays as it is. -/
def ofEscaped? (t : Text) : Except Fault (Option Text) := do
  let (charset, value) : Text × Text :=
    match Text.splitOnce? "'" t with
    | some (charset, more) =>
      match Text.splitOnce? "'" more with
      | some (_, value) => (charset, value)
      | none => ([], t)
    | none => ([], t)
  if value.isEmpty then return some []
  let found ← Charset.ofName? (if charset.isEmpty then "us-ascii" else charset)
  let read : Text :=
    match found.map fun (charset : Charset) => charset (octetsOf value) with
    | some (.ok t) => if t.contains Charset.unreadable then value else t
    | _ => value
  return if read.all (fun c => c.val < 0x80) then some read else none

/-! ## The charset -/

/-- The name of a charset in a content type: the first plain parameter that gives it, or else the
first continued one. The kind is in the place of a plain parameter. -/
def charsetName? (t : Text) : Except Fault (Option Text) := do
  let isCharset (name : Text) : Bool := name.lower = ("charset" : Text)
  let parameters := (pieces t).map Parameter.ofPiece
  let others ← (parameters.drop 1).mapM fun p => do return (p, ← p.part?)
  let parts := others.filterMap fun (_, part) => part
  let continued ← (parts.map fun (name, _) => name).eraseDups.mapM fun name => do
    let own := (parts.filter fun (n, _) => n = name).map fun (_, part) => part
    return (name, ← inOrder own)
  let plain := parameters.take 1 ++ (others.filter fun (_, part) => part.isNone).map Prod.fst
  match plain.find? fun p => isCharset p.name with
  | some p => return some (unquoted p.value)
  | none =>
    match continued.find? fun (name, _) => isCharset name with
    | some (_, parts) =>
      let value := (parts.map Part.text).flatten
      if parts.any Part.isEscaped then ofEscaped? value else return some value
    | none => return none

/-- The charset that a content type names, if it is known. -/
def charset? (t : Text) : Except Fault (Option Charset) := do
  match ← charsetName? t with
  | some name => Charset.ofName? name
  | none => return none

end TagAudit.ContentType
