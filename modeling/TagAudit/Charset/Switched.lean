import TagAudit.Charset.Chinese
import TagAudit.Charset.Korean
import TagAudit.Charset.Table.SingleByte

/-!
# Charsets with escape sequences

All octets are those of ASCII. Escape sequences say which set the octets behind them belong to, as
ISO 2022 lays down: they designate a set to one of three places, of which the first is in use. A
shift puts the second one into use, up to the end of the line, and a single shift the third one, for
one octet.

* `Switched.charset` is the charset of some sets.
* `iso2022Japanese` and its neighbours are the charsets in use.
-/

namespace TagAudit.Charset

/-! ## Sets -/

/-- The sets that escape sequences name. -/
inductive NamedSet where
  | ascii
  /-- JIS X 0201, which has a yen sign and an overline in ASCII. -/
  | roman
  /-- The half-width forms of Katakana. -/
  | katakana
  /-- The first plane of a Japanese set. -/
  | japanese (set : JapaneseSet)
  /-- The second plane of JIS X 0213. -/
  | japaneseSecond
  /-- JIS X 0212. -/
  | supplement
  /-- KS X 1001. -/
  | korean
  /-- GB 2312. -/
  | simplified
  /-- The upper half of ISO 8859-1. -/
  | western
  /-- The upper half of ISO 8859-7. -/
  | greek
deriving DecidableEq

/-- Whether a character of a set takes two octets. -/
def NamedSet.isPaired : NamedSet → Bool
  | .ascii | .roman | .katakana | .western | .greek => false
  | .japanese _ | .japaneseSecond | .supplement | .korean | .simplified => true

/-- The character of an octet of ASCII. The upper halves are for the third place only. -/
def NamedSet.lone? (set : NamedSet) (octet : Nat) : Option CodePoint :=
  match set with
  | .ascii => ascii? octet
  | .roman =>
    if octet = 0x5C then some '¥' else if octet = 0x7E then some '‾' else ascii? octet
  | .katakana => katakana? (octet + 0x80)
  | _ => none

/-- The character of two octets of ASCII. The wide tilde of JIS X 0213 is the one of ASCII. -/
def NamedSet.pair? (set : NamedSet) (first second : Nat) : Option Text :=
  let row := first - 0x20
  let cell := second - 0x20
  if isHigh second || second ≤ 0x20 then none
  else
    match set with
    | .japanese .basic => JapaneseSet.basic.plane? row cell
    | .japanese set => if row = 2 && cell = 18 then some ['~'] else set.plane? row cell
    | .japaneseSecond => JapaneseSet.wide2004.secondPlane? row cell
    | .supplement => single? (jis0212.find? row cell)
    | .korean => single? (ks1001.find? row cell)
    | .simplified => gb2312Pair? (first + 0x80) (second + 0x80)
    | _ => none

/-- The front of octets of a set. A pair without a meaning is left out as a whole. -/
def NamedSet.front (set : NamedSet) (octet : Nat) (rest : Octets) : Front :=
  if set.isPaired then
    match rest with
    | [] => .incomplete
    | second :: _ =>
      match set.pair? octet second.toNat with
      | some t => .text t 1
      | none => .invalid 1
  else
    match set.lone? octet with
    | some c => .text [c] 0
    | none => .invalid 0

/-- Signs of ISO 8859-7 that it has got later. -/
def laterGreek : List Nat := [0xA4, 0xA5, 0xAA]

/-- The character of the octet behind a single shift, if the set may stand at the third place. -/
def NamedSet.shifted? (set : NamedSet) (octet : Nat) : Except Fault (Option CodePoint) :=
  match set with
  | .ascii => .ok (ascii? octet)
  | .western => .ok (if isHigh octet then none else some (CodePoint.ofNat (octet + 0x80)))
  | .greek =>
    if isHigh octet then .ok (some (CodePoint.ofNat (octet - 0x80)))
    else
      let upper := octet + 0x80
      let listed := iso7.flatMap String.toList
      .ok (if laterGreek.contains upper then none
        else ((listed[upper - 0x80]?).filter fun c => c ≠ '\uFFFD').map CodePoint.ofChar)
  | _ => .error (.worded .runtime "internal codec error")

/-! ## Escape sequences -/

/-- The octet that starts escape sequences. -/
def escapeOctet : Nat := 0x1B

/-- The octets behind it that start sequences which designate a set. -/
def designators : List Nat := [0x28, 0x29, 0x24, 0x2E, 0x26]

/-- How long a sequence may get. -/
def escapeLimit : Nat := 16

/-- Whether an octet ends a sequence. -/
def isEscapeEnd (octet : Nat) : Bool := 0x40 ≤ octet && octet ≤ 0x5A

/-- Where a set is designated to. -/
inductive Place where
  | first
  | second
  | third
deriving DecidableEq

/-- A charset by the sets that may be designated. -/
structure Switched where
  /-- The sets beside ASCII, by their last octet and whether the sequence has a dollar sign. -/
  sets : List ((Nat × Bool) × NamedSet)
  /-- Whether the second place is in use between shifts. -/
  hasShifts : Bool := false
  /-- Whether there is a single shift to the third place. -/
  hasThird : Bool := false
  /-- Whether a mark of its version may come with JIS X 0208. -/
  hasVersions : Bool := true

/-- The set of a last octet. -/
def Switched.set? (charset : Switched) (last : Nat) (dollar : Bool) : Option NamedSet :=
  if last = 0x42 && !dollar then some .ascii
  else (charset.sets.find? fun (mark, _) => mark == (last, dollar)).map Prod.snd

/-- How many octets of a sequence are behind its first one, `i` of them known: `none` if it is too
long, an error if it does not end. A mark of a version brings a second sequence with it. -/
def Switched.escapeLength (charset : Switched) (i : Nat) : Octets → Except Unit (Option Nat)
  | [] => if escapeLimit ≤ i + 1 then .ok none else .error ()
  | octet :: rest =>
    if escapeLimit ≤ i + 1 then .ok none
    else if isEscapeEnd octet.toNat then .ok (some (i + 1))
    else if charset.hasVersions && octet = 0x26 && rest.head? = some 0x40 then
      charset.escapeLength (i + 3) (rest.drop 2)
    else charset.escapeLength (i + 1) rest
termination_by octets => octets.length
decreasing_by all_goals simp only [List.length_cons, List.length_drop]; omega

/-- The place and the set of a sequence, by the octets behind its first one. -/
def Switched.designation? (charset : Switched) (sequence : Octets) : Option (Place × NamedSet) :=
  let named (place : Place) (last : UInt8) (dollar : Bool) : Option (Place × NamedSet) :=
    (charset.set? last.toNat dollar).map fun set => (place, set)
  match sequence with
  | [0x24, last] => named .first last true
  | [0x28, last] => named .first last false
  | [0x29, last] => named .second last false
  | [0x2E, last] => if charset.hasThird then named .third last false else none
  | [0x24, 0x28, last] => named .first last true
  | [0x24, 0x29, last] => named .second last true
  | [_, _, 0x1B, 0x24, 0x42] => if charset.hasVersions then named .first 0x42 true else none
  | _ => none

/-! ## Reading -/

/-- What escape sequences and shifts have set up. -/
structure Switched.State where
  first : NamedSet := .ascii
  second : NamedSet := .ascii
  third : NamedSet := .ascii
  /-- Whether the second place is in use. -/
  isShifted : Bool := false
  /-- Whether a sequence of another kind is being read, which stays in the text. -/
  isThrough : Bool := false

/-- The state with a set at a place. -/
def Switched.State.put (state : State) (set : NamedSet) : Place → State
  | .first => { state with first := set }
  | .second => { state with second := set }
  | .third => { state with third := set }

/-- The front of the octets behind the start of an escape sequence. -/
def Switched.escapeFront (charset : Switched) (state : State) (rest : Octets) : Front × State :=
  match rest with
  | [] => (.incomplete, state)
  | next :: more =>
    if designators.contains next.toNat then
      match charset.escapeLength 0 rest with
      | .error () => (.incomplete, state)
      | .ok none => (.invalid 0, state)
      | .ok (some length) =>
        match charset.designation? (rest.take length) with
        | some (place, set) => (.text [] length, state.put set place)
        | none => (.invalid length, state)
    else if charset.hasThird && next = 0x4E then
      match more with
      | [] => (.incomplete, state)
      | octet :: _ =>
        match state.third.shifted? octet.toNat with
        | .ok (some c) => (.text [c] 2, state)
        | .ok none => (.invalid 2, state)
        | .error cause => (.fault cause, state)
    else (.text [CodePoint.ofNat escapeOctet] 0, { state with isThrough := true })

/-- The front of octets. -/
def Switched.front (charset : Switched) (state : State) (octet : Nat) (rest : Octets) :
    Front × State :=
  let c := CodePoint.ofNat octet
  if state.isThrough then (.text [c] 0, { state with isThrough := !isEscapeEnd octet })
  else if octet = escapeOctet then charset.escapeFront state rest
  else if charset.hasShifts && (octet = 0x0E || octet = 0x0F) then
    (.text [] 0, { state with isShifted := octet = 0x0E })
  else if octet = 0x0A then (.text [c] 0, { state with isShifted := false })
  else if isHigh octet then (.invalid 0, state)
  else if octet < 0x20 then (.text [c] 0, state)
  else ((if state.isShifted then state.second else state.first).front octet rest, state)

/-- The charset of some sets. -/
def Switched.charset (switched : Switched) : Charset := readFrom switched.front {} []

/-! ## Charsets -/

/-- JIS X 0208, and its older version. -/
def jis0208Sets : List ((Nat × Bool) × NamedSet) :=
  [((0x42, true), .japanese .basic), ((0x40, true), .japanese .basic)]

/-- JIS X 0201 without Katakana. -/
def romanSet : (Nat × Bool) × NamedSet := ((0x4A, false), .roman)

/-- JIS X 0212. -/
def supplementSet : (Nat × Bool) × NamedSet := ((0x44, true), .supplement)

/-- ISO-2022-JP. -/
def iso2022Japanese : Charset := Switched.charset { sets := romanSet :: jis0208Sets }

/-- ISO-2022-JP-1. -/
def iso2022Japanese1 : Charset :=
  Switched.charset { sets := romanSet :: supplementSet :: jis0208Sets }

/-- ISO-2022-JP-2. -/
def iso2022Japanese2 : Charset := Switched.charset {
  sets := [romanSet, supplementSet, ((0x43, true), .korean), ((0x41, true), .simplified),
    ((0x41, false), .western), ((0x46, false), .greek)] ++ jis0208Sets
  hasThird := true }

/-- ISO-2022-JP-3. -/
def iso2022Japanese3 : Charset := Switched.charset {
  sets := [((0x42, true), .japanese .basic), ((0x4F, true), .japanese .wide),
    ((0x50, true), .japaneseSecond)] }

/-- ISO-2022-JP-2004. -/
def iso2022Japanese2004 : Charset := Switched.charset {
  sets := [((0x42, true), .japanese .basic), ((0x51, true), .japanese .wide2004),
    ((0x50, true), .japaneseSecond)] }

/-- ISO-2022-JP with all of JIS X 0201 and with JIS X 0212. -/
def iso2022JapaneseExtended : Charset := Switched.charset {
  sets := [romanSet, ((0x49, false), .katakana), supplementSet] ++ jis0208Sets }

/-- ISO-2022-KR. -/
def iso2022Korean : Charset := Switched.charset {
  sets := [((0x43, true), .korean)]
  hasShifts := true
  hasVersions := false }

end TagAudit.Charset
