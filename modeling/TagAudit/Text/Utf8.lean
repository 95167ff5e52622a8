import TagAudit.Fault

/-!
# UTF-8

Texts as octets. Surrogates cannot be written; octets that are no text read as one marker for every
longest piece that could have begun a code point.

* `encode` writes a text.
* `pieces` reads octets, with malformed pieces marked; `decode` shows those as U+FFFD.
-/

namespace TagAudit

/-- The content of a file. -/
abbrev Octets := List UInt8

/-- Whether octets occur somewhere in others. -/
def Octets.isInfixOf (part : Octets) : Octets → Bool
  | [] => part.isEmpty
  | octet :: rest => part.isPrefixOf (octet :: rest) || isInfixOf part rest

theorem Octets.isInfixOf_iff {part octets : Octets} :
    part.isInfixOf octets = true ↔ part <:+: octets := by
  induction octets with
  | nil => rw [isInfixOf, List.isEmpty_iff, List.infix_nil]
  | cons octet rest ih =>
    rw [isInfixOf, Bool.or_eq_true, List.isPrefixOf_iff_prefix, ih, List.infix_cons_iff]

namespace Utf8

/-! ## Writing -/

/-- The octets of a code point. -/
def octetsOf (c : CodePoint) : Octets :=
  let n := c.val
  let tail (shift : Nat) : UInt8 := UInt8.ofNat (0x80 + n / shift % 0x40)
  if n < 0x80 then [UInt8.ofNat n]
  else if n < 0x800 then [UInt8.ofNat (0xC0 + n / 0x40), tail 1]
  else if n < 0x10000 then [UInt8.ofNat (0xE0 + n / 0x1000), tail 0x40, tail 1]
  else [UInt8.ofNat (0xF0 + n / 0x40000), tail 0x1000, tail 0x40, tail 1]

/-- The first run of surrogates in a text. -/
def surrogates? (t : Text) : Option Fault :=
  let before := (t.takeWhile fun c => !c.isSurrogate).length
  match (t.drop before).takeWhile CodePoint.isSurrogate with
  | [] => none
  | c :: rest => some (.unencodable c before (before + rest.length))

/-- The octets of a text. -/
def encode (t : Text) : Except Fault Octets :=
  match surrogates? t with
  | some fault => .error fault
  | none => .ok (t.flatMap octetsOf)

/-! ## Reading -/

/-- What may follow the octets read so far. -/
inductive Expected where
  /-- A new code point. -/
  | lead
  /-- An octet from `low` to `high`, the next of `more` that complete a code point begun with
  `begun`. -/
  | tail (more : Nat) (low high : Nat) (begun : Nat)
deriving DecidableEq

/-- A code point, or none for a malformed piece; nothing before a code point is complete. -/
abbrev Piece := Option (Option CodePoint)

/-- What the first octet of a code point says. -/
def readLead (n : Nat) : Piece × Expected :=
  if n < 0x80 then (some (some (CodePoint.ofNat n)), .lead)
  else if n < 0xC2 then (some none, .lead)
  else if n < 0xE0 then (none, .tail 1 0x80 0xBF (n - 0xC0))
  else if n = 0xE0 then (none, .tail 2 0xA0 0xBF 0)
  else if n = 0xED then (none, .tail 2 0x80 0x9F 0xD)
  else if n < 0xF0 then (none, .tail 2 0x80 0xBF (n - 0xE0))
  else if n = 0xF0 then (none, .tail 3 0x90 0xBF 0)
  else if n < 0xF4 then (none, .tail 3 0x80 0xBF (n - 0xF0))
  else if n = 0xF4 then (none, .tail 3 0x80 0x8F 4)
  else (some none, .lead)

/-- The code points of octets, with none for every malformed piece; `done` are those before, last
first. -/
def piecesFrom (state : Expected) (done : List (Option CodePoint)) : Octets →
    List (Option CodePoint)
  | [] => (if state = .lead then done else none :: done).reverse
  | octet :: rest =>
    let n := octet.toNat
    let start (done : List (Option CodePoint)) : List (Option CodePoint) × Expected :=
      match readLead n with
      | (some piece, next) => (piece :: done, next)
      | (none, next) => (done, next)
    let (done, state) := match state with
      | .lead => start done
      | .tail more low high begun =>
        if low ≤ n && n ≤ high then
          let value := begun * 0x40 + (n - 0x80)
          if more ≤ 1 then (some (CodePoint.ofNat value) :: done, .lead)
          else (done, .tail (more - 1) 0x80 0xBF value)
        else start (none :: done)
    piecesFrom state done rest

/-- The code points of octets, with none for every malformed piece. -/
def pieces (octets : Octets) : List (Option CodePoint) := piecesFrom .lead [] octets

/-- The text of octets, malformed pieces shown as U+FFFD. -/
def decode (octets : Octets) : Text :=
  (pieces octets).map fun piece => piece.getD (CodePoint.ofNat 0xFFFD)

/-- The text of octets without malformed pieces. -/
def decode? (octets : Octets) : Option Text := (pieces octets).mapM id

end Utf8

/-- A text with every line break written as one line feed. -/
def Text.unifyBreaks (t : Text) : Text := go false [] t
where
  go (afterReturn : Bool) (done : Text) : Text → Text
    | [] => done.reverse
    | c :: rest =>
      if c = '\r' then go true (('\n' : CodePoint) :: done) rest
      else if c = '\n' && afterReturn then go false done rest
      else go false (c :: done) rest

end TagAudit
