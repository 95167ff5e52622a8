import TagAudit.Text.Utf8

/-!
# Bits

What compressed data is read from: the bits of octets, the least one of an octet first. Reading
stops where the bits end or where a flaw shows. A reader never leaves more bits than it got, so that
loops which read a bit in every round come to an end.

* `BitReader` is a way to read bits; `bit`, `number` and `align` are the readers that others are
  made of.
-/

namespace TagAudit.Compression

/-- What is wrong with compressed data. -/
inductive Flaw where
  /-- The header is none of its format. -/
  | header
  /-- The data is compressed by another method. -/
  | method
  /-- Distances may be longer than any window. -/
  | windowSize
  /-- The data is compressed with texts that are known to both sides. -/
  | dictionary
  /-- The header has flags without a meaning. -/
  | headerFlags
  /-- The header is not the one whose sum is given. -/
  | headerSum
  /-- A block is of no known type. -/
  | blockType
  /-- The two lengths of a block that is not compressed do not agree. -/
  | storedLengths
  /-- A block has codes for too many symbols. -/
  | tooManySymbols
  /-- The code that the lengths are written in is none. -/
  | lengthCode
  /-- A length is repeated that there is not, or too often. -/
  | lengthRepeat
  /-- A block has no code for its end. -/
  | noEnd
  /-- The code of octets and lengths is none. -/
  | literalCode
  /-- The code of distances is none. -/
  | distanceCode
  /-- No octet and no length has these bits. -/
  | literal
  /-- No distance has these bits. -/
  | distance
  /-- A distance leads to before the beginning. -/
  | tooFarBack
  /-- The data is not the one whose sum is given. -/
  | dataSum
  /-- The data is not as long as it is said to be. -/
  | dataLength
deriving DecidableEq

/-- A flaw in words. -/
def Flaw.wording : Flaw → Text
  | .header => "incorrect header check"
  | .method => "unknown compression method"
  | .windowSize => "invalid window size"
  | .dictionary => "need dictionary"
  | .headerFlags => "unknown header flags set"
  | .headerSum => "header crc mismatch"
  | .blockType => "invalid block type"
  | .storedLengths => "invalid stored block lengths"
  | .tooManySymbols => "too many length or distance symbols"
  | .lengthCode => "invalid code lengths set"
  | .lengthRepeat => "invalid bit length repeat"
  | .noEnd => "invalid code -- missing end-of-block"
  | .literalCode => "invalid literal/lengths set"
  | .distanceCode => "invalid distances set"
  | .literal => "invalid literal/length code"
  | .distance => "invalid distance code"
  | .tooFarBack => "invalid distance too far back"
  | .dataSum => "incorrect data check"
  | .dataLength => "incorrect length check"

/-- Why reading stops. -/
inductive Halt where
  /-- The bits end. -/
  | cut
  | flawed (flaw : Flaw)

/-- Bits, in the order in which they are read. -/
abbrev Bits := List Bool

/-- How many bits an octet has. -/
def octetBits : Nat := 8

/-- The bits of octets. -/
def Bits.ofOctets (octets : Octets) : Bits :=
  octets.flatMap fun o => (List.range octetBits).map o.toNat.testBit

/-- A way to read bits: a result and the bits behind it. -/
def BitReader (α : Type) : Type :=
  (bits : Bits) → Except Halt (α × { rest : Bits // rest.length ≤ bits.length })

namespace BitReader

instance : Monad BitReader where
  pure a := fun _ => .ok (a, ⟨_, Nat.le_refl _⟩)
  bind read next := fun bits =>
    match read bits with
    | .error halt => .error halt
    | .ok (a, ⟨rest, h⟩) =>
      match next a rest with
      | .error halt => .error halt
      | .ok (b, ⟨last, h'⟩) => .ok (b, ⟨last, Nat.le_trans h' h⟩)

variable {α : Type}

/-- Stops for a flaw. -/
def fail (flaw : Flaw) : BitReader α := fun _ => .error (.flawed flaw)

/-- Stops for a flaw if a condition does not hold. -/
def require (condition : Bool) (flaw : Flaw) : BitReader Unit :=
  if condition then pure () else fail flaw

/-- The next bit. -/
def bit : BitReader Bool
  | [] => .error .cut
  | b :: rest => .ok (b, ⟨rest, Nat.le_succ _⟩)

/-- The number of the next bits, the least one first. -/
def number : Nat → BitReader Nat
  | 0 => pure 0
  | count + 1 => do
    let b ← bit
    return b.toNat + 2 * (← number count)

/-- How many bits are left. -/
def remaining : BitReader Nat := fun bits => .ok (bits.length, ⟨bits, Nat.le_refl _⟩)

/-- Goes on to the front of an octet. -/
def align : BitReader Unit := fun bits =>
  .ok ((), ⟨bits.drop (bits.length % octetBits), by simp⟩)

/-- The number of the next octets, the least one first. -/
def octets (count : Nat) : BitReader Nat := number (octetBits * count)

/-- Goes over the next octets. -/
def skip (count : Nat) : BitReader Unit := discard (octets count)

end BitReader

end TagAudit.Compression
