import TagAudit.Compression.Bits

/-!
# Codes of varying length

A code gives symbols bits, no bits being the front of others. It is laid down by the lengths alone:
shorter bits come before longer ones, and those of one length are in the order of the symbols.

* `Code.ofLengths` is the code of lengths, `Code.symbol` reads by it.
-/

namespace TagAudit.Compression

/-- A code. -/
structure Code where
  /-- How many symbols have one bit, two bits, and so on. -/
  counts : List Nat
  /-- The symbols in the order of their bits. -/
  symbols : List Nat

namespace Code

/-- The code of the lengths of symbols; zero stands for a symbol without bits. A code of no symbols
has no symbols of one bit. -/
def ofLengths (lengths : List Nat) : Code :=
  let longest := max 1 (lengths.foldl max 0)
  let ofLength (n : Nat) : List Nat :=
    (lengths.zipIdx.filter fun (length, _) => length = n).map Prod.snd
  let groups := (List.range longest).map fun n => ofLength (n + 1)
  { counts := groups.map List.length, symbols := groups.flatten }

/-- How many bits of the greatest length are left without a symbol, if `free` of the length before
were; nothing if there are more symbols than bits. -/
def free? (free : Nat) : List Nat → Option Nat
  | [] => some free
  | count :: more => if free * 2 < count then none else free? (free * 2 - count) more

/-- Whether all bits begin with those of a symbol. -/
def isComplete (code : Code) : Bool := free? 1 code.counts = some 0

/-- Whether a code has no symbols. -/
def isEmpty (code : Code) : Bool := code.symbols.isEmpty

/-- Whether a code is one of a block: complete, or with at most one symbol, which has one bit. -/
def isUsable (code : Code) : Bool := code.isComplete || code.isEmpty || code.counts = [1]

/-- Reads a symbol whose first bit is known; `none` if no symbol has the bits. -/
def symbol (code : Code) (b : Bool) : BitReader (Option Nat) := go code.counts code.symbols 0 0 b
where
  /-- Goes on among the symbols of some length, which have the bits from `first` on; `bits` are the
  bits so far, but for the last one. -/
  go (counts symbols : List Nat) (bits first : Nat) (b : Bool) : BitReader (Option Nat) :=
    match counts with
    | [] => pure none
    | count :: more =>
      let bits := bits + b.toNat
      if bits < first + count then pure symbols[bits - first]?
      else if more.isEmpty then pure none
      else do go more (symbols.drop count) (2 * bits) (2 * (first + count)) (← BitReader.bit)

end Code

end TagAudit.Compression
