import TagAudit.Compression.Code

/-!
# Deflate

Compressed data in blocks, as RFC 1951 lays down. A block holds octets as they are, or symbols in
two codes, which are given once for all or in front of the block. A symbol is an octet, the end of
the block, or a length; a distance follows a length, and together they copy octets that are in place
already.

* `Inflation.step` reads a piece: a header of a block, an octet, or a symbol.
* `inflate` reads all of it.
-/

namespace TagAudit.Compression

/-! ## Codes of a block -/

/-- The code of octets and lengths, and the code of distances. -/
structure BlockCodes where
  literals : Code
  distances : Code

/-- The codes that are given once for all. -/
def BlockCodes.fixed : BlockCodes where
  literals := Code.ofLengths (List.replicate 144 8 ++ List.replicate 112 9 ++
    List.replicate 24 7 ++ List.replicate 8 8)
  distances := Code.ofLengths (List.replicate 32 5)

/-- The symbols of the code for lengths, in the order in which their own lengths are given. -/
def lengthOrder : List Nat := [16, 17, 18, 0, 8, 7, 9, 6, 10, 5, 11, 4, 12, 3, 13, 2, 14, 1, 15]

/-- Reads the code for lengths; `count` lengths are given. -/
def readLengthCode (count : Nat) : BitReader Code := do
  let given ← (List.range count).mapM fun _ => BitReader.number 3
  let lengths := (List.range lengthOrder.length).map fun symbol =>
    ((lengthOrder.zip given).lookup symbol).getD 0
  let code := Code.ofLengths lengths
  BitReader.require (code.isComplete || code.isEmpty) .lengthCode
  return code

/-- Reads `count` lengths, which come behind those that are known, the last of them in front. Some
symbols repeat a length: the one before, or none, in one of two ways. -/
def readLengths (code : Code) (known : List Nat) (count : Nat) : BitReader (List Nat) :=
  if count = 0 then pure known.reverse
  else do
    let symbol := (← code.symbol (← BitReader.bit)).getD 0
    if symbol < 16 then readLengths code (symbol :: known) (count - 1)
    else
      let repeated := if symbol = 16 then known.head? else some 0
      let least := if symbol = 18 then 11 else 3
      let more ← BitReader.number (if symbol = 16 then 2 else if symbol = 17 then 3 else 7)
      match repeated with
      | none => BitReader.fail .lengthRepeat
      | some length =>
        let times := least + more
        if count < times then BitReader.fail .lengthRepeat
        else readLengths code (List.replicate times length ++ known) (count - times)
termination_by count
decreasing_by
  · omega
  · split <;> omega

/-- The symbol for the end of a block. -/
def endSymbol : Nat := 256

/-- Reads the codes in front of a block. -/
def BlockCodes.read : BitReader BlockCodes := do
  let literalCount := 257 + (← BitReader.number 5)
  let distanceCount := 1 + (← BitReader.number 5)
  let lengthCount := 4 + (← BitReader.number 4)
  BitReader.require (literalCount ≤ 286 && distanceCount ≤ 30) .tooManySymbols
  let lengths ← readLengths (← readLengthCode lengthCount) [] (literalCount + distanceCount)
  BitReader.require (lengths.getD endSymbol 0 ≠ 0) .noEnd
  let literals := Code.ofLengths (lengths.take literalCount)
  let distances := Code.ofLengths (lengths.drop literalCount)
  BitReader.require literals.isUsable .literalCode
  BitReader.require distances.isUsable .distanceCode
  return { literals, distances }

/-! ## Copies -/

/-- The least lengths of the symbols behind the end of a block, and how many bits follow. -/
def lengthSymbols : List (Nat × Nat) := [
  (3, 0), (4, 0), (5, 0), (6, 0), (7, 0), (8, 0), (9, 0), (10, 0), (11, 1), (13, 1), (15, 1),
  (17, 1), (19, 2), (23, 2), (27, 2), (31, 2), (35, 3), (43, 3), (51, 3), (59, 3), (67, 4), (83, 4),
  (99, 4), (115, 4), (131, 5), (163, 5), (195, 5), (227, 5), (258, 0)]

/-- The least distances of the symbols, and how many bits follow. -/
def distanceSymbols : List (Nat × Nat) := [
  (1, 0), (2, 0), (3, 0), (4, 0), (5, 1), (7, 1), (9, 2), (13, 2), (17, 3), (25, 3), (33, 4),
  (49, 4), (65, 5), (97, 5), (129, 6), (193, 6), (257, 7), (385, 7), (513, 8), (769, 8), (1025, 9),
  (1537, 9), (2049, 10), (3073, 10), (4097, 11), (6145, 11), (8193, 12), (12289, 12), (16385, 13),
  (24577, 13)]

/-- Reads the bits that follow a symbol. -/
def readMore (symbols : List (Nat × Nat)) (symbol : Nat) (flaw : Flaw) : BitReader Nat :=
  match symbols[symbol]? with
  | some (least, bits) => do return least + (← BitReader.number bits)
  | none => BitReader.fail flaw

/-- Reads a length and a distance, the symbol of the length being known. -/
def readCopy (codes : BlockCodes) (symbol : Nat) : BitReader (Nat × Nat) := do
  let length ← readMore lengthSymbols (symbol - (endSymbol + 1)) .literal
  match ← codes.distances.symbol (← BitReader.bit) with
  | none => BitReader.fail .distance
  | some symbol => return (length, ← readMore distanceSymbols symbol .distance)

/-- Data with octets copied from some distance behind its end. -/
def copied (length distance : Nat) (data : Array UInt8) : Array UInt8 :=
  (List.range length).foldl (fun data _ => data.push (data.getD (data.size - distance) 0)) data

/-! ## Steps -/

/-- What is to be read next. -/
inductive Phase where
  /-- The header of a block. -/
  | header
  /-- So many octets as they are, `isLast` in the last block. -/
  | stored (isLast : Bool) (count : Nat)
  /-- Symbols. -/
  | symbols (isLast : Bool) (codes : BlockCodes)
  /-- Nothing. -/
  | ended

/-- What follows a block. -/
def Phase.behind (isLast : Bool) : Phase := if isLast then .ended else .header

/-- What follows when `count` octets of a block are left. -/
def Phase.storing (isLast : Bool) (count : Nat) : Phase :=
  if count = 0 then behind isLast else .stored isLast count

namespace Inflation

/-- Reads the type of a block, and what is in front of its data. -/
def readHeader (isLast : Bool) : BitReader Phase := do
  match ← BitReader.number 2 with
  | 0 =>
    BitReader.align
    let length ← BitReader.octets 2
    let complement ← BitReader.octets 2
    BitReader.require (length + complement = 0xFFFF) .storedLengths
    return Phase.storing isLast length
  | 1 => return .symbols isLast BlockCodes.fixed
  | 2 => return .symbols isLast (← BlockCodes.read)
  | _ => BitReader.fail .blockType

/-- Reads a symbol whose first bit is known, and does what it says. -/
def readSymbol (isLast : Bool) (codes : BlockCodes) (b : Bool) (data : Array UInt8) :
    BitReader (Phase × Array UInt8) := do
  match ← codes.literals.symbol b with
  | none => BitReader.fail .literal
  | some symbol =>
    if symbol < endSymbol then return (.symbols isLast codes, data.push (UInt8.ofNat symbol))
    else if symbol = endSymbol then return (.behind isLast, data)
    else
      let (length, distance) ← readCopy codes symbol
      BitReader.require (distance ≤ data.size) .tooFarBack
      return (.symbols isLast codes, copied length distance data)

/-- Reads the next piece, whose first bit is known. -/
def step (phase : Phase) (b : Bool) (data : Array UInt8) : BitReader (Phase × Array UInt8) :=
  match phase with
  | .header => do return (← readHeader b, data)
  | .stored isLast count => do
    let octet := b.toNat + 2 * (← BitReader.number (octetBits - 1))
    return (.storing isLast (count - 1), data.push (UInt8.ofNat octet))
  | .symbols isLast codes => readSymbol isLast codes b data
  | .ended => pure (.ended, data)

/-- The data that comes out, and the bits behind it if they do not end before it does. -/
def run (phase : Phase) (data : Array UInt8) (bits : Bits) :
    Except Flaw (Array UInt8 × Option Bits) :=
  match phase, bits with
  | .ended, bits => .ok (data, some bits)
  | _, [] => .ok (data, none)
  | phase, b :: rest =>
    match step phase b data rest with
    | .error .cut => .ok (data, none)
    | .error (.flawed flaw) => .error flaw
    | .ok ((phase, data), ⟨last, _⟩) => run phase data last
termination_by bits.length
decreasing_by simp only [List.length_cons]; omega

end Inflation

/-! ## Formats -/

/-- A format around compressed data: a header, and what stands behind the data. -/
structure Format where
  header : Octets → BitReader Unit := fun _ => pure ()
  trailer : Octets → BitReader Unit := fun _ => pure ()

/-- The data that octets of a format are compressed from. Less of it comes out if the octets end
before it does. -/
def Format.read (format : Format) (octets : Octets) : Except Flaw Octets :=
  match format.header octets (Bits.ofOctets octets) with
  | .error .cut => .ok []
  | .error (.flawed flaw) => .error flaw
  | .ok (_, ⟨bits, _⟩) =>
    match Inflation.run .header #[] bits with
    | .error flaw => .error flaw
    | .ok (data, none) => .ok data.toList
    | .ok (data, some bits) =>
      match format.trailer data.toList bits with
      | .error (.flawed flaw) => .error flaw
      | _ => .ok data.toList

/-- The bare format. -/
def Format.bare : Format := {}

/-! ## With a sum by Adler -/

/-- The modulus of the sum. -/
def adlerModulus : Nat := 65521

/-- The sum by Adler. -/
def adlerSum (octets : Octets) : Nat :=
  let (a, b) := octets.foldl (fun (a, b) o =>
    let a := (a + o.toNat) % adlerModulus
    (a, (b + a) % adlerModulus)) (1, 0)
  b * 0x10000 + a

/-- A number with its four octets in the other order. -/
def swapped (n : Nat) : Nat :=
  n % 0x100 * 0x1000000 + n / 0x100 % 0x100 * 0x10000 + n / 0x10000 % 0x100 * 0x100 +
    n / 0x1000000 % 0x100

/-- The number of the method. -/
def deflateMethod : Nat := 8

/-- The format of RFC 1950, with two octets in front and a sum behind. -/
def Format.zlib : Format where
  header _ := do
    let first ← BitReader.octets 1
    let second ← BitReader.octets 1
    BitReader.require ((first * 0x100 + second) % 31 = 0) .header
    BitReader.require (first % 16 = deflateMethod) .method
    BitReader.require (first / 16 ≤ 7) .windowSize
    if second / 0x20 % 2 = 1 then
      BitReader.skip 4
      BitReader.fail .dictionary
  trailer data := do
    BitReader.align
    BitReader.require (swapped (← BitReader.octets 4) = adlerSum data) .dataSum

/-! ## With a sum by a polynomial -/

/-- The sum by the polynomial that most formats use. -/
def cyclicSum (octets : Octets) : Nat :=
  let shift (n : Nat) : Nat := if n % 2 = 1 then (n / 2) ^^^ 0xEDB88320 else n / 2
  let sum := octets.foldl (fun n o => (List.range octetBits).foldl (fun n _ => shift n)
    (n ^^^ o.toNat)) 0xFFFFFFFF
  sum ^^^ 0xFFFFFFFF

/-- Goes over octets up to a zero. -/
def skipText : Nat → BitReader Unit
  | 0 => pure ()
  | limit + 1 => do if (← BitReader.octets 1) ≠ 0 then skipText limit

/-- The format of RFC 1952, with the name of a file and more in front, and a sum and the length
behind. -/
def Format.gzip : Format where
  header octets := do
    BitReader.require ((← BitReader.octets 2) = 0x8B1F) .header
    let method ← BitReader.octets 1
    let flags ← BitReader.octets 1
    BitReader.require (method = deflateMethod) .method
    BitReader.require (flags < 0x20) .headerFlags
    BitReader.skip 6
    if flags.testBit 2 then BitReader.skip (← BitReader.octets 2)
    if flags.testBit 3 then skipText octets.length
    if flags.testBit 4 then skipText octets.length
    if flags.testBit 1 then
      let done := octets.length - (← BitReader.remaining) / octetBits
      let sum := cyclicSum (octets.take done) % 0x10000
      BitReader.require ((← BitReader.octets 2) = sum) .headerSum
  trailer data := do
    BitReader.align
    BitReader.require ((← BitReader.octets 4) = cyclicSum data) .dataSum
    BitReader.require ((← BitReader.octets 4) = data.length % 0x100000000) .dataLength

end TagAudit.Compression
