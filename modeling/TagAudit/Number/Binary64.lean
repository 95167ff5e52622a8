import TagAudit.Number.Power
import TagAudit.Text.Basic

/-!
# Floating-point numbers

Numbers of IEEE 754 binary64, kept as exact mantissa and exponent. Nothing here computes in
floating point: a decimal is rounded once, with whole-number arithmetic, and the text of a number
is the shortest decimal that rounds back to it.

* `ofQuotient` rounds a quotient to the nearest number, a tie to the even mantissa.
* `shortest` finds the decimal of fewest digits in the interval of reals that round to a number,
  and of those the nearest.
* `text` writes that decimal, positionally for decimal exponents from -4 to 15.
-/

namespace TagAudit

/-- A number of binary64. A finite one is `±mantissa · 2^exponent`, with the mantissa below `2^53`
and the exponent least, but not below -1074. -/
inductive Binary64 where
  | nan
  | infinite (negative : Bool)
  | finite (negative : Bool) (mantissa : Nat) (exponent : Int)
deriving DecidableEq

namespace Binary64

/-- The least exponent. -/
def minExponent : Int := -1074

/-- The greatest exponent. -/
def maxExponent : Int := 971

/-- Zero with a sign. -/
def zero (negative : Bool) : Binary64 := .finite negative 0 minExponent

/-! ## Rounding -/

/-- `num / den` as a whole number, a half going to the even neighbour. -/
def roundHalfEven (num den : Nat) : Nat :=
  let q := num / den
  let r := num % den
  if 2 * r < den || (2 * r == den && q % 2 == 0) then q else q + 1

/-- Numerator and denominator of `(num / den) / 2^e`. -/
def scaled (num den : Nat) (e : Int) : Nat × Nat :=
  (num * twoPow (-e).toNat, den * twoPow e.toNat)

/-- The number nearest to `±num / den`; infinite when it lies beyond the greatest finite one. -/
def ofQuotient (negative : Bool) (num den : Nat) : Binary64 :=
  if num = 0 then zero negative
  else
    -- the quotient lies in `[2^52, 2^54)` times `2^low`
    let low : Int := (num.log2 : Int) - den.log2 - 53
    let (n, d) := scaled num den low
    let e := max (if n / d < twoPow 53 then low else low + 1) minExponent
    let (n, d) := scaled num den e
    let m := roundHalfEven n d
    let (m, e) := if m = twoPow 53 then (twoPow 52, e + 1) else (m, e)
    if e > maxExponent then .infinite negative else .finite negative m e

/-- The number nearest to `±digits · 10^exponent`. Beyond 310 places in front of the point
every decimal is infinite, and behind 330 places after it every decimal is zero. -/
def ofDecimal (negative : Bool) (digits : Nat) (exponent : Int) : Binary64 :=
  if digits = 0 then zero negative
  else
    let atLeast : Int := digits.log2 * 30102 / 100000
    let atMost : Int := (digits.log2 + 1) * 30103 / 100000 + 1
    if atLeast + exponent > 310 then .infinite negative
    else if atMost + exponent < -330 then zero negative
    else ofQuotient negative (digits * tenPow exponent.toNat) (tenPow (-exponent).toNat)

/-- The number nearest to a whole number. -/
def ofInt (n : Int) : Binary64 := ofQuotient (n < 0) n.natAbs 1

/-! ## Comparison and truncation -/

/-- Zero of either sign. -/
def isZero : Binary64 → Bool
  | .finite _ m _ => m == 0
  | _ => false

/-- The whole part of a finite number, towards zero. -/
def truncate? : Binary64 → Option Int
  | .finite s m e =>
    let n : Nat := m * twoPow e.toNat / twoPow (-e).toNat
    some (if s then -n else n)
  | _ => none

/-- The whole number that a number is equal to. -/
def toInt? : Binary64 → Option Int
  | .finite s m e =>
    let d := twoPow (-e).toNat
    let n : Nat := m * twoPow e.toNat
    if n % d = 0 then some (if s then -(n / d : Nat) else (n / d : Nat)) else none
  | _ => none

/-- Above zero, infinity included. -/
def isPositive : Binary64 → Bool
  | .nan => false
  | .infinite s => !s
  | .finite s m _ => !s && m != 0

/-! ## Shortest decimal -/

/-- The decimal `digits · 10^exponent`. -/
structure Decimal where
  digits : Nat
  exponent : Int
deriving DecidableEq

/-- A decimal without zeros at the end of its digits. -/
def Decimal.trim (d : Decimal) : Decimal := go 20 d
where
  go : Nat → Decimal → Decimal
    | 0, d => d
    | n + 1, d =>
      if d.digits ≠ 0 ∧ d.digits % 10 = 0 then go n ⟨d.digits / 10, d.exponent + 1⟩ else d

/-- The exponent `k` with `10^k ≤ m · 2^e < 10^(k+1)`. -/
def decimalExponent (m : Nat) (e : Int) : Int :=
  let reaches (k : Int) : Bool :=
    tenPow k.toNat * twoPow (-e).toNat ≤ m * twoPow e.toNat * tenPow (-k).toNat
  let guess := ((m.log2 : Int) + e) * 30103 / 100000 - 1
  if reaches (guess + 3) then guess + 3
  else if reaches (guess + 2) then guess + 2
  else if reaches (guess + 1) then guess + 1
  else guess

/-- The decimal of fewest digits that rounds to `m · 2^e`, and of those the nearest. The reals
that round to it lie within half a unit, or a quarter below a power of two; the ends belong
to it when `m` is even. -/
def shortest (m : Nat) (e : Int) : Decimal :=
  let low := 4 * m - (if m = twoPow 52 ∧ e > minExponent then 1 else 2)
  let high := 4 * m + 2
  let top := decimalExponent m e
  let onGrid (places : Nat) : Option Decimal :=
    let k := top - places
    -- one unit of the grid is `den / num` quarters of `2^e`
    let num := twoPow (e - 2).toNat * tenPow (-k).toNat
    let den := twoPow (2 - e).toNat * tenPow k.toNat
    let within (d : Nat) : Bool :=
      if m % 2 = 0 then low * num ≤ d * den && d * den ≤ high * num
      else low * num < d * den && d * den < high * num
    let below := 4 * m * num / den
    let rest := 4 * m * num - below * den
    let nearBelow := 2 * rest < den || (2 * rest == den && below % 2 == 0)
    match within below, within (below + 1) with
    | true, true => some ⟨if nearBelow then below else below + 1, k⟩
    | true, false => some ⟨below, k⟩
    | false, true => some ⟨below + 1, k⟩
    | false, false => none
  (((List.range 17).findSome? onGrid).getD ⟨m, e⟩).trim

/-! ## Text -/

/-- A decimal exponent with its sign and at least two digits. -/
def exponentText (e : Int) : Text :=
  let digits := Text.ofNat e.natAbs
  (if e < 0 then "-" else "+" : Text) ++
    (if digits.length < 2 then ("0" : Text) ++ digits else digits)

/-- A decimal in positional notation for exponents of its first digit from -4 to 15, with a digit on
either side of the point, and with an exponent otherwise. -/
def Decimal.text (d : Decimal) : Text :=
  let digits := Text.ofNat d.digits
  let count : Int := digits.length
  let point := count + d.exponent
  let zeros (n : Int) : Text := Text.replicate n.toNat "0"
  if point < -3 || point > 16 then
    digits.take 1 ++ (if digits.length > 1 then ("." : Text) ++ digits.drop 1 else []) ++
      ("e" : Text) ++ exponentText (point - 1)
  else if point ≤ 0 then ("0." : Text) ++ zeros (-point) ++ digits
  else if point < count then digits.take point.toNat ++ ("." : Text) ++ digits.drop point.toNat
  else digits ++ zeros (point - count) ++ (".0" : Text)

/-- The text of a number: the shortest decimal that rounds back to it. -/
def text : Binary64 → Text
  | .nan => "nan"
  | .infinite false => "inf"
  | .infinite true => "-inf"
  | .finite s m e =>
    (if s then "-" else "" : Text) ++ (if m = 0 then ("0.0" : Text) else (shortest m e).text)

end Binary64

end TagAudit
