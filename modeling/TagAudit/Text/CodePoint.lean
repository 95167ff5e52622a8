/-!
# Code points and texts

A text is a list of Unicode code points. Surrogates are code points like any other here: a
container may spell half of a surrogate pair with an escape, and such a half has to reach every
later stage unchanged, which `String` cannot express.

* `ofString_injective`: distinct strings denote distinct texts, so comparing a text with string
  constants decides between them.
-/

namespace TagAudit

/-- A Unicode code point, surrogates included. -/
structure CodePoint where
  /-- The number of the code point. -/
  val : Nat
  lt : val < 0x110000
deriving DecidableEq

/-- A sequence of code points. Offsets and lengths count code points. -/
abbrev Text := List CodePoint

namespace CodePoint

@[ext] theorem ext {c d : CodePoint} (h : c.val = d.val) : c = d := by
  cases c; cases d; cases h; rfl

/-- A character is a code point. -/
def ofChar (c : Char) : CodePoint := ⟨c.toNat, by
  rcases c with ⟨v, h⟩
  rcases h with h | h
  · exact Nat.lt_trans h (by decide)
  · exact h.2⟩

instance : Coe Char CodePoint := ⟨ofChar⟩

theorem ofChar_injective {c d : Char} (h : ofChar c = ofChar d) : c = d := by
  have hv : c.toNat = d.toNat := congrArg val h
  exact Char.ext (UInt32.toNat_inj.mp hv)

@[simp] theorem ofChar_inj {c d : Char} : ofChar c = ofChar d ↔ c = d :=
  ⟨ofChar_injective, fun h => h ▸ rfl⟩

/-- The code point of a number; a number beyond the last code point becomes U+FFFD. -/
def ofNat (n : Nat) : CodePoint :=
  if h : n < 0x110000 then ⟨n, h⟩ else ⟨0xFFFD, by decide⟩

theorem val_ofNat {n : Nat} (h : n < 0x110000) : (ofNat n).val = n := by
  simp [ofNat, h]

/-- First half of a surrogate pair. -/
def isHighSurrogate (c : CodePoint) : Bool := 0xD800 ≤ c.val && c.val ≤ 0xDBFF

/-- Second half of a surrogate pair. -/
def isLowSurrogate (c : CodePoint) : Bool := 0xDC00 ≤ c.val && c.val ≤ 0xDFFF

/-- A half of a surrogate pair, which no character encoding can write. -/
def isSurrogate (c : CodePoint) : Bool := 0xD800 ≤ c.val && c.val ≤ 0xDFFF

/-- The code point that a surrogate pair stands for. -/
def joinSurrogates (high low : CodePoint) : CodePoint :=
  ofNat (0x10000 + (high.val - 0xD800) * 0x400 + (low.val - 0xDC00))

/-- The character of a code point that is no surrogate. -/
def toChar? (c : CodePoint) : Option Char :=
  if h : c.val.isValidChar then some (Char.ofNatAux c.val h) else none

/-- A decimal digit of ASCII. -/
def isAsciiDigit (c : CodePoint) : Bool := 0x30 ≤ c.val && c.val ≤ 0x39

/-- A capital letter of ASCII. -/
def isAsciiUpper (c : CodePoint) : Bool := 0x41 ≤ c.val && c.val ≤ 0x5A

/-- A small letter of ASCII. -/
def isAsciiLower (c : CodePoint) : Bool := 0x61 ≤ c.val && c.val ≤ 0x7A

/-- The value of a hexadecimal digit. -/
def hexValue? (c : CodePoint) : Option Nat :=
  if c.isAsciiDigit then some (c.val - 0x30)
  else if 0x41 ≤ c.val && c.val ≤ 0x46 then some (c.val - 0x37)
  else if 0x61 ≤ c.val && c.val ≤ 0x66 then some (c.val - 0x57)
  else none

end CodePoint

namespace Text

/-- The text of a string. -/
def ofString (s : String) : Text := s.toList.map CodePoint.ofChar

instance : Coe String Text := ⟨ofString⟩

theorem ofString_injective {s t : String} (h : ofString s = ofString t) : s = t := by
  have hm := List.map_inj_right (fun _ _ => CodePoint.ofChar_injective) |>.mp h
  exact String.toList_inj.mp hm

@[simp] theorem ofString_inj {s t : String} : ofString s = ofString t ↔ s = t :=
  ⟨ofString_injective, fun h => h ▸ rfl⟩

/-- The string of a text without surrogates. -/
def toString? (t : Text) : Option String := (t.mapM CodePoint.toChar?).map String.ofList

end Text

end TagAudit
