import TagAudit.Text.Class

/-!
# Operations on texts

Searching, cutting, joining and ordering of texts.

* `forall_join`: joined texts hold the code points of the texts and of what separates them.
* `isInfixOf_iff`: what occurs in a text is an infix of it.
* `ofNat_injective`: distinct numbers have distinct digits.
* `strip` removes blanks of any script at both ends.
* `le` is the order by code point, first difference first.
-/

namespace TagAudit.Text

/-- The decimal digits of a number. -/
def ofNat (n : Nat) : Text := ofString (toString n)

theorem ofNat_injective {m n : Nat} (h : ofNat m = ofNat n) : m = n := by
  have hs : m.repr.toList = n.repr.toList := congrArg String.toList (ofString_injective h)
  rw [Nat.toList_repr, Nat.toList_repr] at hs
  have hd := congrArg (Nat.ofDigitChars 10 · 0) hs
  simpa [Nat.ofDigitChars_toDigits] using hd

/-- The decimal text of an integer, a minus in front of a negative one. -/
def ofInt (n : Int) : Text := (if n < 0 then "-" else "" : Text) ++ ofNat n.natAbs

/-- A code point as a text. -/
def single (c : CodePoint) : Text := [c]

/-- `count` copies of a text, one after the other. -/
def replicate (count : Nat) (t : Text) : Text := (List.replicate count t).flatten

/-- Texts one after the other with `separator` between neighbours. -/
def join (separator : Text) (parts : List Text) : Text := separator.intercalate parts

theorem forall_join {P : CodePoint → Prop} {separator : Text} (hseparator : ∀ c ∈ separator, P c)
    {parts : List Text} (hparts : ∀ part ∈ parts, ∀ c ∈ part, P c) :
    ∀ c ∈ join separator parts, P c := by
  induction parts with
  | nil => exact nofun
  | cons part parts ih =>
    obtain ⟨hpart, hrest⟩ := List.forall_mem_cons.mp hparts
    cases parts with
    | nil => simpa [join] using hpart
    | cons next parts =>
      rw [join, List.intercalate_cons_cons, List.forall_mem_append, List.forall_mem_append]
      exact ⟨⟨hpart, hseparator⟩, ih hrest⟩

/-- Whether `needle` occurs somewhere in a text. -/
def isInfixOf (needle : Text) : Text → Bool
  | [] => needle.isEmpty
  | c :: rest => needle.isPrefixOf (c :: rest) || isInfixOf needle rest

theorem isInfixOf_iff {needle t : Text} : needle.isInfixOf t = true ↔ needle <:+: t := by
  induction t with
  | nil => rw [isInfixOf, List.isEmpty_iff, List.infix_nil]
  | cons c rest ih =>
    rw [isInfixOf, Bool.or_eq_true, List.isPrefixOf_iff_prefix, ih, List.infix_cons_iff]

/-- The part before the first occurrence of `needle` and the part after it. -/
def splitOnce? (needle : Text) (t : Text) : Option (Text × Text) := go [] t
where
  go (before : Text) : Text → Option (Text × Text)
    | [] => if needle.isEmpty then some (before.reverse, []) else none
    | c :: rest =>
      if needle.isPrefixOf (c :: rest) then some (before.reverse, (c :: rest).drop needle.length)
      else go (c :: before) rest

/-- The pieces between occurrences of one code point. -/
def splitOn (separator : CodePoint) (t : Text) : List Text := go [] [] t
where
  go (piece : Text) (pieces : List Text) : Text → List Text
    | [] => (piece.reverse :: pieces).reverse
    | c :: rest =>
      if c = separator then go [] (piece.reverse :: pieces) rest else go (c :: piece) pieces rest

/-- Without the blanks at the front. -/
def stripLeft (t : Text) : Text := t.dropWhile CodePoint.isBlank

/-- Without the blanks at the end. -/
def stripRight (t : Text) : Text := (t.reverse.dropWhile CodePoint.isBlank).reverse

/-- Without the blanks at both ends. -/
def strip (t : Text) : Text := stripRight (stripLeft t)

/-- Nothing but blanks. -/
def isAllBlank (t : Text) : Bool := t.all CodePoint.isBlank

/-- Not empty and made of digits in the wide sense. -/
def isDigits (t : Text) : Bool := !t.isEmpty && t.all CodePoint.isDigit

/-- A text with its ASCII letters, and what folds to one, in small form. -/
def lower (t : Text) : Text := t.map CodePoint.lower

/-- The order by code point; a text comes after its proper beginnings. -/
def le : Text → Text → Bool
  | [], _ => true
  | _ :: _, [] => false
  | c :: s, d :: t => c.val < d.val || (c.val == d.val && le s t)

/-- Texts in the order by code point. -/
def sort (ts : List Text) : List Text := ts.mergeSort le

end TagAudit.Text
