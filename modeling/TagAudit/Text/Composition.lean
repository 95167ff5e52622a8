import TagAudit.Text.CompositionTable
import TagAudit.Text.Ranges
import TagAudit.Text.CodePoint

/-!
# Composed texts

One letter with marks can be spelled in several ways: with a code point of its own, or with code
points for the letter and for each mark. A text is composed (in Normalization Form C) if it uses the
code points of their own where there are any, with the marks that remain in the order of their
classes.

* `decompose` spells everything apart, `compose` puts together what can be.
* `isComposed` tells whether a text is composed.
-/

namespace TagAudit.Text

open CompositionTable

/-! ## Hangul -/

/-- The first syllable of Hangul. -/
def firstSyllable : Nat := 0xAC00

/-- How many syllables of Hangul there are. -/
def syllableCount : Nat := 11172

/-- The leading consonants, vowels and trailing consonants start behind these; the last of them
stands for no consonant at all. -/
def leadBase : Nat := 0x1100

/-- The first vowel. -/
def vowelBase : Nat := 0x1161

/-- The code point before the first trailing consonant. -/
def trailBase : Nat := 0x11A7

/-- How many vowels there are. -/
def vowelCount : Nat := 21

/-- How many trailing consonants there are, none at all counted as one. -/
def trailCount : Nat := 28

/-- How many leading consonants there are. -/
def leadCount : Nat := 19

/-- The letters of a syllable. -/
def lettersOf? (n : Nat) : Option (List Nat) :=
  if firstSyllable ≤ n && n < firstSyllable + syllableCount then
    let place := n - firstSyllable
    let trail := place % trailCount
    some ([leadBase + place / (vowelCount * trailCount),
      vowelBase + place % (vowelCount * trailCount) / trailCount] ++
      if trail = 0 then [] else [trailBase + trail])
  else none

/-- The syllable of a leading consonant and a vowel, or of an open syllable and a trailing
consonant. -/
def syllable? (a b : Nat) : Option Nat :=
  if leadBase ≤ a && a < leadBase + leadCount && vowelBase ≤ b && b < vowelBase + vowelCount then
    some (firstSyllable + ((a - leadBase) * vowelCount + (b - vowelBase)) * trailCount)
  else if firstSyllable ≤ a && a < firstSyllable + syllableCount &&
      (a - firstSyllable) % trailCount = 0 && trailBase < b && b < trailBase + trailCount then
    some (a + (b - trailBase))
  else none

/-! ## Apart -/

/-- The class of a mark; zero for what is no mark. -/
def markClass (n : Nat) : Nat :=
  ((markClasses.find? fun (first, last, _) => first ≤ n && n ≤ last).map fun (_, _, k) => k).getD 0

/-- How often a code point can be taken apart, one mark at a time. -/
def maxMarks : Nat := 4

/-- A code point spelled apart, at most `more` marks of it. -/
def apart (more : Nat) (n : Nat) : List Nat :=
  match more, composites.find? fun (whole, _, _) => whole = n with
  | more + 1, some (_, a, b) => apart more a ++ [b]
  | _, _ => [n]

/-- A mark put behind a text that is given backwards: in front of marks of higher classes. -/
def insertMark (n : Nat) : List Nat → List Nat
  | [] => [n]
  | m :: before =>
    if markClass n < markClass m && 0 < markClass n then m :: insertMark n before
    else n :: m :: before

/-- Marks in the order of their classes. -/
def orderMarks (t : List Nat) : List Nat := (t.foldl (fun done n => insertMark n done) []).reverse

/-- A text spelled apart. -/
def decompose (t : List Nat) : List Nat :=
  orderMarks (t.flatMap fun n => (lettersOf? n).getD (apart maxMarks n))

/-! ## Together -/

/-- The code point that stands for two others. -/
def together? (a b : Nat) : Option Nat :=
  (syllable? a b).or
    ((composites.find? fun (_, first, second) => first = a && second = b).map fun (n, _, _) => n)

/-- A text put together so far. -/
structure Composing where
  /-- What is finished, the last code point first. -/
  done : List Nat := []
  /-- The letter that marks can still join. -/
  letter : Option Nat := none
  /-- The marks behind it that did not join it, the last one first. -/
  marks : List Nat := []

namespace Composing

/-- All of a text so far, the last code point first. -/
def reversed (s : Composing) : List Nat := s.marks ++ s.letter.toList ++ s.done

/-- A text with one more code point. It joins the letter unless a mark stands between whose class is
not lower. -/
def step (s : Composing) (n : Nat) : Composing :=
  let near := match s.marks with
    | [] => true
    | m :: _ => markClass m < markClass n
  match s.letter.bind fun letter => if near then together? letter n else none with
  | some joined => { s with letter := some joined }
  | none =>
    if markClass n = 0 then { done := s.reversed, letter := some n }
    else if s.letter.isSome then { s with marks := n :: s.marks }
    else { s with done := n :: s.done }

end Composing

/-- A text in the order of its marks, put together. -/
def compose (t : List Nat) : List Nat := (t.foldl Composing.step {}).reversed.reverse

/-- Whether a text is composed. -/
def isComposed (t : Text) : Bool :=
  let codes := t.map CodePoint.val
  codes.all (fun n => !Ranges.mem replaced n) && compose (decompose codes) = codes

end TagAudit.Text
