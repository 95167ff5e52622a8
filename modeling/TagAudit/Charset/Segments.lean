import TagAudit.Text.CodePoint

/-!
# Segments of character sets

A set of characters is a table: characters stand in rows, at places of the row. A segment is a piece
of a row. Runs are segments whose characters follow one another in Unicode as well.

* `Segments.find?` and `runCode?` are the look-ups.
-/

namespace TagAudit.Charset

/-- Pieces of rows: the row, the place of the first character, and the characters; U+FFFD stands for
none. -/
abbrev Segments := List (Nat × Nat × String)

/-- The character at a place of a row. -/
def Segments.find? (segments : Segments) (row place : Nat) : Option CodePoint :=
  segments.findSome? fun (r, first, characters) =>
    if r = row && first ≤ place && place < first + characters.length then
      match characters.toList[place - first]? with
      | some c => if c = '\uFFFD' then none else some (CodePoint.ofChar c)
      | none => none
    else none

/-- The code point at a place of a row, by runs: the row, the first place, how many there are, and
the first code point. -/
def runCode? (runs : List (Nat × Nat × Nat × Nat)) (row place : Nat) : Option CodePoint :=
  runs.findSome? fun (r, first, count, code) =>
    if r = row && first ≤ place && place < first + count then
      some (CodePoint.ofNat (code + (place - first)))
    else none

/-- The two code points of a character that is no single one, by row and place. -/
def pairCode? (pairs : List (Nat × Nat × Nat × Nat)) (row place : Nat) : Option Text :=
  pairs.findSome? fun (r, p, a, b) =>
    if r = row && p = place then some [CodePoint.ofNat a, CodePoint.ofNat b] else none

end TagAudit.Charset
