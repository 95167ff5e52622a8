import TagAudit.Text.Basic

/-!
# Punycode

Any text in letters, digits and hyphens of ASCII. The code points of ASCII come first, behind them a
hyphen, and then numbers, one for every other code point in ascending order: how far to go on, over
the places where it could stand and the code points that it could be, until it is inserted. The
digits of a number are the letters and the ten digits; how many of them there are hangs on a bias
that follows the numbers before.

* `encode` writes a text, `decode?` reads it.
-/

namespace TagAudit.Punycode

/-! ## Numbers -/

/-- How many digits there are. -/
def base : Nat := 36

/-- A digit. -/
def digit (n : Nat) : CodePoint := CodePoint.ofNat (if n < 26 then 0x61 + n else 0x30 + (n - 26))

/-- The value of a digit. -/
def digitValue? (c : CodePoint) : Option Nat :=
  if c.isAsciiLower then some (c.val - 0x61)
  else if c.isAsciiUpper then some (c.val - 0x41)
  else if c.isAsciiDigit then some (c.val - 0x30 + 26)
  else none

/-- The least digit at a place that is not the last one. -/
def threshold (bias place : Nat) : Nat := max 1 (min 26 (base * (place + 1) - bias))

theorem threshold_pos (bias place : Nat) : 0 < threshold bias place := by
  unfold threshold; omega

/-- The digits of a number from some place on. -/
def digitsFrom (bias place n : Nat) : Text :=
  let t := threshold bias place
  if n < t then [digit n]
  else digit (t + (n - t) % (base - t)) :: digitsFrom bias (place + 1) ((n - t) / (base - t))
termination_by n
decreasing_by
  have := threshold_pos bias place
  exact Nat.lt_of_le_of_lt (Nat.div_le_self _ _) (by omega)

/-- The number at the front of a text, added to `sum`, and what follows it; the digit read next
counts `weight` times. -/
def readNumber? (bias place weight sum : Nat) : Text → Option (Nat × Text)
  | [] => none
  | c :: rest =>
    match digitValue? c with
    | none => none
    | some n =>
      let t := threshold bias place
      if n < t then some (sum + n * weight, rest)
      else readNumber? bias (place + 1) (weight * (base - t)) (sum + n * weight) rest

theorem readNumber?_shorter {bias place weight sum n : Nat} {t rest : Text}
    (h : readNumber? bias place weight sum t = some (n, rest)) : rest.length < t.length := by
  induction t generalizing place weight sum with
  | nil => simp [readNumber?] at h
  | cons c t ih =>
    rw [readNumber?] at h
    split at h
    · cases h
    · dsimp only at h
      split at h
      · cases h; simp
      · have := ih h
        simp only [List.length_cons]; omega

/-! ## Bias -/

/-- A number made small by steps, and how often it was. -/
def shrink (n : Nat) : Nat × Nat :=
  if 455 < n then
    let (rest, steps) := shrink (n / 35)
    (rest, steps + 1)
  else (n, 0)
termination_by n
decreasing_by exact Nat.div_lt_self (by omega) (by omega)

/-- The bias for the numbers before any was seen. -/
def firstBias : Nat := 72

/-- The bias after a number, when `count` code points are in place. -/
def nextBias (isFirst : Bool) (n count : Nat) : Nat :=
  let half := if isFirst then n / 700 else n / 2
  let (rest, steps) := shrink (half + half / count)
  base * steps + base * rest / (rest + 38)

/-! ## Writing -/

/-- A text written so far. -/
structure Writing where
  /-- The digits, the last number first. -/
  written : List Text := []
  /-- How far it is from the last insertion. -/
  distance : Nat := 0
  bias : Nat := firstBias
  /-- How many code points are in place. -/
  count : Nat

/-- Goes over a code point of the text while those that equal `n` are inserted. -/
def Writing.step (n : Nat) (s : Writing) (c : CodePoint) : Writing :=
  if c.val < n then { s with distance := s.distance + 1 }
  else if c.val = n then
    { written := digitsFrom s.bias 0 s.distance :: s.written
      distance := 0
      bias := nextBias s.written.isEmpty s.distance (s.count + 1)
      count := s.count + 1 }
  else s

/-- Inserts code points in ascending order; those below `low` are in place. -/
def Writing.insertAll (t : Text) (low : Nat) (s : Writing) : List Nat → Writing
  | [] => s
  | n :: more =>
    let s := t.foldl (step n) { s with distance := s.distance + (n - low) * (s.count + 1) }
    insertAll t (n + 1) { s with distance := s.distance + 1 } more

/-- The numbers of a list in ascending order, each of them once. -/
def ascending (ns : List Nat) : List Nat := (ns.mergeSort fun a b => a ≤ b).eraseDups

/-- A text in letters, digits and hyphens. -/
def encode (t : Text) : Text :=
  let plain := t.filter fun c => c.val < 0x80
  let others := ascending ((t.filter fun c => 0x80 ≤ c.val).map CodePoint.val)
  let written := (Writing.insertAll t 0x80 { count := plain.length } others).written
  (if plain.isEmpty then [] else plain ++ ("-" : Text)) ++ written.reverse.flatten

/-! ## Reading -/

/-- Inserts the code points that numbers tell of into a text, each behind `place` or on a further
round with a greater code point. -/
def insertRead (bias code place : Nat) (isFirst : Bool) (t : Text) (rest : Text) : Option Text :=
  if rest.isEmpty then some t
  else
    match h : readNumber? bias 0 1 0 rest with
    | none => none
    | some (n, rest') =>
      let count := t.length + 1
      let code := code + (place + n) / count
      let place := (place + n) % count
      if 0x10FFFF < code then none
      else
        insertRead (nextBias isFirst n count) code (place + 1) false
          (t.insertIdx place (CodePoint.ofNat code)) rest'
termination_by rest.length
decreasing_by exact readNumber?_shorter h

/-- The text that letters, digits and hyphens stand for; the last hyphen ends the code points of
ASCII. -/
def decode? (t : Text) : Option Text :=
  let numbers := (t.reverse.takeWhile fun (c : CodePoint) => decide (c ≠ '-')).reverse
  insertRead firstBias 0x80 0 true (t.take (t.length - numbers.length - 1)) numbers

end TagAudit.Punycode
