import TagAudit.Text.Basic

/-!
# Points in time

A point in time by the calendar, without a zone, and the two forms in which reports show it.
-/

namespace TagAudit

/-- A point in time. -/
structure Moment where
  year : Nat
  month : Nat
  day : Nat
  hour : Nat
  minute : Nat
  second : Nat
  microsecond : Nat := 0
deriving DecidableEq, Inhabited

namespace Moment

/-- The point in time some microseconds after the start of 1970. Days are counted from the first of
March of the year zero, so that a leap day is the last of its year; 400 years have 146097 days. -/
def ofMicroseconds (n : Nat) : Moment :=
  let seconds := n / 1000000
  let days := seconds / 86400 + 719468
  let inEra := days % 146097
  let yearInEra := (inEra - inEra / 1460 + inEra / 36524 - inEra / 146096) / 365
  let inYear := inEra - (365 * yearInEra + yearInEra / 4 - yearInEra / 100)
  let fromMarch := (5 * inYear + 2) / 153
  let month := if fromMarch < 10 then fromMarch + 3 else fromMarch - 9
  { year := yearInEra + days / 146097 * 400 + (if month ≤ 2 then 1 else 0)
    month := month
    day := inYear - (153 * fromMarch + 2) / 5 + 1
    hour := seconds / 3600 % 24
    minute := seconds / 60 % 60
    second := seconds % 60
    microsecond := n % 1000000 }

/-- A number with zeros in front up to a width. -/
def padded (width n : Nat) : Text :=
  let digits := Text.ofNat n
  List.replicate (width - digits.length) ('0' : CodePoint) ++ digits

/-- The calendar date. -/
def date (m : Moment) : Text := Text.join "-" [padded 4 m.year, padded 2 m.month, padded 2 m.day]

/-- The time of day in seconds. -/
def clock (m : Moment) : Text :=
  Text.join ":" [padded 2 m.hour, padded 2 m.minute, padded 2 m.second]

/-- The form with a `T` between date and time; microseconds only if there are any. -/
def iso (m : Moment) : Text :=
  m.date ++ ("T" : Text) ++ m.clock ++
    (if m.microsecond = 0 then [] else ("." : Text) ++ padded 6 m.microsecond)

/-- The form for readers. -/
def shown (m : Moment) : Text := m.date ++ (" " : Text) ++ m.clock ++ (" UTC" : Text)

end Moment

end TagAudit
