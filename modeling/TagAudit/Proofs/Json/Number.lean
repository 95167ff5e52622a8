import TagAudit.Proofs.Json.Grammar
import TagAudit.Proofs.Outcome
import TagAudit.Proofs.Text.Runs

/-!
# Reading numbers of JSON

The reader takes the parts of a number one after the other, each as long as it can be. In front of
something that ends a number, these are the parts of the grammar.

* `stops`, `Ends`: what may follow a number in a text.
* `fraction_append`, `exponent_append`, `fraction_sound`, `exponent_sound`: the parts.
* `Number.readNumber_append`, `readNumber_sound`: whole numbers.
-/

namespace TagAudit.Json

open Literal (Sign signed digitValues)
open Text (span_run span_sound)

/-! ## Ends of numbers -/

/-- What may stand behind a value: blanks, the comma, and closing brackets. -/
def stops : List CodePoint := [' ', '\t', '\n', '\r', ',', ']', '\x7d']

/-- A text that ends a number: it is empty or begins with a stop. -/
def Ends (rest : Text) : Prop := ∀ c ∈ rest.head?, c ∈ stops

theorem Ends.nil : Ends [] := by
  intro c hc
  cases hc

theorem Ends.cons {c : CodePoint} (hc : c ∈ stops) (rest : Text) : Ends (c :: rest) := by
  rintro _ ⟨⟩
  exact hc

theorem Ends.ne {rest : Text} (h : Ends rest) {c : CodePoint} (hc : c ∉ stops) :
    ∀ d ∈ rest.head?, d ≠ c := by
  rintro d hd rfl
  exact hc (h d hd)

/-- Whether a run of ASCII digits ends in front of a text. -/
def EndsDigits (rest : Text) : Prop := ∀ c ∈ rest.head?, c.isAsciiDigit = false

theorem Ends.digits {rest : Text} (h : Ends rest) : EndsDigits rest := by
  have hstops : ∀ c ∈ stops, c.isAsciiDigit = false := by decide
  exact fun c hc => hstops c (h c hc)

theorem isBlank_iff {c : CodePoint} :
    isBlank c = true ↔ c = ' ' ∨ c = '\t' ∨ c = '\n' ∨ c = '\r' := by
  simp only [isBlank, Bool.or_eq_true, decide_eq_true_eq, or_assoc]

theorem mem_stops_of_isBlank {c : CodePoint} (hc : isBlank c = true) : c ∈ stops := by
  rcases isBlank_iff.mp hc with rfl | rfl | rfl | rfl <;> decide

theorem IsBlanks.ends {blanks rest : Text} (h : IsBlanks blanks) (hrest : Ends rest) :
    Ends (blanks ++ rest) := by
  cases blanks with
  | nil => exact hrest
  | cons c blanks => exact .cons (mem_stops_of_isBlank (h c List.mem_cons_self)) _

/-! ## Digits -/

theorem digitValue_eq {c : CodePoint} (hc : c.isAsciiDigit = true) :
    c.decimalValue?.getD 0 = c.val - 0x30 := by
  simp [CodePoint.decimalValue?, hc]

theorem digitValues_eq {s : Text} (h : IsDigits s) :
    digitValues s = s.map fun c => c.val - 0x30 :=
  List.map_congr_left fun c hc => digitValue_eq (h c hc)

theorem digits_append {s rest : Text} (h : IsDigits s) (hrest : EndsDigits rest) :
    digits (s ++ rest) = (digitValues s, rest) := by
  unfold digits
  rw [span_run h hrest, digitValues_eq h]

theorem digits_sound (text : Text) :
    ∃ s, text = s ++ (digits text).2 ∧ IsDigits s ∧ (digits text).1 = digitValues s := by
  obtain ⟨s, rest, hspan⟩ : ∃ s rest, text.span CodePoint.isAsciiDigit = (s, rest) := ⟨_, _, rfl⟩
  obtain ⟨rfl, hs, -⟩ := span_sound hspan
  rw [digits, hspan]
  exact ⟨s, rfl, hs, (digitValues_eq hs).symm⟩

theorem digitValues_eq_nil {s : Text} : digitValues s = [] ↔ s = [] := List.map_eq_nil_iff

theorem length_digitValues (s : Text) : (digitValues s).length = s.length := List.length_map _

theorem IsDigits.head_ne {s : Text} (h : IsDigits s) (hne : s ≠ []) (rest : Text) {c : CodePoint}
    (hc : c.isAsciiDigit = false) : ∀ d ∈ (s ++ rest).head?, d ≠ c := by
  obtain ⟨d, more, rfl⟩ := List.exists_cons_of_ne_nil hne
  rintro _ ⟨⟩ rfl
  have hd := h d List.mem_cons_self
  rw [hc] at hd
  cases hd

/-! ## Fractions -/

theorem fraction_some {places rest : Text} (hplaces : IsDigits places) (hne : places ≠ [])
    (hrest : EndsDigits rest) :
    fraction (('.' : CodePoint) :: (places ++ rest)) = (digitValues places, rest) := by
  have hvalues : digitValues places ≠ [] := mt digitValues_eq_nil.mp hne
  rw [fraction, if_pos rfl, digits_append hplaces hrest]
  split
  · next h => exact absurd (congrArg Prod.fst h) hvalues
  · rfl

theorem fraction_none {rest : Text} (hrest : ∀ c ∈ rest.head?, c ≠ '.') :
    fraction rest = ([], rest) := by
  cases rest with
  | nil => rfl
  | cons c rest => rw [fraction, if_neg (hrest c rfl)]

theorem fraction_append {s places rest : Text} (h : Fraction s places) (hdigits : EndsDigits rest)
    (hpoint : ∀ c ∈ rest.head?, c ≠ '.') :
    fraction (s ++ rest) = (digitValues places, rest) := by
  cases h with
  | none => exact fraction_none hpoint
  | some hplaces hne => exact fraction_some hplaces hne hdigits

theorem fraction_sound (text : Text) :
    ∃ s places, text = s ++ (fraction text).2 ∧ Fraction s places ∧
      (fraction text).1 = digitValues places := by
  unfold fraction
  split
  case h_2 => exact ⟨[], [], rfl, .none, rfl⟩
  case h_1 c body =>
    split
    case isFalse => exact ⟨[], [], rfl, .none, rfl⟩
    case isTrue hc =>
      obtain ⟨places, hbody, hplaces, hvalues⟩ := digits_sound body
      split
      case h_1 => exact ⟨[], [], rfl, .none, rfl⟩
      case h_2 found hne =>
        have hplaces' : places ≠ [] := by
          rintro rfl
          exact hne _ (Prod.ext hvalues rfl)
        refine ⟨c :: places, places, ?_, hc ▸ .some hplaces hplaces', hvalues⟩
        exact congrArg (c :: ·) hbody

/-! ## Exponents -/

/-- A sign in front of digits, taken off. -/
def splitSign (text : Text) : Bool × Text :=
  match text with
  | s :: body => if s = '-' then (true, body) else if s = '+' then (false, body) else (false, text)
  | [] => (false, text)

theorem exponent_cons (mark : CodePoint) (rest : Text) :
    exponent (mark :: rest) =
      if mark = 'e' || mark = 'E' then
        match digits (splitSign rest).2 with
        | ([], _) => (none, mark :: rest)
        | (found, after) => (some (signed (splitSign rest).1 (Numeral.toNat 10 found)), after)
      else (none, mark :: rest) := rfl

theorem splitSign_append {sign body : Text} {negative : Bool} (h : Sign sign negative)
    (hbody : ∀ c ∈ body.head?, c ≠ '-' ∧ c ≠ '+') :
    splitSign (sign ++ body) = (negative, body) := by
  cases h with
  | none =>
    cases body with
    | nil => rfl
    | cons c body => simp [splitSign, hbody c rfl]
  | plus | minus => simp [splitSign]

theorem splitSign_sound (text : Text) :
    ∃ sign, text = sign ++ (splitSign text).2 ∧ Sign sign (splitSign text).1 := by
  unfold splitSign
  split
  · split_ifs with hminus hplus
    · exact ⟨['-'], by rw [hminus]; rfl, .minus⟩
    · exact ⟨['+'], by rw [hplus]; rfl, .plus⟩
    · exact ⟨[], rfl, .none⟩
  · exact ⟨[], rfl, .none⟩

theorem exponent_some {mark : CodePoint} {sign digits rest : Text} {negative : Bool}
    (hmark : mark = 'e' ∨ mark = 'E') (hsign : Sign sign negative) (hdigits : IsDigits digits)
    (hne : digits ≠ []) (hrest : EndsDigits rest) :
    exponent (mark :: (sign ++ (digits ++ rest))) =
      (some (signed negative (Numeral.toNat 10 (digitValues digits))), rest) := by
  have hbody : ∀ c ∈ (digits ++ rest).head?, c ≠ '-' ∧ c ≠ '+' := fun c hc =>
    ⟨hdigits.head_ne hne rest (by decide) c hc, hdigits.head_ne hne rest (by decide) c hc⟩
  have hmark' : (decide (mark = 'e') || decide (mark = 'E')) = true := by simpa using hmark
  have hvalues : digitValues digits ≠ [] := mt digitValues_eq_nil.mp hne
  rw [exponent_cons, if_pos hmark', splitSign_append hsign hbody, digits_append hdigits hrest]
  split
  · next h => exact absurd (congrArg Prod.fst h) hvalues
  · next h =>
    cases h
    rfl

theorem exponent_none {rest : Text} (hrest : ∀ c ∈ rest.head?, c ≠ 'e' ∧ c ≠ 'E') :
    exponent rest = (none, rest) := by
  cases rest with
  | nil => rfl
  | cons c rest => simp [exponent, hrest c rfl]

theorem exponent_append {s rest : Text} {power : Option Int} (h : Power s power)
    (hrest : Ends rest) : exponent (s ++ rest) = (power, rest) := by
  cases h with
  | none => exact exponent_none fun c hc => ⟨hrest.ne (by decide) c hc, hrest.ne (by decide) c hc⟩
  | some hmark hsign hdigits hne =>
    rw [List.cons_append, List.append_assoc]
    exact exponent_some hmark hsign hdigits hne hrest.digits

theorem exponent_sound (text : Text) :
    ∃ s, text = s ++ (exponent text).2 ∧ Power s (exponent text).1 := by
  cases text with
  | nil => exact ⟨[], rfl, .none⟩
  | cons mark body =>
    rw [exponent_cons]
    split
    case isFalse => exact ⟨[], rfl, .none⟩
    case isTrue hmark =>
      have hmark' : mark = 'e' ∨ mark = 'E' := by simpa using hmark
      obtain ⟨sign, hbody, hsign⟩ := splitSign_sound body
      obtain ⟨digits, hdigits, hall, hvalues⟩ := digits_sound (splitSign body).2
      split
      case h_1 => exact ⟨[], rfl, .none⟩
      case h_2 found after hne hfound =>
        rw [hfound] at hdigits hvalues
        obtain rfl : found = digitValues digits := hvalues
        have hdigits' : digits ≠ [] := by
          rintro rfl
          exact hne rfl
        refine ⟨mark :: (sign ++ digits), ?_, .some hmark' hsign hall hdigits'⟩
        rw [List.cons_append, List.append_assoc, ← hdigits, ← hbody]

/-! ## Whole numbers -/

/-- A minus in front of a number, taken off. -/
def splitMinus (text : Text) : Bool × Text :=
  match text with
  | c :: rest => if c = '-' then (true, rest) else (false, text)
  | [] => (false, text)

/-- The integer in front of a fraction or an exponent, taken off. -/
def splitWhole (text : Text) : List Nat × Text :=
  match text with
  | c :: rest => if c = '0' then ([0], rest) else digits text
  | [] => ([], text)

theorem splitMinus_append {minus body : Text} {negative : Bool} (h : Minus minus negative)
    (hbody : ∀ c ∈ body.head?, c ≠ '-') : splitMinus (minus ++ body) = (negative, body) := by
  cases h with
  | none =>
    cases body with
    | nil => rfl
    | cons c body => simp [splitMinus, hbody c rfl]
  | minus => simp [splitMinus]

theorem splitMinus_sound (text : Text) :
    ∃ minus, text = minus ++ (splitMinus text).2 ∧ Minus minus (splitMinus text).1 := by
  unfold splitMinus
  split
  · split_ifs with hc
    · exact ⟨['-'], by rw [hc]; rfl, .minus⟩
    · exact ⟨[], rfl, .none⟩
  · exact ⟨[], rfl, .none⟩

theorem splitWhole_append {s rest : Text} (h : IsWhole s) (hrest : EndsDigits rest) :
    splitWhole (s ++ rest) = (digitValues s, rest) := by
  obtain ⟨c, tail, rfl⟩ := List.exists_cons_of_ne_nil h.ne_nil
  rw [List.cons_append, splitWhole]
  split
  · next hc =>
    subst hc
    obtain rfl := h.zero tail rfl
    rfl
  · exact digits_append h.digits hrest

theorem splitWhole_sound {text : Text} (hne : (splitWhole text).1 ≠ []) :
    ∃ s, text = s ++ (splitWhole text).2 ∧ IsWhole s ∧ (splitWhole text).1 = digitValues s := by
  cases text with
  | nil => exact absurd rfl hne
  | cons c tail =>
    rw [splitWhole] at hne ⊢
    split at hne
    case isTrue hc =>
      subst hc
      have hzero : IsDigits ['0'] := by
        intro d hd
        obtain rfl := List.mem_singleton.mp hd
        rfl
      exact ⟨['0'], rfl, ⟨hzero, by simp, fun _ h => (List.cons.inj h).2.symm⟩, rfl⟩
    case isFalse hc =>
      obtain ⟨s, hs, hdigits, hvalues⟩ := digits_sound (c :: tail)
      have hs' : s ≠ [] := by
        rintro rfl
        exact hne hvalues
      rw [if_neg hc]
      refine ⟨s, hs, ⟨hdigits, hs', ?_⟩, hvalues⟩
      rintro more rfl
      exact absurd (List.cons.inj hs).1 hc

/-- The value of a number, from its parts. -/
def numberValue (negative : Bool) (digits places : List Nat) (power : Option Int) :
    Except Failure Data :=
  if places.isEmpty && power.isNone then
    match Numeral.ofDigits? digits with
    | some n => .ok (.int (signed negative n))
    | none => .error (.longNumeral digits.length)
  else
    .ok (.float (Binary64.ofDecimal negative (Numeral.toNat 10 (digits ++ places))
      (power.getD 0 - places.length)))

/-- The reader of numbers, with its parts by name. -/
theorem readNumber_eq (text : Text) :
    readNumber text =
      let sign := splitMinus text
      let whole := splitWhole sign.2
      let places := fraction whole.2
      let power := exponent places.2
      if whole.1.isEmpty then .error (.malformed .expectingValue text)
      else (numberValue sign.1 whole.1 places.1 power.1).map (·, power.2) := by
  have hparts : readNumber text =
      let sign := splitMinus text
      let whole := splitWhole sign.2
      let places := fraction whole.2
      let power := exponent places.2
      if whole.1.isEmpty then .error (.malformed .expectingValue text)
      else if places.1.isEmpty && power.1.isNone then
        match Numeral.ofDigits? whole.1 with
        | some n => .ok (.int (signed sign.1 n), power.2)
        | none => .error (.longNumeral whole.1.length)
      else
        .ok (.float (Binary64.ofDecimal sign.1 (Numeral.toNat 10 (whole.1 ++ places.1))
          (power.1.getD 0 - places.1.length)), power.2) := rfl
  rw [hparts]
  unfold numberValue
  simp only
  split
  · rfl
  · split
    · split <;> rfl
    · rfl

theorem readNumber_parts {minus digits fraction places exponent rest : Text} {negative : Bool}
    {power : Option Int} (hminus : Minus minus negative) (hdigits : IsWhole digits)
    (hfraction : Fraction fraction places) (hexponent : Power exponent power) (hrest : Ends rest) :
    readNumber (minus ++ (digits ++ (fraction ++ (exponent ++ rest)))) =
      (numberValue negative (digitValues digits) (digitValues places) power).map (·, rest) := by
  have hminus' : ∀ c ∈ (digits ++ (fraction ++ (exponent ++ rest))).head?, c ≠ '-' :=
    hdigits.digits.head_ne hdigits.ne_nil _ (by decide)
  have hpower : EndsDigits (exponent ++ rest) ∧ ∀ c ∈ (exponent ++ rest).head?, c ≠ '.' := by
    cases hexponent with
    | none => exact ⟨hrest.digits, hrest.ne (by decide)⟩
    | some hmark =>
      refine ⟨?_, ?_⟩ <;> rintro _ ⟨⟩ <;> rcases hmark with rfl | rfl <;> decide
  have hfraction' : EndsDigits (fraction ++ (exponent ++ rest)) := by
    cases hfraction with
    | none => exact hpower.1
    | some _ _ =>
      rintro _ ⟨⟩
      decide
  have hvalues : (digitValues digits).isEmpty = false := by
    simp [digitValues_eq_nil, hdigits.ne_nil]
  simp only [readNumber_eq, splitMinus_append hminus hminus', splitWhole_append hdigits hfraction',
    fraction_append hfraction hpower.1 hpower.2, exponent_append hexponent hrest, hvalues,
    Bool.false_eq_true, if_false]

/-- **A number in front** of something that ends it is read. -/
theorem Number.readNumber_append {s rest : Text} {v : Data} (h : Number s v) (hrest : Ends rest) :
    readNumber (s ++ rest) = .ok (v, rest) := by
  cases h with
  | whole hminus hdigits hlong =>
    have hparts := readNumber_parts hminus hdigits .none .none hrest
    rw [List.nil_append, List.nil_append] at hparts
    rw [List.append_assoc, hparts, numberValue, Numeral.ofDigits?, length_digitValues,
      if_neg (Nat.not_lt.mpr hlong)]
    rfl
  | @real minus digits fraction places exponent negative power hminus hdigits hfraction hexponent
      hne =>
    have hfloat : ((digitValues places).isEmpty && power.isNone) = false := by
      rcases hne with hplaces | hpower
      · simp [digitValues_eq_nil, hplaces]
      · simp [Option.isSome_iff_ne_none.mpr hpower]
    simp only [List.append_assoc]
    rw [readNumber_parts hminus hdigits hfraction hexponent hrest, numberValue, hfloat]
    simp only [length_digitValues]
    rfl

/-- What the parts of a number are worth, if it is not too long. -/
theorem numberValue_sound {minus digits fraction places exponent : Text} {negative : Bool}
    {power : Option Int} {v : Data} (hminus : Minus minus negative) (hdigits : IsWhole digits)
    (hfraction : Fraction fraction places) (hexponent : Power exponent power)
    (h : numberValue negative (digitValues digits) (digitValues places) power = .ok v) :
    Number (minus ++ (digits ++ (fraction ++ exponent))) v := by
  unfold numberValue at h
  split at h
  case isTrue hint =>
    -- Without places and without a power there is nothing but the digits.
    rw [Bool.and_eq_true, List.isEmpty_iff, Option.isNone_iff_eq_none, digitValues_eq_nil] at hint
    obtain ⟨rfl, rfl⟩ := hint
    cases hfraction with
    | some _ hne => exact absurd rfl hne
    | none =>
      cases hexponent
      rw [Numeral.ofDigits?, length_digitValues] at h
      by_cases hlong : digits.length > Fault.digitLimit
      · rw [if_pos hlong] at h
        cases h
      · rw [if_neg hlong] at h
        cases h
        rw [List.append_nil, List.append_nil]
        exact .whole hminus hdigits (Nat.not_lt.mp hlong)
  case isFalse hreal =>
    cases h
    have hne : places ≠ [] ∨ power ≠ none := by
      rw [Bool.and_eq_true, List.isEmpty_iff, Option.isNone_iff_eq_none, digitValues_eq_nil,
        not_and_or] at hreal
      exact hreal
    rw [length_digitValues]
    exact .real hminus hdigits hfraction hexponent hne

/-- **What is read** is a number. -/
theorem readNumber_sound {text rest : Text} {v : Data} (h : readNumber text = .ok (v, rest)) :
    ∃ s, text = s ++ rest ∧ Number s v := by
  rw [readNumber_eq] at h
  simp only at h
  split at h
  case isTrue => cases h
  case isFalse hne =>
    obtain ⟨value, hvalue, heq⟩ := Outcome.map_eq_ok.mp h
    cases heq
    have hwhole : (splitWhole (splitMinus text).2).1 ≠ [] := by simpa using hne
    obtain ⟨minus, hminus, hm⟩ := splitMinus_sound text
    obtain ⟨digits, hdigits, hd, hdvalues⟩ := splitWhole_sound hwhole
    obtain ⟨fraction, places, hfraction, hf, hfvalues⟩ :=
      fraction_sound (splitWhole (splitMinus text).2).2
    obtain ⟨exponent, hexponent, he⟩ :=
      exponent_sound (Json.fraction (splitWhole (splitMinus text).2).2).2
    rw [hdvalues, hfvalues] at hvalue
    refine ⟨minus ++ (digits ++ (fraction ++ exponent)), ?_, numberValue_sound hm hd hf he hvalue⟩
    simp only [List.append_assoc]
    rw [← hexponent, ← hfraction, ← hdigits, ← hminus]

end TagAudit.Json
