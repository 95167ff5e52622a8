import TagAudit.Proofs.Literal.Gap
import TagAudit.Proofs.Text.Runs

/-!
# Reading numbers

`lexNumber?` splits the longest number token off a text. A token of the grammar is that token
whenever it is followed by something that cannot continue it, and nothing that may follow a token in
a literal can.

* `stops`, `Stops`: what may follow.
* `lexNumber?_append`: the token in front is found.
* `lexNumber?_sound`: what is found is a token.
* `readNumber_append`, `readNumber_sound`: the same with values.
-/

namespace TagAudit.Literal

open Text (span_run span_sound)

/-! ## Ends of tokens -/

/-- What may stand behind a word or a number: the six blanks, the slash of a comment, and the
separators. -/
def stops : List CodePoint :=
  [' ', '\t', '\r', '\n', ⟨0xA0, by decide⟩, ⟨0xFEFF, by decide⟩, '/', ',', ':', ']', '\x7d']

/-- A text that does not continue a word or a number: it is empty or begins with a stop. -/
def Stops (rest : Text) : Prop := ∀ c ∈ rest.head?, c ∈ stops

theorem mem_stops_of_isBlank {c : CodePoint} (hc : isBlank c = true) : c ∈ stops := by
  simp only [isBlank, Bool.or_eq_true, decide_eq_true_eq, beq_iff_eq] at hc
  obtain ((((hc | hc) | hc) | hc) | hc) | hc := hc
  · simp [stops, hc]
  · simp [stops, hc]
  · simp [stops, hc]
  · simp [stops, hc]
  · simp [stops, CodePoint.ext_iff, hc]
  · simp [stops, CodePoint.ext_iff, hc]

/-- What is of a class is none of the code points that are not. -/
theorem not_mem_of_class {excluded : List CodePoint} {p : CodePoint → Bool}
    (hp : ∀ d ∈ excluded, p d = false) {c : CodePoint} (hc : p c = true) : c ∉ excluded := by
  intro hmem
  rw [hp c hmem] at hc
  cases hc

theorem isBlank_of_not_mem_stops {c : CodePoint} (hc : c ∉ stops) : isBlank c = false := by
  rw [Bool.eq_false_iff]
  exact fun h => hc (mem_stops_of_isBlank h)

theorem ne_of_not_mem_stops {c d : CodePoint} (hc : c ∉ stops) (hd : d ∈ stops) : c ≠ d := by
  rintro rfl
  exact hc hd

theorem Stops.cons {c : CodePoint} (hc : c ∈ stops) (rest : Text) : Stops (c :: rest) := by
  intro d hd
  cases hd
  exact hc

theorem IsGap.stops {g rest : Text} (hg : IsGap g) (h : Stops rest) : Stops (g ++ rest) := by
  cases hg with
  | nil => exact h
  | blank hc _ => exact .cons (mem_stops_of_isBlank hc) _
  | line _ _ | block _ _ => exact .cons (by decide) _

theorem IsTail.stops {tail : Text} (h : IsTail tail) : Stops tail := by
  cases h with
  | gap hg =>
    have hnil : Stops [] := by intro c hc; cases hc
    have := hg.stops hnil
    rwa [List.append_nil] at this
  | line hg _ => exact hg.stops (.cons (by decide) _)

/-- What no stop has, the next code point does not have. -/
theorem Stops.head {rest : Text} (h : Stops rest) {p : CodePoint → Bool}
    (hp : ∀ c ∈ stops, p c = false) : ∀ c ∈ rest.head?, p c = false :=
  fun c hc => hp c (h c hc)

theorem Stops.ne {rest : Text} (h : Stops rest) {d : CodePoint} (hd : d ∉ stops) :
    ∀ c ∈ rest.head?, c ≠ d := by
  rintro c hc rfl
  exact hd (h c hc)

/-! ## Signs -/

theorem splitSign_append {sign body : Text} {negative : Bool} (h : Sign sign negative)
    (hbody : ∀ c ∈ body.head?, c ≠ '-' ∧ c ≠ '+') : splitSign (sign ++ body) = (sign, body) := by
  cases h with
  | none =>
    cases body with
    | nil => rfl
    | cons c body => simp [splitSign, hbody c rfl]
  | plus | minus => simp [splitSign]

theorem splitSign_sound {text sign body : Text} (h : splitSign text = (sign, body)) :
    text = sign ++ body ∧ Sign sign (sign = ("-" : Text)) := by
  cases text with
  | nil =>
    cases h
    exact ⟨rfl, .none⟩
  | cons c text =>
    rw [splitSign] at h
    split at h
    case isTrue hc =>
      cases h
      simp only [Bool.or_eq_true, decide_eq_true_eq] at hc
      obtain rfl | rfl := hc
      · exact ⟨rfl, .minus⟩
      · exact ⟨rfl, .plus⟩
    case isFalse =>
      cases h
      exact ⟨rfl, .none⟩

theorem Sign.eq_decide {sign : Text} {negative : Bool} (h : Sign sign negative) :
    negative = decide (sign = ("-" : Text)) := by
  cases h <;> decide

/-! ## Exponents -/

/-- Whether a run of decimal digits ends in front of a text. -/
def EndsRun (rest : Text) : Prop := ∀ c ∈ rest.head?, c.isDecimal = false

/-- A text that begins with a decimal digit does not begin with anything else. -/
theorem IsDecimalRun.head_ne {digits : Text} (h : IsDecimalRun digits) (hne : digits ≠ [])
    (rest : Text) {c : CodePoint} (hc : c.isDecimal = false) :
    ∀ d ∈ (digits ++ rest).head?, d ≠ c := by
  obtain ⟨d, more, rfl⟩ := List.exists_cons_of_ne_nil hne
  rintro _ ⟨⟩ rfl
  rw [h d List.mem_cons_self] at hc
  cases hc

/-- An exponent, taken apart. -/
theorem lexPower?_eq {mark : CodePoint} (hmark : mark = 'e' ∨ mark = 'E')
    {rest sign body digits after : Text} (hsplit : splitSign rest = (sign, body))
    (hspan : body.span CodePoint.isDecimal = (digits, after)) :
    lexPower? (mark :: rest) = if digits = [] then none else
      some (mark :: (sign ++ digits),
        signed (sign = ("-" : Text)) (Numeral.toNat 10 (digitValues digits)), after) := by
  have hmark' : (decide (mark = 'e') || decide (mark = 'E')) = true := by simpa using hmark
  rw [lexPower?, if_pos hmark', hsplit]
  simp only [hspan]
  cases digits with
  | nil => rfl
  | cons d digits => simp [signed]

/-- What has the two marks of exponents is had by the head of every exponent. -/
theorem Exponent.head {exponent : Text} {power : Int} (h : Exponent exponent power) (rest : Text)
    {p : CodePoint → Prop} (hp : p 'e' ∧ p 'E') : ∀ c ∈ (exponent ++ rest).head?, p c := by
  cases h with
  | mk hmark =>
    rintro _ ⟨⟩
    obtain rfl | rfl := hmark
    · exact hp.1
    · exact hp.2

theorem lexPower?_append {exponent rest : Text} {power : Int} (h : Exponent exponent power)
    (hrest : EndsRun rest) : lexPower? (exponent ++ rest) = some (exponent, power, rest) := by
  obtain @⟨mark, sign, digits, negative, hmark, hsign, hdigits, hne⟩ := h
  have hbody : ∀ c ∈ (digits ++ rest).head?, c ≠ '-' ∧ c ≠ '+' := fun c hc =>
    ⟨hdigits.head_ne hne rest (by decide) c hc, hdigits.head_ne hne rest (by decide) c hc⟩
  rw [List.cons_append, List.append_assoc,
    lexPower?_eq hmark (splitSign_append hsign hbody) (span_run hdigits hrest), if_neg hne,
    hsign.eq_decide]

theorem lexPower?_eq_none {rest : Text} (h : ∀ c ∈ rest.head?, c ≠ 'e' ∧ c ≠ 'E') :
    lexPower? rest = none := by
  cases rest with
  | nil => rfl
  | cons c rest => simp [lexPower?, h c rfl]

theorem lexPower?_sound {text spelled rest : Text} {power : Int}
    (h : lexPower? text = some (spelled, power, rest)) :
    text = spelled ++ rest ∧ Exponent spelled power := by
  cases text with
  | nil => cases h
  | cons mark text =>
    by_cases hmark : mark = 'e' ∨ mark = 'E'
    · obtain ⟨sign, body, hsplit⟩ : ∃ sign body, splitSign text = (sign, body) := ⟨_, _, rfl⟩
      obtain ⟨digits, after, hspan⟩ : ∃ digits after,
          body.span CodePoint.isDecimal = (digits, after) := ⟨_, _, rfl⟩
      rw [lexPower?_eq hmark hsplit hspan] at h
      split at h
      case isTrue => cases h
      case isFalse hne =>
        cases h
        obtain ⟨rfl, hsign⟩ := splitSign_sound hsplit
        obtain ⟨rfl, hdigits, -⟩ := span_sound hspan
        exact ⟨by simp, .mk hmark hsign hdigits hne⟩
    · rw [not_or] at hmark
      rw [lexPower?_eq_none (by rintro _ ⟨⟩; exact hmark)] at h
      cases h

/-! ## Numbers without a sign -/

section

variable (negative : Bool)

/-- What is made of the digits in front of an exponent, if there is one. -/
def finish (plain : Magnitude) (digits places mantissa rest : Text) : NumberToken × Text :=
  match lexPower? rest with
  | some (exponent, power, after) =>
    (⟨negative, .scaled (digitValues digits) (digitValues places) power, mantissa ++ exponent⟩,
      after)
  | none => (⟨negative, plain, mantissa⟩, rest)

theorem finish_sound {plain : Magnitude} {digits places mantissa rest after : Text}
    {token : NumberToken}
    (h : finish negative plain digits places mantissa rest = (token, after)) :
    token = ⟨negative, plain, mantissa⟩ ∧ after = rest ∨
      ∃ exponent power, Exponent exponent power ∧ rest = exponent ++ after ∧
        token = ⟨negative, .scaled (digitValues digits) (digitValues places) power,
          mantissa ++ exponent⟩ := by
  unfold finish at h
  split at h
  case h_1 exponent power after hpower =>
    cases h
    obtain ⟨hrest, hexponent⟩ := lexPower?_sound hpower
    exact .inr ⟨exponent, power, hexponent, hrest, rfl⟩
  case h_2 =>
    cases h
    exact .inl ⟨rfl, rfl⟩

theorem lexDecimal?_whole {digits rest : Text} (hdigits : IsDecimalRun digits)
    (hrest : EndsRun rest) (hpoint : ∀ c ∈ rest.head?, c ≠ '.') :
    lexDecimal? negative (digits ++ rest) = if digits = [] then none else
      some (finish negative (.whole (digitValues digits)) digits [] digits rest) := by
  unfold lexDecimal? finish
  rw [span_run hdigits hrest]
  cases rest with
  | nil => simp [lexPower?]
  | cons c rest =>
    simp only [hpoint c rfl, if_false]
    cases lexPower? (c :: rest) <;> simp [digitValues]

theorem lexDecimal?_pointed {digits places rest : Text} (hdigits : IsDecimalRun digits)
    (hplaces : IsDecimalRun places) (hrest : EndsRun rest) :
    lexDecimal? negative (digits ++ ('.' : CodePoint) :: (places ++ rest)) =
      if digits = [] ∧ places = [] then none else
        some (finish negative (.scaled (digitValues digits) (digitValues places) 0) digits places
          (digits ++ ('.' : CodePoint) :: places) rest) := by
  have hend : EndsRun (('.' : CodePoint) :: (places ++ rest)) := by
    rintro _ ⟨⟩
    decide
  unfold lexDecimal? finish
  rw [span_run hdigits hend]
  simp only [if_true, span_run hplaces hrest]
  cases lexPower? rest <;> simp [Text.ofString]

theorem lexHex?_append {mark : CodePoint} {digits rest : Text} (hmark : mark = 'x' ∨ mark = 'X')
    (hdigits : ∀ c ∈ digits, c.hexValue?.isSome = true) (hne : digits ≠ [])
    (hrest : ∀ c ∈ rest.head?, c.hexValue?.isSome = false) :
    lexHex? negative ('0' :: mark :: (digits ++ rest)) =
      some (⟨negative, .hex (digits.filterMap CodePoint.hexValue?), '0' :: mark :: digits⟩,
        rest) := by
  have hmark' : (decide (('0' : CodePoint) = '0') && (decide (mark = 'x') || decide (mark = 'X'))) =
      true := by simpa using hmark
  rw [lexHex?, if_pos hmark', span_run (p := fun c => c.hexValue?.isSome) hdigits hrest]
  obtain ⟨d, digits, rfl⟩ := List.exists_cons_of_ne_nil hne
  rfl

theorem lexHex?_eq_none {digits rest : Text} (hdigits : IsDecimalRun digits)
    (hrest : ∀ c ∈ rest.head?, c ≠ '0' ∧ c ≠ 'x' ∧ c ≠ 'X') :
    lexHex? negative (digits ++ rest) = none := by
  have hx : ∀ {c : CodePoint}, c.isDecimal = true → c ≠ 'x' ∧ c ≠ 'X' := by
    intro c hc
    constructor <;> rintro rfl <;> revert hc <;> decide
  match digits, rest with
  | [], [] | [], [_] | [_], [] => rfl
  | [], c :: d :: rest => simp [lexHex?, hrest c rfl]
  | [c], d :: rest => simp [lexHex?, hrest d rfl]
  | c :: d :: digits, rest => simp [lexHex?, hx (hdigits d (by simp))]

theorem lexHex?_sound {text rest : Text} {token : NumberToken}
    (h : lexHex? negative text = some (token, rest)) :
    token.negative = negative ∧ text = token.spelled ++ rest ∧
      Unsigned token.spelled token.magnitude := by
  unfold lexHex? at h
  split at h
  case h_2 => cases h
  case h_1 zero mark body =>
    split at h
    case isFalse => cases h
    case isTrue hmark =>
      simp only [Bool.and_eq_true, Bool.or_eq_true, decide_eq_true_eq] at hmark
      obtain ⟨rfl, hmark⟩ := hmark
      split at h
      case h_1 => cases h
      case h_2 found after hne hspan =>
        cases h
        obtain ⟨rfl, hdigits, -⟩ := span_sound hspan
        exact ⟨rfl, rfl, .hex hmark hdigits hne⟩

theorem lexDecimal?_sound {text rest : Text} {token : NumberToken}
    (h : lexDecimal? negative text = some (token, rest)) :
    token.negative = negative ∧ text = token.spelled ++ rest ∧
      Unsigned token.spelled token.magnitude := by
  obtain ⟨digits, tail, hspan⟩ : ∃ digits tail,
      text.span CodePoint.isDecimal = (digits, tail) := ⟨_, _, rfl⟩
  obtain ⟨rfl, hdigits, hend⟩ := span_sound hspan
  by_cases hpoint : ∀ c ∈ tail.head?, c ≠ '.'
  · rw [lexDecimal?_whole negative hdigits hend hpoint] at h
    split at h
    case isTrue => cases h
    case isFalse hne =>
      obtain ⟨rfl, rfl⟩ | ⟨exponent, power, hexponent, rfl, rfl⟩ :=
        finish_sound negative (Option.some.inj h)
      · exact ⟨rfl, rfl, .whole hdigits hne⟩
      · exact ⟨rfl, by simp, .raised hdigits hne hexponent⟩
  · obtain ⟨more, rfl⟩ : ∃ more, tail = ('.' : CodePoint) :: more := by
      cases tail with
      | nil => exact absurd (by simp) hpoint
      | cons c more =>
        simp only [List.head?_cons, Option.mem_def, Option.some.injEq, forall_eq',
          ne_eq, not_not] at hpoint
        exact ⟨more, by rw [hpoint]⟩
    obtain ⟨places, tail, hspan⟩ : ∃ places tail,
        more.span CodePoint.isDecimal = (places, tail) := ⟨_, _, rfl⟩
    obtain ⟨rfl, hplaces, hend⟩ := span_sound hspan
    rw [lexDecimal?_pointed negative hdigits hplaces hend] at h
    split at h
    case isTrue => cases h
    case isFalse hne =>
      have hne' : digits ≠ [] ∨ places ≠ [] := by rwa [not_and_or] at hne
      obtain ⟨rfl, rfl⟩ | ⟨exponent, power, hexponent, rfl, rfl⟩ :=
        finish_sound negative (Option.some.inj h)
      · have := Unsigned.pointed hdigits hplaces hne' (.inl ⟨rfl, rfl⟩)
        exact ⟨rfl, by simp, by simpa using this⟩
      · have := Unsigned.pointed hdigits hplaces hne' (.inr hexponent)
        exact ⟨rfl, by simp, by simpa using this⟩

end

/-! ## Number tokens -/

/-- A number token begins with a decimal digit or a point. -/
theorem Unsigned.exists_cons {body : Text} {magnitude : Magnitude} (h : Unsigned body magnitude) :
    ∃ c s, body = c :: s ∧ (c.isDecimal = true ∨ c = '.') := by
  cases h with
  | hex _ _ _ => exact ⟨_, _, rfl, .inl (by decide)⟩
  | whole hdigits hne | raised hdigits hne _ =>
    obtain ⟨d, digits, rfl⟩ := List.exists_cons_of_ne_nil hne
    exact ⟨_, _, rfl, .inl (hdigits d List.mem_cons_self)⟩
  | @pointed digits _ _ _ hdigits _ _ _ =>
    cases digits with
    | nil => exact ⟨_, _, rfl, .inr rfl⟩
    | cons d digits => exact ⟨_, _, rfl, .inl (hdigits d List.mem_cons_self)⟩

theorem lexUnsigned?_append (negative : Bool) {body rest : Text} {magnitude : Magnitude}
    (h : Unsigned body magnitude) (hrest : Stops rest) :
    lexUnsigned? negative (body ++ rest) = some (⟨negative, magnitude, body⟩, rest) := by
  have hend : EndsRun rest := hrest.head (by decide)
  have hpower : lexPower? rest = none :=
    lexPower?_eq_none fun c hc => ⟨hrest.ne (by decide) c hc, hrest.ne (by decide) c hc⟩
  unfold lexUnsigned?
  cases h with
  | hex hmark hdigits hne =>
    rw [List.cons_append, List.cons_append,
      lexHex?_append negative hmark hdigits hne (hrest.head (by decide))]
  | whole hdigits hne =>
    have hzero : ∀ c ∈ rest.head?, c ≠ '0' ∧ c ≠ 'x' ∧ c ≠ 'X' := fun c hc =>
      ⟨hrest.ne (by decide) c hc, hrest.ne (by decide) c hc, hrest.ne (by decide) c hc⟩
    rw [lexHex?_eq_none negative hdigits hzero,
      lexDecimal?_whole negative hdigits hend (hrest.ne (by decide)), if_neg hne]
    simp [finish, hpower]
  | @raised digits exponent power hdigits hne hexponent =>
    rw [List.append_assoc, lexHex?_eq_none negative hdigits (hexponent.head rest (by decide)),
      lexDecimal?_whole negative hdigits (hexponent.head rest (by decide))
        (hexponent.head rest (by decide)), if_neg hne]
    simp [finish, lexPower?_append hexponent hend, digitValues]
  | @pointed digits places exponent power hdigits hplaces hne hexponent =>
    have hzero : ∀ c ∈ (('.' : CodePoint) :: (places ++ (exponent ++ rest))).head?,
        c ≠ '0' ∧ c ≠ 'x' ∧ c ≠ 'X' := by
      rintro _ ⟨⟩
      decide
    rw [← not_and_or] at hne
    rw [List.append_assoc, List.cons_append, List.append_assoc,
      lexHex?_eq_none negative hdigits hzero]
    obtain ⟨rfl, rfl⟩ | hexponent := hexponent
    · rw [List.nil_append, lexDecimal?_pointed negative hdigits hplaces hend, if_neg hne]
      simp [finish, hpower]
    · rw [lexDecimal?_pointed negative hdigits hplaces (hexponent.head rest (by decide)),
        if_neg hne]
      simp [finish, lexPower?_append hexponent hend]

theorem lexUnsigned?_sound {negative : Bool} {text rest : Text} {token : NumberToken}
    (h : lexUnsigned? negative text = some (token, rest)) :
    token.negative = negative ∧ text = token.spelled ++ rest ∧
      Unsigned token.spelled token.magnitude := by
  unfold lexUnsigned? at h
  split at h
  case h_1 found hfound =>
    cases h
    exact lexHex?_sound negative hfound
  case h_2 => exact lexDecimal?_sound negative h

/-- **A number token in front** of something that cannot continue it is the token that is found. -/
theorem lexNumber?_append {sign body rest : Text} {negative : Bool} {magnitude : Magnitude}
    (hsign : Sign sign negative) (h : Unsigned body magnitude) (hrest : Stops rest) :
    lexNumber? (sign ++ (body ++ rest)) = some (⟨negative, magnitude, body⟩, rest) := by
  have hhead : ∀ c ∈ (body ++ rest).head?, c ≠ '-' ∧ c ≠ '+' := by
    obtain ⟨c, s, rfl, hc | rfl⟩ := h.exists_cons
    · rintro _ ⟨⟩
      constructor <;> rintro rfl <;> revert hc <;> decide
    · rintro _ ⟨⟩
      decide
  unfold lexNumber?
  rw [splitSign_append hsign hhead]
  simp only [← hsign.eq_decide]
  exact lexUnsigned?_append negative h hrest

/-- **What is found** is a number token, with or without a sign. -/
theorem lexNumber?_sound {text rest : Text} {token : NumberToken}
    (h : lexNumber? text = some (token, rest)) :
    ∃ sign, text = sign ++ (token.spelled ++ rest) ∧ Sign sign token.negative ∧
      Unsigned token.spelled token.magnitude := by
  unfold lexNumber? at h
  obtain ⟨sign, body, hsplit⟩ : ∃ sign body, splitSign text = (sign, body) := ⟨_, _, rfl⟩
  obtain ⟨rfl, hsign⟩ := splitSign_sound hsplit
  rw [hsplit] at h
  obtain ⟨hnegative, rfl, hunsigned⟩ := lexUnsigned?_sound h
  exact ⟨sign, rfl, hnegative ▸ hsign, hunsigned⟩

/-! ## Values of numbers -/

theorem value_eq_ok_iff {token : NumberToken} {v : Data} :
    token.value = .ok v ↔ Denotes token.negative token.magnitude v := by
  obtain ⟨negative, magnitude, spelled⟩ := token
  cases magnitude with
  | hex digits =>
    constructor
    · rintro ⟨⟩
      exact .hex
    · rintro ⟨⟩
      rfl
  | whole digits =>
    by_cases hlong : digits.length > Fault.digitLimit
    · have hvalue : (NumberToken.mk negative (.whole digits) spelled).value =
          .error (.longNumeral digits.length) := by
        simp [NumberToken.value, Numeral.ofDigits?, hlong]
      rw [hvalue]
      constructor
      · rintro ⟨⟩
      · rintro (⟨⟩ | ⟨hlimit⟩ | ⟨⟩)
        exact absurd hlong (Nat.not_lt.mpr hlimit)
    · have hvalue : (NumberToken.mk negative (.whole digits) spelled).value =
          .ok (.int (signed negative (Numeral.toNat 10 digits))) := by
        simp [NumberToken.value, Numeral.ofDigits?, hlong, signed]
      rw [hvalue]
      constructor
      · rintro ⟨⟩
        exact .whole (Nat.not_lt.mp hlong)
      · rintro ⟨⟩
        rfl
  | scaled digits places power =>
    constructor
    · rintro ⟨⟩
      exact .scaled
    · rintro ⟨⟩
      rfl

theorem Number.readNumber_append {s rest : Text} {v : Data} (h : Number s v) (hrest : Stops rest) :
    readNumber (s ++ rest) = .ok (v, rest) := by
  obtain ⟨hsign, hbody, hdenotes⟩ := h
  unfold readNumber
  rw [List.append_assoc, lexNumber?_append hsign hbody hrest]
  simp only
  rw [value_eq_ok_iff.mpr hdenotes]
  rfl

theorem readNumber_sound {text rest : Text} {v : Data} (h : readNumber text = .ok (v, rest)) :
    ∃ s, text = s ++ rest ∧ Number s v := by
  unfold readNumber at h
  split at h
  case h_2 => cases h
  case h_1 token after hfound =>
    obtain ⟨value, hvalue, h⟩ := Outcome.bind_eq_ok.mp h
    cases h
    obtain ⟨sign, rfl, hsign, hbody⟩ := lexNumber?_sound hfound
    exact ⟨sign ++ token.spelled, by simp, .mk hsign hbody (value_eq_ok_iff.mp hvalue)⟩

end TagAudit.Literal
