import TagAudit.Literal.Evaluation
import TagAudit.Proofs.Literal.Reading

/-!
# Where evaluation gets stuck

The permissive reader refuses what is no literal. In two places it gets stuck instead: at a decimal
integer that is too long to be read, and at a key that begins with a digit without a place value.
Evaluation hands such a failure on as it is, next to the values and the refusals that it promises.

* `StuckItems`, `StuckEntries`, `StuckForm`: how a text leads to such a place, by the grammar of
  literals; `Stuck`: the same for literals nested at most so deep.
* `readValue_halts`, `readValue_haltsOnly`: the two directions for one value, by induction on how
  deep it may be nested.
* `evaluate_stopped_iff`: the texts that evaluation neither reads nor refuses; `evaluate_outcome`:
  what becomes of all others.
* `evaluate_digitKey`: one of them.
-/

namespace TagAudit.Literal

open Outcome (ok_bind bind_eq_error)
open Text (span_sound)

/-! ## Failures that are no refusals -/

/-- A failure that is neither about syntax nor about nesting. -/
inductive IsHalt : Failure → Prop where
  | longNumeral (digits : Nat) : IsHalt (.longNumeral digits)
  | keyDigit : IsHalt .keyDigit

variable {f : Failure}

theorem skipGap_ne_halt (hf : IsHalt f) (gap : Gap) (text : Text) :
    skipGap gap text ≠ .error f := by
  fun_induction skipGap gap text <;> first | assumption | (rintro ⟨⟩ <;> cases hf)

theorem next_ne_halt (hf : IsHalt f) (text : Text) : next text ≠ .error f := by
  intro h
  obtain h | ⟨unread, -, h⟩ := bind_eq_error.mp h
  · exact skipGap_ne_halt hf _ _ h
  · cases unread <;> cases h
    cases hf

theorem readBody_ne_halt (hf : IsHalt f) (opening : Text) (mark : CodePoint) (done text : Text) :
    readBody opening mark done text ≠ .error f := by
  fun_induction readBody opening mark done text <;> first | assumption | (rintro ⟨⟩ <;> cases hf)

theorem readKeyword_ne_halt (hf : IsHalt f) (text : Text) : readKeyword text ≠ .error f := by
  unfold readKeyword
  simp only
  split <;> rintro ⟨⟩
  cases hf

/-! ## Long integers -/

/-- A text that does not continue a run of digits as a number. -/
structure EndsWhole (rest : Text) : Prop where
  digits : EndsRun rest
  point : ∀ c ∈ rest.head?, c ≠ '.'
  exponent : ∀ spelled power after, Exponent spelled power → rest ≠ spelled ++ after

theorem lexPower?_eq_none_iff {rest : Text} :
    lexPower? rest = none ↔
      ∀ spelled power after, Exponent spelled power → rest ≠ spelled ++ after := by
  constructor
  · rintro h _ power after ⟨hmark, hsign, hdigits, hne⟩ rfl
    -- The exponent that is found may have more digits.
    obtain ⟨more, after, hspan⟩ : ∃ more after', after.span CodePoint.isDecimal = (more, after') :=
      ⟨_, _, rfl⟩
    obtain ⟨rfl, hmore, hend⟩ := span_sound hspan
    have hall : IsDecimalRun (_ ++ more) := List.forall_mem_append.mpr ⟨hdigits, hmore⟩
    have hlong := Exponent.mk hmark hsign hall (List.append_ne_nil_of_left_ne_nil hne more)
    have hfound := lexPower?_append hlong hend
    simp only [List.cons_append, List.append_assoc] at h hfound
    rw [h] at hfound
    cases hfound
  · intro h
    cases hpower : lexPower? rest with
    | none => rfl
    | some found =>
      obtain ⟨spelled, power, after⟩ := found
      obtain ⟨hrest, hexponent⟩ := lexPower?_sound hpower
      exact absurd hrest (h _ _ _ hexponent)

/-- A run of at least two digits is no beginning of a hexadecimal number. -/
theorem lexHex?_run (negative : Bool) {digits : Text} (hdigits : IsDecimalRun digits)
    (hlength : 1 < digits.length) (rest : Text) : lexHex? negative (digits ++ rest) = none := by
  obtain ⟨c, d, digits, rfl⟩ : ∃ c d more, digits = c :: d :: more := by
    match digits, hlength with
    | c :: d :: more, _ => exact ⟨c, d, more, rfl⟩
  have hd := hdigits d (by simp)
  have hx : d ≠ 'x' := ne_of_class hd (by decide)
  have hX : d ≠ 'X' := ne_of_class hd (by decide)
  simp [lexHex?, hx, hX]

theorem lexNumber?_whole {sign digits rest : Text} {negative : Bool} (hsign : Sign sign negative)
    (hdigits : IsDecimalRun digits) (hlength : 1 < digits.length) (hrest : EndsWhole rest) :
    lexNumber? (sign ++ (digits ++ rest)) =
      some (⟨negative, .whole (digitValues digits), digits⟩, rest) := by
  have hne : digits ≠ [] := by rintro rfl; cases hlength
  have hhead : ∀ c ∈ (digits ++ rest).head?, c ≠ '-' ∧ c ≠ '+' := fun c hc =>
    ⟨hdigits.head_ne hne rest (by decide) c hc, hdigits.head_ne hne rest (by decide) c hc⟩
  unfold lexNumber? lexUnsigned?
  rw [splitSign_append hsign hhead]
  simp only [← hsign.eq_decide]
  rw [lexHex?_run negative hdigits hlength, lexDecimal?_whole negative hdigits hrest.digits
    hrest.point, if_neg hne]
  simp [finish, lexPower?_eq_none_iff.mpr hrest.exponent]

theorem lexDecimal?_whole_sound {negative : Bool} {text rest : Text} {token : NumberToken}
    {values : List Nat} (h : lexDecimal? negative text = some (token, rest))
    (hvalues : token.magnitude = .whole values) :
    ∃ digits, text = digits ++ rest ∧ IsDecimalRun digits ∧ values = digitValues digits ∧
      EndsWhole rest := by
  obtain ⟨digits, tail, hspan⟩ : ∃ digits tail,
      text.span CodePoint.isDecimal = (digits, tail) := ⟨_, _, rfl⟩
  obtain ⟨rfl, hdigits, hend⟩ := span_sound hspan
  by_cases hpoint : ∀ c ∈ tail.head?, c ≠ '.'
  · rw [lexDecimal?_whole negative hdigits hend hpoint] at h
    split at h
    case isTrue => cases h
    case isFalse =>
      unfold finish at h
      split at h
      case h_1 => cases h; cases hvalues
      case h_2 hpower =>
        cases h
        cases hvalues
        exact ⟨digits, rfl, hdigits, rfl, hend, hpoint, lexPower?_eq_none_iff.mp hpower⟩
  · obtain ⟨more, rfl⟩ : ∃ more, tail = ('.' : CodePoint) :: more := by
      cases tail with
      | nil => exact absurd (by simp) hpoint
      | cons c more => exact ⟨more, by simpa using hpoint⟩
    obtain ⟨places, tail, hspan⟩ : ∃ places tail,
        more.span CodePoint.isDecimal = (places, tail) := ⟨_, _, rfl⟩
    obtain ⟨rfl, hplaces, hend⟩ := span_sound hspan
    rw [lexDecimal?_pointed negative hdigits hplaces hend] at h
    split at h
    case isTrue => cases h
    case isFalse =>
      obtain ⟨rfl, -⟩ | ⟨_, _, -, -, rfl⟩ := finish_sound negative (Option.some.inj h) <;>
        cases hvalues

theorem lexHex?_magnitude {negative : Bool} {text rest : Text} {token : NumberToken}
    (h : lexHex? negative text = some (token, rest)) : ∃ values, token.magnitude = .hex values := by
  unfold lexHex? at h
  split at h
  case h_2 => cases h
  case h_1 =>
    split at h
    case isFalse => cases h
    case isTrue =>
      split at h
      case h_1 => cases h
      case h_2 => cases h; exact ⟨_, rfl⟩

theorem value_eq_error {token : NumberToken} (h : token.value = .error f) :
    ∃ values, token.magnitude = .whole values ∧ Fault.digitLimit < values.length ∧
      f = .longNumeral values.length := by
  obtain ⟨negative, magnitude, spelled⟩ := token
  cases magnitude with
  | hex values | scaled values places power => cases h
  | whole values =>
    by_cases hlong : values.length > Fault.digitLimit
    · simp only [NumberToken.value, Numeral.ofDigits?, hlong, if_true] at h
      cases h
      exact ⟨values, rfl, hlong, rfl⟩
    · simp [NumberToken.value, Numeral.ofDigits?, hlong] at h

/-- A decimal integer that is too long, in front of a text, and what the reader makes of it. -/
inductive LongInteger : Text → Failure → Prop where
  | mk {sign digits rest : Text} {negative : Bool} : Sign sign negative → IsDecimalRun digits →
    Fault.digitLimit < digits.length → EndsWhole rest →
    LongInteger (sign ++ (digits ++ rest)) (.longNumeral digits.length)

theorem readNumber_halt_iff (hf : IsHalt f) {text : Text} :
    readNumber text = .error f ↔ LongInteger text f := by
  constructor
  · intro h
    unfold readNumber at h
    split at h
    case h_2 => cases h; cases hf
    case h_1 token after hfound =>
      obtain hvalue | ⟨_, -, h⟩ := bind_eq_error.mp h
      · obtain ⟨values, hvalues, hlong, rfl⟩ := value_eq_error hvalue
        unfold lexNumber? at hfound
        obtain ⟨sign, body, hsplit⟩ : ∃ sign body, splitSign text = (sign, body) := ⟨_, _, rfl⟩
        obtain ⟨rfl, hsign⟩ := splitSign_sound hsplit
        rw [hsplit] at hfound
        simp only [lexUnsigned?] at hfound
        split at hfound
        case h_1 found hhex =>
          cases hfound
          obtain ⟨_, hmagnitude⟩ := lexHex?_magnitude hhex
          rw [hmagnitude] at hvalues
          cases hvalues
        case h_2 =>
          obtain ⟨digits, rfl, hdigits, rfl, hend⟩ := lexDecimal?_whole_sound hfound hvalues
          rw [digitValues, List.length_map] at hlong ⊢
          exact .mk hsign hdigits hlong hend
      · cases h
  · rintro @⟨sign, digits, rest, negative, hsign, hdigits, hlong, hend⟩
    have hlength : Fault.digitLimit < (digitValues digits).length := by
      rwa [digitValues, List.length_map]
    unfold readNumber
    rw [lexNumber?_whole hsign hdigits (Nat.lt_trans (by decide) hlong) hend]
    simp only [NumberToken.value, Numeral.ofDigits?, if_pos hlength]
    rw [digitValues, List.length_map]
    rfl

/-! ## Keys -/

theorem lexNumber?_isSome {c : CodePoint} (hc : c.isDecimal = true) (rest : Text) :
    (lexNumber? (c :: rest)).isSome := by
  have hhead : ∀ d ∈ (c :: rest).head?, d ≠ '-' ∧ d ≠ '+' := by
    rintro _ ⟨⟩
    exact ⟨ne_of_class hc (by decide), ne_of_class hc (by decide)⟩
  have hsign : splitSign (c :: rest) = ([], c :: rest) := splitSign_append .none hhead
  unfold lexNumber? lexUnsigned?
  rw [hsign]
  simp only
  split
  · rfl
  obtain ⟨digits, tail, hspan⟩ : ∃ digits tail,
      (c :: rest).span CodePoint.isDecimal = (digits, tail) := ⟨_, _, rfl⟩
  obtain ⟨htext, hdigits, hend⟩ := span_sound hspan
  have hne : digits ≠ [] := by
    rintro rfl
    have := hend c (by rw [← List.nil_append tail, ← htext]; rfl)
    rw [hc] at this
    cases this
  rw [htext]
  by_cases hpoint : ∀ d ∈ tail.head?, d ≠ '.'
  · rw [lexDecimal?_whole _ hdigits hend hpoint, if_neg hne]
    rfl
  · obtain ⟨more, rfl⟩ : ∃ more, tail = ('.' : CodePoint) :: more := by
      cases tail with
      | nil => exact absurd (by simp) hpoint
      | cons d more => exact ⟨more, by simpa using hpoint⟩
    obtain ⟨places, tail, hspan⟩ : ∃ places tail,
        more.span CodePoint.isDecimal = (places, tail) := ⟨_, _, rfl⟩
    obtain ⟨rfl, hplaces, hend⟩ := span_sound hspan
    rw [lexDecimal?_pointed _ hdigits hplaces hend, if_neg fun h => hne h.1]
    rfl

/-- The reader gets stuck in keys that begin with a digit without a place value. -/
theorem readKey_halt_iff (hf : IsHalt f) {c : CodePoint} {rest : Text} :
    readKey c rest = .error f ↔ c.isDigit = true ∧ c.isDecimal = false ∧ f = .keyDigit := by
  constructor
  · intro h
    unfold readKey at h
    split at h
    case isTrue => exact absurd h (readBody_ne_halt hf _ _ _ _)
    split at h
    case isTrue hdigit =>
      split at h
      case h_1 => cases h
      case h_2 hnone =>
        cases h
        refine ⟨hdigit, ?_, rfl⟩
        rw [Bool.eq_false_iff]
        intro hdecimal
        have := lexNumber?_isSome hdecimal rest
        rw [hnone] at this
        cases this
    split at h <;> cases h
    cases hf
  · rintro ⟨hdigit, hdecimal, rfl⟩
    cases hread : readKey c rest with
    | ok found =>
      obtain ⟨key, after⟩ := found
      obtain ⟨k, htext, hkey⟩ := readKey_sound hread
      cases hkey with
      | quoted hmark _ =>
        obtain ⟨rfl, -⟩ := List.cons.inj htext
        have := isQuote_eq_false (p := CodePoint.isDigit) (by decide) hdigit
        rw [hmark] at this
        cases this
      | number hstart _ =>
        obtain ⟨rfl, -⟩ := List.cons.inj htext
        rw [hdecimal] at hstart
        cases hstart
      | word hstart _ =>
        obtain ⟨rfl, -⟩ := List.cons.inj htext
        rw [isDigit_of_isWordStart hstart] at hdigit
        cases hdigit
    | error f' =>
      unfold readKey at hread
      rw [if_neg (by simp [isQuote_eq_false (p := CodePoint.isDigit) (by decide) hdigit]),
        if_pos hdigit] at hread
      split at hread <;> cases hread
      rfl

/-! ## Texts that lead to a halt -/

section

variable (Item : Text → Data → Prop) (Bad : Text → Failure → Prop)

/-- What stands behind an opening bracket, up to the item that the reader gets stuck in and all that
follows it. -/
inductive StuckItems : Text → Failure → Prop where
  | here {gap s : Text} {f : Failure} : IsGap gap → Bad s f → StuckItems (gap ++ s) f
  | hole {gap rest : Text} {f : Failure} : IsGap gap → StuckItems rest f →
    StuckItems (gap ++ (',' : CodePoint) :: rest) f
  | item {gap s after rest : Text} {v : Data} {f : Failure} :
    IsGap gap → Item s v → IsGap after → StuckItems rest f →
    StuckItems (gap ++ (s ++ (after ++ (',' : CodePoint) :: rest))) f

/-- What stands behind an opening brace, up to the member that the reader gets stuck in and all that
follows it. -/
inductive StuckEntries : Text → Failure → Prop where
  | key {gap rest : Text} {c : CodePoint} : IsGap gap → c.isDigit = true → c.isDecimal = false →
    StuckEntries (gap ++ c :: rest) .keyDigit
  | value {gap k afterKey before s key : Text} {f : Failure} :
    IsGap gap → Key k key → IsGap afterKey → IsGap before → Bad s f →
    StuckEntries (gap ++ (k ++ (afterKey ++ (':' : CodePoint) :: (before ++ s)))) f
  | member {gap k afterKey before s after rest key : Text} {v : Data} {f : Failure} :
    IsGap gap → Key k key → IsGap afterKey → IsGap before → Item s v → IsGap after →
    StuckEntries rest f →
    StuckEntries (gap ++ (k ++ (afterKey ++ (':' : CodePoint) :: (before ++ (s ++
      (after ++ (',' : CodePoint) :: rest)))))) f

/-- A text that begins like a literal in which the reader gets stuck. -/
inductive StuckForm : Text → Failure → Prop where
  | number {s : Text} {f : Failure} : LongInteger s f → StuckForm s f
  | array {s : Text} {f : Failure} : StuckItems Item Bad s f → StuckForm ('[' :: s) f
  | object {s : Text} {f : Failure} : StuckEntries Item Bad s f → StuckForm ('\x7b' :: s) f
  | negation {gap s : Text} {f : Failure} : IsGap gap → Bad s f → StuckForm ('!' :: (gap ++ s)) f

end

/-- A text that begins like a literal, nested at most so deep, in which the reader gets stuck. -/
def Stuck : Nat → Text → Failure → Prop
  | 0 => fun _ _ => False
  | depth + 1 => StuckForm (Value depth) (Stuck depth)

/-- The same with a gap in front. -/
def LeadsToHalt (depth : Nat) (text : Text) (f : Failure) : Prop :=
  ∃ gap s, text = gap ++ s ∧ IsGap gap ∧ Stuck depth s f

theorem LongInteger.exists_cons {s : Text} (h : LongInteger s f) :
    ∃ c t, s = c :: t ∧ isNumberStart c = true := by
  obtain ⟨hsign, hdigits, hlong, -⟩ := h
  cases hsign with
  | none =>
    obtain ⟨d, digits, rfl⟩ : ∃ d more, _ = d :: more :=
      List.exists_cons_of_length_pos (Nat.zero_lt_of_lt hlong)
    exact ⟨d, _, rfl, by simp [isNumberStart, isDigit_of_isDecimal (hdigits d List.mem_cons_self)]⟩
  | plus | minus => exact ⟨_, _, rfl, by decide⟩

theorem Stuck.exists_cons {depth : Nat} {s : Text} (h : Stuck depth s f) :
    ∃ c t, s = c :: t ∧ c ∉ stops := by
  cases depth with
  | zero => exact h.elim
  | succ depth =>
    cases h with
    | number h =>
      obtain ⟨c, t, rfl, hc⟩ := h.exists_cons
      exact ⟨c, t, rfl, not_mem_of_class (p := isNumberStart) (by decide) hc⟩
    | array _ | object _ | negation _ _ => exact ⟨_, _, rfl, by decide⟩

theorem Stuck.isHalt {depth : Nat} {s : Text} (h : Stuck depth s f) : IsHalt f := by
  induction depth generalizing s f with
  | zero => exact h.elim
  | succ depth ih =>
    cases h with
    | number h =>
      cases h
      exact .longNumeral _
    | negation _ h => exact ih h
    | array h =>
      induction h with
      | here _ h => exact ih h
      | hole _ _ ih' | item _ _ _ _ ih' => exact ih'
    | object h =>
      induction h with
      | key _ _ _ => exact .keyDigit
      | value _ _ _ _ h => exact ih h
      | member _ _ _ _ _ _ _ ih' => exact ih'

/-! ## Arrays and objects -/

section

variable (Bad : Text → Failure → Prop) (item : Text → Except Failure (Data × Text))

/-- `item` gets stuck in texts of at most `bound` code points. -/
def Halts (bound : Nat) : Prop :=
  ∀ {g s : Text} {f : Failure}, IsGap g → Bad s f → s.length ≤ bound → item (g ++ s) = .error f

/-- `item` gets stuck in no other text. -/
def HaltsOnly : Prop :=
  ∀ {text : Text} {f : Failure}, IsHalt f → item text = .error f →
    ∃ g s, text = g ++ s ∧ IsGap g ∧ Bad s f

end

variable {Item : Text → Data → Prop} {Bad : Text → Failure → Prop}
  {item : Text → Except Failure (Data × Text)}

theorem StuckItems.readItems_eq {bound : Nat} (hstart : StartsWell Item)
    (hstop : ∀ {s : Text} {f : Failure}, Bad s f → ∃ c t, s = c :: t ∧ c ∉ stops)
    (hitem : Accepts Item item bound) (hbad : Halts Bad item bound) {s : Text}
    (h : StuckItems Item Bad s f) {steps : Nat} (hsteps : s.length ≤ steps) (hbound : steps ≤ bound)
    (done : List Data) : readItems item steps done s = .error f := by
  induction h generalizing steps done with
  | @here gap s f hg hs =>
    obtain ⟨c, t, rfl, hc⟩ := hstop hs
    simp only [List.length_append, List.length_cons] at hsteps
    obtain ⟨steps, rfl⟩ : ∃ k, steps = k + 1 := ⟨steps - 1, by omega⟩
    have hread := hbad .nil hs (by rw [List.length_cons]; omega)
    rw [readItems, next_start hg hc]
    simp only [ok_bind]
    rw [if_neg (ne_of_not_mem_stops hc (by decide)), if_neg (ne_of_not_mem_stops hc (by decide)),
      ← List.nil_append (c :: t), hread]
    rfl
  | @hole gap rest f hg _ ih =>
    simp only [List.length_append, List.length_cons] at hsteps
    obtain ⟨steps, rfl⟩ : ∃ k, steps = k + 1 := ⟨steps - 1, by omega⟩
    rw [readItems_hole _ _ _ hg, ih (by omega) (by omega)]
  | @item gap s after rest v f hg hs hafter _ ih =>
    simp only [List.length_append, List.length_cons] at hsteps
    obtain ⟨steps, rfl⟩ : ∃ k, steps = k + 1 := ⟨steps - 1, by omega⟩
    rw [readItems_item _ _ _ hstart hitem hg hs (by omega) hafter (.inl rfl), if_pos rfl,
      ih (by omega) (by omega)]

theorem readItems_haltsOnly (hyields : Yields Item item) (honly : HaltsOnly Bad item)
    (hf : IsHalt f) {steps : Nat} {done : List Data} {text : Text}
    (h : readItems item steps done text = .error f) : StuckItems Item Bad text f := by
  induction steps generalizing done text with
  | zero => cases h; cases hf
  | succ steps ih =>
    rw [readItems, bind_eq_error] at h
    obtain h | ⟨⟨c, after⟩, hnext, h⟩ := h
    · exact absurd h (next_ne_halt hf _)
    obtain ⟨g, rfl, hg⟩ := next_sound hnext
    simp only at h
    split at h
    case isTrue => cases h
    split at h
    case isTrue hc =>
      subst hc
      exact .hole hg (ih h)
    case isFalse =>
      rw [bind_eq_error] at h
      obtain h | ⟨⟨value, after⟩, hread, h⟩ := h
      · obtain ⟨g', s, htext, hg', hs⟩ := honly hf h
        rw [htext, ← List.append_assoc]
        exact .here (hg.append hg') hs
      · obtain ⟨g', s, htext, hg', hs⟩ := hyields hread
        simp only [bind_eq_error] at h
        obtain h | ⟨⟨d, tail⟩, hnext, h⟩ := h
        · exact absurd h (next_ne_halt hf _)
        obtain ⟨g'', rfl, hg''⟩ := next_sound hnext
        rw [htext, ← List.append_assoc]
        simp only at h
        split at h
        case isTrue hd =>
          subst hd
          exact .item (hg.append hg') hs hg'' (ih h)
        case isFalse => split at h <;> cases h; cases hf

theorem StuckEntries.readMembers_eq {bound : Nat} (hitem : Accepts Item item bound)
    (hbad : Halts Bad item bound) {s : Text} (h : StuckEntries Item Bad s f) {steps : Nat}
    (hsteps : s.length ≤ steps) (hbound : steps ≤ bound) (done : List (Text × Data)) :
    readMembers item steps done s = .error f := by
  induction h generalizing steps done with
  | @key gap rest c hg hdigit hdecimal =>
    simp only [List.length_append, List.length_cons] at hsteps
    obtain ⟨steps, rfl⟩ : ∃ k, steps = k + 1 := ⟨steps - 1, by omega⟩
    have hc : c ∉ stops := not_mem_of_class (p := CodePoint.isDigit) (by decide) hdigit
    rw [readMembers, next_start hg hc]
    simp only [ok_bind]
    rw [if_neg (ne_of_not_mem_stops hc (by decide)),
      (readKey_halt_iff .keyDigit).mpr ⟨hdigit, hdecimal, rfl⟩]
    rfl
  | @value gap k afterKey before s key f hg hk hafterKey hbefore hs =>
    simp only [List.length_append, List.length_cons] at hsteps
    obtain ⟨steps, rfl⟩ : ∃ k, steps = k + 1 := ⟨steps - 1, by omega⟩
    obtain ⟨c, t, rfl, hc⟩ := hk.exists_cons
    have hkey := hk.readKey_append
      (hafterKey.stops (.cons (c := ':') (by decide) (before ++ s)))
    rw [List.cons_append, readMembers, next_start hg hc]
    simp only [ok_bind]
    rw [if_neg (ne_of_not_mem_stops hc (by decide)), hkey]
    simp only [ok_bind, next_separator hafterKey (c := ':') (by decide)]
    rw [if_neg (by decide), hbad hbefore hs (by omega)]
    rfl
  | @member gap k afterKey before s after rest key v f hg hk hafterKey hbefore hs hafter _ ih =>
    simp only [List.length_append, List.length_cons] at hsteps
    obtain ⟨steps, rfl⟩ : ∃ k, steps = k + 1 := ⟨steps - 1, by omega⟩
    rw [readMembers_member steps done rest hitem hg hk hafterKey hbefore hs (by omega) hafter
      (.inl rfl), if_pos rfl, ih (by omega) (by omega)]

theorem readMembers_haltsOnly (hyields : Yields Item item) (honly : HaltsOnly Bad item)
    (hf : IsHalt f) {steps : Nat} {done : List (Text × Data)} {text : Text}
    (h : readMembers item steps done text = .error f) : StuckEntries Item Bad text f := by
  induction steps generalizing done text with
  | zero => cases h; cases hf
  | succ steps ih =>
    rw [readMembers, bind_eq_error] at h
    obtain h | ⟨⟨c, after⟩, hnext, h⟩ := h
    · exact absurd h (next_ne_halt hf _)
    obtain ⟨g, rfl, hg⟩ := next_sound hnext
    simp only at h
    split at h
    case isTrue => cases h
    rw [bind_eq_error] at h
    obtain h | ⟨⟨key, afterKey⟩, hreadKey, h⟩ := h
    · obtain ⟨hdigit, hdecimal, rfl⟩ := (readKey_halt_iff hf).mp h
      exact .key hg hdigit hdecimal
    obtain ⟨k, hk, hkey⟩ := readKey_sound hreadKey
    simp only [bind_eq_error] at h
    obtain h | ⟨⟨colon, afterColon⟩, hcolon, h⟩ := h
    · exact absurd h (next_ne_halt hf _)
    obtain ⟨g₁, rfl, hg₁⟩ := next_sound hcolon
    rw [hk]
    simp only at h
    split at h
    case isTrue => cases h; cases hf
    case isFalse hc =>
      obtain rfl := not_not.mp hc
      rw [bind_eq_error] at h
      obtain h | ⟨⟨value, after⟩, hread, h⟩ := h
      · obtain ⟨g₂, s, rfl, hg₂, hs⟩ := honly hf h
        exact .value hg hkey hg₁ hg₂ hs
      · obtain ⟨g₂, s, rfl, hg₂, hs⟩ := hyields hread
        simp only [bind_eq_error] at h
        obtain h | ⟨⟨d, tail⟩, hnext, h⟩ := h
        · exact absurd h (next_ne_halt hf _)
        obtain ⟨g₃, rfl, hg₃⟩ := next_sound hnext
        simp only at h
        split at h
        case isTrue hd =>
          subst hd
          exact .member hg hkey hg₁ hg₂ hs hg₃ (ih h)
        case isFalse => split at h <;> cases h; cases hf

/-! ## One value -/

/-- **A text that leads to a halt** is not read. -/
theorem readValue_halts (steps depth : Nat) :
    Halts (Stuck depth) (readValue steps depth) steps := by
  induction depth with
  | zero => exact fun _ h => h.elim
  | succ depth ih =>
    intro g s f hg hs hlen
    have hstuck : Stuck (depth + 1) s f := hs
    have hf := hstuck.isHalt
    cases hs with
    | number h =>
      obtain ⟨c, t, rfl, hc⟩ := h.exists_cons
      rw [readValue, next_start hg (not_mem_of_class (p := isNumberStart) (by decide) hc)]
      simp only [ok_bind]
      rw [if_neg (ne_of_class hc (by decide)), if_neg (ne_of_class hc (by decide)),
        if_neg (by simp [isQuote_eq_false (p := isNumberStart) (by decide) hc]),
        if_neg (ne_of_class hc (by decide)), if_pos hc, (readNumber_halt_iff hf).mpr h]
    | array h =>
      rw [readValue, next_start hg (by decide)]
      simp only [ok_bind]
      rw [if_neg (by decide), if_pos trivial]
      exact h.readItems_eq (startsWell_value depth) Stuck.exists_cons
        (readValue_accepts steps depth) ih (Nat.le_of_succ_le hlen) (Nat.le_refl _) []
    | object h =>
      rw [readValue, next_start hg (by decide)]
      simp only [ok_bind]
      rw [if_pos trivial]
      exact h.readMembers_eq (readValue_accepts steps depth) ih (Nat.le_of_succ_le hlen)
        (Nat.le_refl _) []
    | @negation g' s f hg' h =>
      simp only [List.length_cons, List.length_append] at hlen
      rw [readValue, next_start hg (by decide)]
      simp only [ok_bind]
      rw [if_neg (by decide), if_neg (by decide), if_neg (by decide), if_pos trivial,
        ih hg' h (by omega)]
      rfl

/-- **The reader gets stuck** in no other text. -/
theorem readValue_haltsOnly (steps depth : Nat) :
    HaltsOnly (Stuck depth) (readValue steps depth) := by
  induction depth with
  | zero => exact fun hf h => by cases h; cases hf
  | succ depth ih =>
    intro text f hf h
    rw [readValue, bind_eq_error] at h
    obtain h | ⟨⟨c, body⟩, hnext, h⟩ := h
    · exact absurd h (next_ne_halt hf _)
    obtain ⟨g, rfl, hg⟩ := next_sound hnext
    refine ⟨g, c :: body, rfl, hg, ?_⟩
    simp only at h
    split at h
    · next hc =>
      subst hc
      exact .object (readMembers_haltsOnly (readValue_yields steps depth) ih hf h)
    split at h
    · next hc =>
      subst hc
      exact .array (readItems_haltsOnly (readValue_yields steps depth) ih hf h)
    split at h
    · obtain h | ⟨_, -, h⟩ := bind_eq_error.mp h
      · exact absurd h (readBody_ne_halt hf _ _ _ _)
      · cases h
    split at h
    · next hc =>
      subst hc
      obtain h | ⟨_, -, h⟩ := bind_eq_error.mp h
      · obtain ⟨g', s, rfl, hg', hs⟩ := ih hf h
        exact .negation hg' hs
      · cases h
    split at h
    · exact .number ((readNumber_halt_iff hf).mp h)
    split at h
    · exact absurd h (readKeyword_ne_halt hf _)
    · cases h; cases hf

/-- A whole text: what follows the place does not matter. -/
theorem read_halt_iff {text : Text} :
    (IsHalt f ∧ read text = .error f) ↔ LeadsToHalt depthLimit text f := by
  constructor
  · rintro ⟨hf, h⟩
    obtain h | ⟨⟨value, rest⟩, -, h⟩ := bind_eq_error.mp h
    · exact readValue_haltsOnly _ _ hf h
    · obtain h | ⟨unread, -, h⟩ := bind_eq_error.mp h
      · exact absurd h (skipGap_ne_halt hf _ _)
      · cases unread <;> cases h
        cases hf
  · rintro ⟨g, s, rfl, hg, hs⟩
    have hlen : s.length ≤ (g ++ s).length + 1 := by rw [List.length_append]; omega
    refine ⟨hs.isHalt, ?_⟩
    rw [read, readValue_halts _ _ hg hs hlen]
    rfl

/-! ## Evaluation -/

/-- A text that is strict JSON. -/
def IsStrict (text : Text) : Prop := ∃ v, Json.read text = .ok v

/-- A refusal with what each of the three tiers says. -/
def RefusedBy (text : Text) (r : Refusal) : Prop :=
  ∃ strict lax failure, Json.read text = .error strict ∧ Json.read (normalize text) = .error lax ∧
    read text = .error failure ∧ r.json = strict.message text ∧
    r.normalized = lax.message (normalize text) ∧ r.literal = (failure.toFault text).message

theorem not_isStrict_iff {text : Text} :
    ¬IsStrict text ↔ ∃ failure, Json.read text = .error failure := by
  unfold IsStrict
  cases Json.read text <;> simp

/-- A refusal has the messages of the tiers. -/
theorem evaluate_refused {text : Text} {r : Refusal} (h : evaluate text = .error (.refused r)) :
    RefusedBy text r := by
  unfold evaluate at h
  split at h
  · cases h
  next strict hstrict =>
    simp only at h
    split at h
    · cases h
    next lax hlax =>
      split at h
      · cases h
      next failure hread =>
        split at h <;> cases h <;> exact ⟨_, _, _, hstrict, hlax, hread, rfl, rfl, rfl⟩

/-- **Stopped** is a text that neither of the first two tiers accepts and that the reader gets stuck
in. -/
theorem evaluate_stopped_iff {text : Text} {fault : Fault} :
    evaluate text = .error (.stopped fault) ↔
      ¬IsStrict text ∧ ¬IsStrict (normalize text) ∧
        ∃ f, LeadsToHalt depthLimit text f ∧ fault = f.toFault text := by
  simp only [not_isStrict_iff, ← read_halt_iff]
  constructor
  · intro h
    unfold evaluate at h
    split at h
    · cases h
    next strict hstrict =>
      simp only at h
      split at h
      · cases h
      next lax hlax =>
        refine ⟨⟨strict, hstrict⟩, ⟨lax, hlax⟩, ?_⟩
        split at h
        · cases h
        next failure hread =>
          split at h <;> cases h
          · exact ⟨_, ⟨.longNumeral _, hread⟩, rfl⟩
          · exact ⟨_, ⟨.keyDigit, hread⟩, rfl⟩
  · rintro ⟨⟨strict, hstrict⟩, ⟨lax, hlax⟩, f, ⟨hf, hread⟩, rfl⟩
    unfold evaluate
    rw [hstrict]
    simp only [hlax, hread]
    cases hf <;> rfl

/-- **The three outcomes.** Evaluation gives a value, or refuses a text with the message of each
tier, unless neither the text nor its normal form is strict JSON and the permissive reader gets
stuck in it; then it stops with the fault of the reader. -/
theorem evaluate_outcome (text : Text) :
    (((∃ v, evaluate text = .ok v) ∨ ∃ r, evaluate text = .error (.refused r) ∧ RefusedBy text r) ↔
      ¬(¬IsStrict text ∧ ¬IsStrict (normalize text) ∧ ∃ f, LeadsToHalt depthLimit text f)) ∧
    ∀ fault, evaluate text = .error (.stopped fault) ↔
      ¬IsStrict text ∧ ¬IsStrict (normalize text) ∧
        ∃ f, LeadsToHalt depthLimit text f ∧ fault = f.toFault text := by
  refine ⟨⟨?_, fun hno => ?_⟩, fun fault => evaluate_stopped_iff⟩
  · rintro h ⟨hstrict, hlax, f, hf⟩
    have hstopped := evaluate_stopped_iff.mpr ⟨hstrict, hlax, f, hf, rfl⟩
    obtain ⟨v, hv⟩ | ⟨r, hr, -⟩ := h
    · cases hv ▸ hstopped
    · cases hr ▸ hstopped
  · cases h : evaluate text with
    | ok v => exact .inl ⟨v, rfl⟩
    | error failure =>
      cases failure with
      | refused r => exact .inr ⟨r, rfl, evaluate_refused h⟩
      | stopped fault =>
        obtain ⟨hstrict, hlax, f, hf, -⟩ := evaluate_stopped_iff.mp h
        exact absurd ⟨hstrict, hlax, f, hf⟩ hno

/-- A key that begins with a digit without a place value is neither read nor refused. -/
theorem evaluate_digitKey : evaluate "\x7b²:1\x7d" = .error (.stopped .noMembers) := by
  rfl

end TagAudit.Literal
