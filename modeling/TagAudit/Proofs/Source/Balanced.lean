import TagAudit.Source.Span

/-!
# Balanced spans by grammar

`Source.extract` walks over a text with three pieces of state. Here the spans are described without
any state, by a grammar, and the walk is shown to find exactly what the grammar derives.

* `Balanced`: a brace, then escape pairs, strings, nested spans and other code points, then a brace.
* `ScanState.Completes`: what has to follow in a state. One step of the walk takes one code point
  off the front of it (`completes_cons`), so a walk succeeds on exactly the texts that complete its
  state (`scan_eq_some_iff`).
* `extract_eq_some_iff_balanced`: the span found is the balanced beginning of the window.
* `extract_exact`: there is at most one such beginning, and nothing around it matters.
-/

namespace TagAudit.Source

/-! ## The grammar -/

/-- What stands between the marks of a string: a backslash with any code point behind it, and code
points other than the mark and the backslash. -/
inductive StringBody (mark : CodePoint) : Text → Prop
  | nil : StringBody mark []
  | escape (c : CodePoint) {t : Text} : StringBody mark t → StringBody mark ('\\' :: c :: t)
  | plain {c : CodePoint} {t : Text} :
      c ≠ mark → c ≠ '\\' → StringBody mark t → StringBody mark (c :: t)

/-- A code point that opens and closes nothing. -/
def IsPlain (c : CodePoint) : Prop := c ≠ '\\' ∧ c ≠ '"' ∧ c ≠ '\'' ∧ c ≠ '{' ∧ c ≠ '}'

/-- What stands between the braces of a balanced span. -/
inductive Inside : Text → Prop
  | nil : Inside []
  | escape (c : CodePoint) {t : Text} : Inside t → Inside ('\\' :: c :: t)
  | string {mark : CodePoint} {body t : Text} :
      mark = '"' ∨ mark = '\'' → StringBody mark body → Inside t →
      Inside (mark :: (body ++ mark :: t))
  | nested {s t : Text} : Inside s → Inside t → Inside ('{' :: (s ++ ('}' : CodePoint) :: t))
  | plain {c : CodePoint} {t : Text} : IsPlain c → Inside t → Inside (c :: t)

/-- A balanced span. -/
def Balanced (s : Text) : Prop :=
  ∃ t, Inside t ∧ s = ('{' : CodePoint) :: (t ++ [('}' : CodePoint)])

/-! ## What completes a state -/

/-- What closes a number of braces: for each one its inside and the closing brace. -/
def Closing : Nat → Text → Prop
  | 0, t => t = []
  | depth + 1, t => ∃ u v, Inside u ∧ Closing depth v ∧ t = u ++ ('}' : CodePoint) :: v

/-- What closes a string and then a number of braces. -/
def ClosingString (mark : CodePoint) (depth : Nat) (t : Text) : Prop :=
  ∃ body v, StringBody mark body ∧ Closing depth v ∧ t = body ++ mark :: v

namespace ScanState

/-- What leads from a state to the end of its span, if no backslash stands in front. -/
def CompletesPlainly (s : ScanState) (t : Text) : Prop :=
  match s.quote with
  | none => Closing s.depth t
  | some mark => ClosingString mark s.depth t

/-- What leads from a state to the end of its span. -/
def Completes (s : ScanState) (t : Text) : Prop :=
  if s.escaped then ∃ c v, t = c :: v ∧ s.CompletesPlainly v else s.CompletesPlainly t

/-- Inside a span: a brace is open, and a string ends with a quotation mark. -/
structure Open (s : ScanState) : Prop where
  depth_pos : 0 < s.depth
  quote : ∀ mark ∈ s.quote, isQuote mark = true

end ScanState

theorem isQuote_iff {c : CodePoint} : isQuote c = true ↔ c = '"' ∨ c = '\'' := by
  simp [isQuote]

/-! ## Closing, one code point at a time -/

theorem closing_succ_nil (depth : Nat) : ¬Closing (depth + 1) [] := by
  rintro ⟨u, v, -, -, h⟩
  simp at h

theorem closing_escape {depth : Nat} {t : Text} :
    Closing (depth + 1) ('\\' :: t) ↔ ∃ c v, t = c :: v ∧ Closing (depth + 1) v := by
  constructor
  · rintro ⟨u, v, hu, hv, h⟩
    cases hu with
    | nil => simp at h
    | escape c hu =>
      simp only [List.cons_append, List.cons.injEq, true_and] at h
      exact ⟨c, _, h, _, v, hu, hv, rfl⟩
    | string hq => rcases hq with rfl | rfl <;> simp at h
    | nested => simp at h
    | plain hc =>
      simp only [List.cons_append, List.cons.injEq] at h
      exact absurd h.1.symm hc.1
  · rintro ⟨c, _, rfl, u, v, hu, hv, rfl⟩
    exact ⟨_, v, .escape c hu, hv, rfl⟩

theorem closing_quote {depth : Nat} {mark : CodePoint} {t : Text} (hq : isQuote mark = true) :
    Closing (depth + 1) (mark :: t) ↔ ClosingString mark (depth + 1) t := by
  rw [isQuote_iff] at hq
  constructor
  · rintro ⟨u, v, hu, hv, h⟩
    cases hu with
    | nil => rcases hq with rfl | rfl <;> simp at h
    | escape c hu => rcases hq with rfl | rfl <;> simp at h
    | @string mark' body w _ hb hw =>
      simp only [List.cons_append, List.append_assoc, List.cons.injEq] at h
      obtain ⟨rfl, rfl⟩ := h
      exact ⟨body, w ++ ('}' : CodePoint) :: v, hb, ⟨w, v, hw, hv, rfl⟩, rfl⟩
    | nested => rcases hq with rfl | rfl <;> simp at h
    | plain hc =>
      simp only [List.cons_append, List.cons.injEq] at h
      obtain ⟨rfl, -⟩ := h
      rcases hq with rfl | rfl
      · exact absurd rfl hc.2.1
      · exact absurd rfl hc.2.2.1
  · rintro ⟨body, _, hb, ⟨u, v, hu, hv, rfl⟩, rfl⟩
    exact ⟨_, v, .string hq hb hu, hv, by simp⟩

theorem closing_brace {depth : Nat} {t : Text} :
    Closing (depth + 1) ('{' :: t) ↔ Closing (depth + 2) t := by
  constructor
  · rintro ⟨u, v, hu, hv, h⟩
    cases hu with
    | nil => simp at h
    | escape c hu => simp at h
    | string hq => rcases hq with rfl | rfl <;> simp at h
    | @nested s w hs hw =>
      simp only [List.cons_append, List.append_assoc, List.cons.injEq, true_and] at h
      exact ⟨s, w ++ ('}' : CodePoint) :: v, hs, ⟨w, v, hw, hv, rfl⟩, h⟩
    | plain hc =>
      simp only [List.cons_append, List.cons.injEq] at h
      exact absurd h.1.symm hc.2.2.2.1
  · rintro ⟨s, _, hs, ⟨w, v, hw, hv, rfl⟩, rfl⟩
    exact ⟨_, v, .nested hs hw, hv, by simp⟩

theorem closing_end {depth : Nat} {t : Text} :
    Closing (depth + 1) ('}' :: t) ↔ Closing depth t := by
  constructor
  · rintro ⟨u, v, hu, hv, h⟩
    cases hu with
    | nil =>
      simp only [List.nil_append, List.cons.injEq, true_and] at h
      exact h ▸ hv
    | escape c hu => simp at h
    | string hq => rcases hq with rfl | rfl <;> simp at h
    | nested => simp at h
    | plain hc =>
      simp only [List.cons_append, List.cons.injEq] at h
      exact absurd h.1.symm hc.2.2.2.2
  · intro h
    exact ⟨[], t, .nil, h, rfl⟩

theorem closing_plain {depth : Nat} {c : CodePoint} {t : Text} (hc : IsPlain c) :
    Closing (depth + 1) (c :: t) ↔ Closing (depth + 1) t := by
  obtain ⟨h₁, h₂, h₃, h₄, h₅⟩ := hc
  constructor
  · rintro ⟨u, v, hu, hv, h⟩
    cases hu with
    | nil => simp [h₅] at h
    | escape e hu => simp [h₁] at h
    | string hq => rcases hq with rfl | rfl <;> simp [h₂, h₃] at h
    | nested => simp [h₄] at h
    | plain _ hu =>
      simp only [List.cons_append, List.cons.injEq] at h
      exact ⟨_, v, hu, hv, h.2⟩
  · rintro ⟨u, v, hu, hv, rfl⟩
    exact ⟨c :: u, v, .plain ⟨h₁, h₂, h₃, h₄, h₅⟩ hu, hv, rfl⟩

/-! ## Strings, one code point at a time -/

section

variable {mark : CodePoint} {depth : Nat} {t : Text}

theorem closingString_nil : ¬ClosingString mark depth [] := by
  rintro ⟨body, v, -, -, h⟩
  simp at h

theorem closingString_escape (hm : mark ≠ '\\') :
    ClosingString mark depth ('\\' :: t) ↔ ∃ c v, t = c :: v ∧ ClosingString mark depth v := by
  constructor
  · rintro ⟨body, v, hb, hv, h⟩
    cases hb with
    | nil =>
      simp only [List.nil_append, List.cons.injEq] at h
      exact absurd h.1.symm hm
    | escape c hb =>
      simp only [List.cons_append, List.cons.injEq, true_and] at h
      exact ⟨c, _, h, _, v, hb, hv, rfl⟩
    | plain _ hc =>
      simp only [List.cons_append, List.cons.injEq] at h
      exact absurd h.1.symm hc
  · rintro ⟨c, _, rfl, body, v, hb, hv, rfl⟩
    exact ⟨_, v, .escape c hb, hv, rfl⟩

theorem closingString_mark (hm : mark ≠ '\\') :
    ClosingString mark depth (mark :: t) ↔ Closing depth t := by
  constructor
  · rintro ⟨body, v, hb, hv, h⟩
    cases hb with
    | nil =>
      simp only [List.nil_append, List.cons.injEq, true_and] at h
      exact h ▸ hv
    | escape c hb =>
      simp only [List.cons_append, List.cons.injEq] at h
      exact absurd h.1 hm
    | plain hc =>
      simp only [List.cons_append, List.cons.injEq] at h
      exact absurd h.1.symm hc
  · intro h
    exact ⟨[], t, .nil, h, rfl⟩

theorem closingString_plain {c : CodePoint} (hm : c ≠ mark) (hc : c ≠ '\\') :
    ClosingString mark depth (c :: t) ↔ ClosingString mark depth t := by
  constructor
  · rintro ⟨body, v, hb, hv, h⟩
    cases hb with
    | nil =>
      simp only [List.nil_append, List.cons.injEq] at h
      exact absurd h.1 hm
    | escape e hb =>
      simp only [List.cons_append, List.cons.injEq] at h
      exact absurd h.1 hc
    | plain _ _ hb =>
      simp only [List.cons_append, List.cons.injEq] at h
      exact ⟨_, v, hb, hv, h.2⟩
  · rintro ⟨body, v, hb, hv, rfl⟩
    exact ⟨_, v, .plain hm hc hb, hv, rfl⟩

end

/-! ## One step of the walk -/

theorem ne_backslash_of_isQuote {c : CodePoint} (h : isQuote c = true) : c ≠ '\\' := by
  rcases isQuote_iff.mp h with rfl | rfl <;> decide

namespace ScanState

variable {s : ScanState}

theorem Open.step (hs : s.Open) {c : CodePoint} (hc : s.closes c = false) : (s.step c).Open := by
  obtain ⟨depth, quote, escaped⟩ := s
  obtain ⟨hd, hq⟩ := hs
  unfold ScanState.step
  cases escaped with
  | true => exact ⟨hd, hq⟩
  | false =>
    by_cases hb : c = '\\'
    · simp only [hb]; exact ⟨hd, hq⟩
    cases quote with
    | some mark =>
      simp only [hb, Bool.false_eq_true, ↓reduceIte]
      split
      · exact ⟨hd, by simp⟩
      · exact ⟨hd, hq⟩
    | none =>
      simp only [hb, Bool.false_eq_true, ↓reduceIte]
      split
      · next hm => exact ⟨hd, by simpa using hm⟩
      split
      · exact ⟨Nat.succ_pos _, by simp⟩
      split
      · next hm =>
        -- A closing brace that does not close the span leaves at least one brace open.
        refine ⟨?_, by simp⟩
        simp only [closes, hm] at hc
        simp at hc hd ⊢
        omega
      · exact ⟨hd, hq⟩

theorem Open.not_completes_nil (hs : s.Open) : ¬s.Completes [] := by
  obtain ⟨depth, quote, escaped⟩ := s
  obtain ⟨depth, rfl⟩ := Nat.exists_eq_succ_of_ne_zero (Nat.ne_of_gt hs.depth_pos)
  unfold Completes CompletesPlainly
  cases escaped with
  | true => simp
  | false =>
    cases quote with
    | none => exact closing_succ_nil depth
    | some mark => exact closingString_nil

/-- **One step.** A code point either ends the span, or it may be followed by exactly what completes
the state behind it. -/
theorem Open.completes_cons (hs : s.Open) {c : CodePoint} {t : Text} :
    s.Completes (c :: t) ↔ if s.closes c then t = [] else (s.step c).Completes t := by
  obtain ⟨depth, quote, escaped⟩ := s
  obtain ⟨hd, hq⟩ := hs
  obtain ⟨depth, rfl⟩ := Nat.exists_eq_succ_of_ne_zero (Nat.ne_of_gt hd)
  cases escaped with
  | true => cases quote <;> simp [Completes, CompletesPlainly, closes, ScanState.step, and_assoc]
  | false =>
    by_cases hb : c = '\\'
    · subst hb
      cases quote with
      | none => simpa [Completes, CompletesPlainly, closes, ScanState.step] using closing_escape
      | some mark =>
        have hm := ne_backslash_of_isQuote (hq mark rfl)
        simpa [Completes, CompletesPlainly, closes, ScanState.step] using closingString_escape hm
    cases quote with
    | some mark =>
      have hm := ne_backslash_of_isQuote (hq mark rfl)
      by_cases hc : c = mark
      · subst hc
        simpa [Completes, CompletesPlainly, closes, ScanState.step, hm] using closingString_mark hm
      · simpa [Completes, CompletesPlainly, closes, ScanState.step, hb, hc] using
          closingString_plain hc hb
    | none =>
      by_cases hm : isQuote c
      · have he : c ≠ '}' := by rcases isQuote_iff.mp hm with rfl | rfl <;> decide
        simpa [Completes, CompletesPlainly, closes, ScanState.step, hb, hm, he] using
          closing_quote hm
      by_cases ho : c = '{'
      · subst ho
        simpa [Completes, CompletesPlainly, closes, ScanState.step, isQuote] using closing_brace
      by_cases he : c = '}'
      · subst he
        cases depth with
        | zero =>
          simp only [Completes, CompletesPlainly, closes]
          exact closing_end
        | succ depth =>
          simpa [Completes, CompletesPlainly, closes, ScanState.step, isQuote] using closing_end
      · have hp : IsPlain c := by
          have := mt isQuote_iff.mpr hm
          exact ⟨hb, fun h => this (.inl h), fun h => this (.inr h), ho, he⟩
        simpa [Completes, CompletesPlainly, closes, ScanState.step, hb, hm, ho, he] using
          closing_plain hp

end ScanState

/-! ## The whole walk -/

/-- **A walk.** From an open state, the walk finds what completes the state, where the window and
the text begin with it. -/
theorem scan_eq_some_iff {s : ScanState} (hs : s.Open) (done : Text) (window : Nat)
    (text out : Text) :
    scan s done window text = some out ↔
      ∃ t, t <+: text.take window ∧ s.Completes t ∧ out = done.reverse ++ t := by
  induction window generalizing s done text with
  | zero =>
    simp only [scan, List.take_zero, List.prefix_nil, reduceCtorEq, false_iff]
    rintro ⟨t, rfl, ht, -⟩
    exact hs.not_completes_nil ht
  | succ window ih =>
    cases text with
    | nil =>
      simp only [scan, List.take_nil, List.prefix_nil, reduceCtorEq, false_iff]
      rintro ⟨t, rfl, ht, -⟩
      exact hs.not_completes_nil ht
    | cons c rest =>
      rw [scan, List.take_succ_cons]
      by_cases hc : s.closes c
      · rw [if_pos hc]
        constructor
        · intro h
          refine ⟨[c], by simp, ?_, by simpa using h.symm⟩
          rw [hs.completes_cons, if_pos hc]
        · rintro ⟨t, hp, ht, rfl⟩
          rcases t with - | ⟨d, t⟩
          · exact absurd ht hs.not_completes_nil
          · obtain ⟨rfl, -⟩ := List.cons_prefix_cons.mp hp
            rw [hs.completes_cons, if_pos hc] at ht
            simp [ht]
      · have hc' : s.closes c = false := by simpa using hc
        rw [if_neg hc, ih (hs.step hc')]
        constructor
        · rintro ⟨t, hp, ht, rfl⟩
          refine ⟨c :: t, List.cons_prefix_cons.mpr ⟨rfl, hp⟩, ?_, by simp⟩
          rw [hs.completes_cons, if_neg hc]
          exact ht
        · rintro ⟨t, hp, ht, rfl⟩
          rcases t with - | ⟨d, t⟩
          · exact absurd ht hs.not_completes_nil
          · obtain ⟨rfl, hp'⟩ := List.cons_prefix_cons.mp hp
            rw [hs.completes_cons, if_neg hc] at ht
            exact ⟨t, hp', ht, by simp⟩

theorem balanced_iff_closing {s : Text} :
    Balanced s ↔ ∃ t, s = ('{' : CodePoint) :: t ∧ Closing 1 t := by
  constructor
  · rintro ⟨u, hu, rfl⟩
    exact ⟨_, rfl, u, [], hu, rfl, rfl⟩
  · rintro ⟨_, rfl, u, v, hu, hv, rfl⟩
    exact ⟨u, hu, by rw [show v = [] from hv]⟩

theorem Balanced.ne_nil {s : Text} (h : Balanced s) : s ≠ [] := by
  obtain ⟨t, -, rfl⟩ := h
  simp

/-- The span at the front of a text is its balanced beginning within the window. -/
theorem balanced_eq_some_iff (window : Nat) (text s : Text) :
    balanced window text = some s ↔ s <+: text.take window ∧ Balanced s := by
  unfold balanced
  cases text with
  | nil =>
    simp only [reduceCtorEq, List.take_nil, List.prefix_nil, false_iff]
    rintro ⟨rfl, h⟩
    exact h.ne_nil rfl
  | cons c rest =>
    by_cases hc : c = '{'
    · subst hc
      simp only [↓reduceIte]
      cases window with
      | zero =>
        simp only [scan, reduceCtorEq, List.take_zero, List.prefix_nil, false_iff]
        rintro ⟨rfl, h⟩
        exact h.ne_nil rfl
      | succ window =>
        -- The first step opens the outermost brace.
        have hopen : ScanState.Open ⟨1, none, false⟩ := ⟨Nat.one_pos, by simp⟩
        have hstep : scan ⟨0, none, false⟩ [] (window + 1) (('{' : CodePoint) :: rest) =
            scan ⟨1, none, false⟩ ['{'] window rest := rfl
        rw [hstep, scan_eq_some_iff hopen, balanced_iff_closing, List.take_succ_cons]
        constructor
        · rintro ⟨t, hp, ht, rfl⟩
          exact ⟨List.cons_prefix_cons.mpr ⟨rfl, hp⟩, t, rfl, ht⟩
        · rintro ⟨hp, t, rfl, ht⟩
          exact ⟨t, (List.cons_prefix_cons.mp hp).2, ht, rfl⟩
    · simp only [if_neg hc, reduceCtorEq, false_iff]
      rintro ⟨hp, t, -, rfl⟩
      cases window with
      | zero => simp at hp
      | succ window => exact hc (List.cons_prefix_cons.mp hp).1.symm

/-- Balanced spans are free of prefixes: a text begins with at most one. -/
theorem Balanced.eq_of_prefix {s s' t : Text} (h : Balanced s) (h' : Balanced s') (hp : s <+: t)
    (hp' : s' <+: t) : s = s' := by
  have e := (balanced_eq_some_iff t.length t s).mpr ⟨by simpa using hp, h⟩
  have e' := (balanced_eq_some_iff t.length t s').mpr ⟨by simpa using hp', h'⟩
  exact Option.some.inj (e.symm.trans e')

/-- The span at an offset is the balanced beginning of the window that starts there. -/
theorem extract_eq_some_iff_balanced (text : Text) (start window : Int) (s : Text) :
    extract text start window = some s ↔
      0 ≤ start ∧ s <+: (text.drop start.toNat).take window.toNat ∧ Balanced s := by
  unfold extract
  split
  · next h => simp [Int.not_le.mpr h]
  · next h => simp [balanced_eq_some_iff, Int.not_lt.mp h]

/-- A span is found wherever it stands, by every window that it fits into. -/
theorem extract_append {s : Text} (h : Balanced s) (before after : Text) {window : Int}
    (hw : s.length ≤ window) : extract (before ++ s ++ after) before.length window = some s := by
  rw [extract_eq_some_iff_balanced]
  refine ⟨Int.natCast_nonneg _, ?_, h⟩
  rw [Int.toNat_natCast, List.append_assoc, List.drop_left, List.prefix_take_iff]
  exact ⟨List.prefix_append s after, by omega⟩

/-- **Extraction is exact.** The span found at an offset is the one balanced beginning of the window
that starts there, and nothing is found if there is none. What is found does not depend on the text
around it, nor on how much wider the window is. -/
theorem extract_exact (text : Text) (start window : Int) :
    (∀ s, extract text start window = some s ↔
      0 ≤ start ∧ start < text.length ∧
        s <+: (text.drop start.toNat).take window.toNat ∧ Balanced s) ∧
    (∀ s s', s <+: (text.drop start.toNat).take window.toNat → Balanced s →
      s' <+: (text.drop start.toNat).take window.toNat → Balanced s' → s = s') ∧
    (extract text start window = none ↔
      ¬∃ s, 0 ≤ start ∧ s <+: (text.drop start.toNat).take window.toNat ∧ Balanced s) ∧
    (∀ s, extract text start window = some s →
      (∀ wider, window ≤ wider → extract text start wider = some s) ∧
      ∀ (before after : Text) (other : Int), s.length ≤ other →
        extract (before ++ s ++ after) before.length other = some s) := by
  have hiff := extract_eq_some_iff_balanced text start window
  refine ⟨fun s => ?_, fun s s' hp h hp' h' => h.eq_of_prefix h' hp hp', ?_, fun s h => ?_⟩
  · rw [hiff]
    constructor
    · rintro ⟨h0, hp, h⟩
      have hlen := (hp.trans (List.take_prefix _ _)).length_le
      have := List.length_pos_iff.mpr h.ne_nil
      rw [List.length_drop] at hlen
      exact ⟨h0, by omega, hp, h⟩
    · rintro ⟨h0, -, hp, h⟩
      exact ⟨h0, hp, h⟩
  · rw [Option.eq_none_iff_forall_ne_some]
    simp only [ne_eq, hiff, not_exists]
  · obtain ⟨h0, hp, hb⟩ := (hiff s).mp h
    refine ⟨fun wider hw => ?_, fun before after other => extract_append hb before after⟩
    rw [extract_eq_some_iff_balanced]
    exact ⟨h0, hp.trans (List.take_prefix_take_left (by omega)), hb⟩

end TagAudit.Source
