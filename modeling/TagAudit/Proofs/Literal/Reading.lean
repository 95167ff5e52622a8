import TagAudit.Proofs.Literal.Nested

/-!
# Reading whole texts

The reader accepts the texts of the grammar and gives the value that they spell.

* `readValue_accepts`, `readValue_yields`: the two directions for one value, by induction on how
  deep it may be nested.
* `readValue_givesUp`: a lower limit changes nothing but that the reader may give up.
* `renders_of_read`, `Renders.read_or_tooDeep`: the same for a whole text; `read_exact` puts them
  together.
-/

namespace TagAudit.Literal

open Outcome (ok_bind bind_eq_ok)

/-! ## What a literal begins with -/

theorem ne_of_class {p : CodePoint → Bool} {c d : CodePoint} (hc : p c = true)
    (hd : p d = false) : c ≠ d := by
  rintro rfl
  rw [hc] at hd
  cases hd

theorem isNumberStart_of_isWordStart {c : CodePoint} (hc : isWordStart c = true) :
    isNumberStart c = false := by
  have hplus : c ≠ '+' := ne_of_class hc (by decide)
  have hminus : c ≠ '-' := ne_of_class hc (by decide)
  have hpoint : c ≠ '.' := ne_of_class hc (by decide)
  simp [isNumberStart, isDigit_of_isWordStart hc, hplus, hminus, hpoint]

theorem Number.exists_cons {s : Text} {v : Data} (h : Number s v) :
    ∃ c t, s = c :: t ∧ isNumberStart c = true := by
  obtain ⟨hsign, hbody, -⟩ := h
  cases hsign with
  | none =>
    obtain ⟨c, t, rfl, hc | rfl⟩ := hbody.exists_cons
    · exact ⟨c, t, rfl, by simp [isNumberStart, isDigit_of_isDecimal hc]⟩
    · exact ⟨_, t, rfl, by decide⟩
  | plus | minus => exact ⟨_, _, rfl, by decide⟩

theorem startsWell_form {Item : Text → Data → Prop} : StartsWell (Form Item) := by
  intro s v h
  cases h with
  | object _ _ | array _ | negation _ _ _ => exact ⟨_, _, rfl, by decide⟩
  | text hmark _ => exact ⟨_, _, rfl, isQuote_not_mem_stops hmark⟩
  | number h =>
    obtain ⟨c, t, rfl, hc⟩ := h.exists_cons
    exact ⟨c, t, rfl, not_mem_of_class (p := isNumberStart) (by decide) hc⟩
  | keyword h =>
    obtain ⟨⟨c, t, rfl, hc⟩, -⟩ := keyword_spec h
    exact ⟨c, t, rfl, not_mem_of_class (p := isWordStart) (by decide) hc⟩

theorem startsWell_value (depth : Nat) : StartsWell (Value depth) := by
  cases depth with
  | zero => exact fun h => h.elim
  | succ depth => exact startsWell_form

/-! ## Negation -/

theorem isTruthy_eq_false_iff {v : Data} : v.isTruthy = false ↔ Falsy v := by
  constructor
  · intro h
    match v with
    | .null => exact .null
    | .bool false => exact .false
    | .int n =>
      obtain rfl : n = 0 := by simpa [Data.isTruthy] using h
      exact .int
    | .float (.finite negative mantissa exponent) =>
      obtain rfl : mantissa = 0 := by simpa [Data.isTruthy, Binary64.isZero] using h
      exact .float
    | .text [] => exact .text
    | .array [] => exact .array
    | .object [] => exact .object
  · intro h
    cases h <;> rfl

/-- The value of a negation. -/
theorem eq_not_isTruthy {v : Data} {b : Bool} : (b = true ↔ Falsy v) ↔ b = !v.isTruthy := by
  rw [← isTruthy_eq_false_iff]
  cases b <;> cases v.isTruthy <;> decide

/-! ## One value -/

/-- **A literal in front** of something that cannot continue it is read. -/
theorem readValue_accepts (steps depth : Nat) :
    Accepts (Value depth) (readValue steps depth) steps := by
  induction depth with
  | zero => exact fun _ h => h.elim
  | succ depth ih =>
    intro g s rest v hg hs hrest hlen
    cases hs with
    | @object s entries members hentries hmembers =>
      obtain rfl := Members.merged_iff.mp hmembers
      rw [List.cons_append, readValue, next_start hg (by decide)]
      simp only [ok_bind]
      rw [if_pos trivial]
      exact hentries.readMembers_append ih (Nat.le_of_succ_le hlen) (Nat.le_refl _) [] rest
    | @array s items hitems =>
      rw [List.cons_append, readValue, next_start hg (by decide)]
      simp only [ok_bind]
      rw [if_neg (by decide), if_pos trivial]
      exact hitems.readItems_append (startsWell_value depth) ih (Nat.le_of_succ_le hlen)
        (Nat.le_refl _) [] rest
    | @text mark s t hmark hbody =>
      rw [List.cons_append, List.append_assoc, readValue,
        next_start hg (isQuote_not_mem_stops hmark)]
      simp only [ok_bind]
      rw [if_neg (ne_of_class hmark (by decide)), if_neg (ne_of_class hmark (by decide)),
        if_pos hmark, List.cons_append, List.nil_append, hbody.readBody_append hmark]
      rfl
    | @negation g' s operand b hg' hs hb =>
      obtain rfl := eq_not_isTruthy.mp hb
      simp only [List.length_cons, List.length_append] at hlen
      rw [List.cons_append, List.append_assoc, readValue, next_start hg (by decide)]
      simp only [ok_bind]
      rw [if_neg (by decide), if_neg (by decide), if_neg (by decide), if_pos trivial,
        ih hg' hs hrest (by omega)]
      rfl
    | @number s v h =>
      obtain ⟨c, t, rfl, hc⟩ := h.exists_cons
      have hread := h.readNumber_append hrest
      rw [List.cons_append] at hread ⊢
      rw [readValue, next_start hg (not_mem_of_class (p := isNumberStart) (by decide) hc)]
      simp only [ok_bind]
      rw [if_neg (ne_of_class hc (by decide)), if_neg (ne_of_class hc (by decide)),
        if_neg (by simp [isQuote_eq_false (p := isNumberStart) (by decide) hc]),
        if_neg (ne_of_class hc (by decide)), if_pos hc, hread]
    | @keyword s v h =>
      obtain ⟨⟨c, t, rfl, hc⟩, -⟩ := keyword_spec h
      have hread := readKeyword_append h hrest
      rw [List.cons_append] at hread ⊢
      rw [readValue, next_start hg (not_mem_of_class (p := isWordStart) (by decide) hc)]
      simp only [ok_bind]
      rw [if_neg (ne_of_class hc (by decide)), if_neg (ne_of_class hc (by decide)),
        if_neg (by simp [isQuote_eq_false (p := isWordStart) (by decide) hc]),
        if_neg (ne_of_class hc (by decide)), if_neg (by simp [isNumberStart_of_isWordStart hc]),
        if_pos hc, hread]

/-- **What is read** is a literal. -/
theorem readValue_yields (steps depth : Nat) : Yields (Value depth) (readValue steps depth) := by
  induction depth with
  | zero => exact fun h => by cases h
  | succ depth ih =>
    intro text rest v h
    rw [readValue, bind_eq_ok] at h
    obtain ⟨⟨c, body⟩, hnext, h⟩ := h
    obtain ⟨g, rfl, hg⟩ := next_sound hnext
    -- What begins with `c` is a form in front of `rest`; the gap is known.
    suffices hform : ∃ s, c :: body = s ++ rest ∧ Form (Value depth) s v by
      obtain ⟨s, hs, hform⟩ := hform
      exact ⟨g, s, by rw [hs], hg, hform⟩
    simp only at h
    split at h
    · next hc =>
      subst hc
      obtain ⟨s, entries, rfl, hentries, rfl⟩ := readMembers_sound ih h
      exact ⟨_, rfl, .object hentries (Members.merged_iff.mpr rfl)⟩
    split at h
    · next hc =>
      subst hc
      obtain ⟨s, items, rfl, hitems, rfl⟩ := readItems_sound ih h
      exact ⟨_, rfl, .array hitems⟩
    split at h
    · next hmark =>
      rw [bind_eq_ok] at h
      obtain ⟨⟨t, after⟩, hbody, h⟩ := h
      cases h
      obtain ⟨s, d, rfl, hbody, rfl⟩ := readBody_sound hbody
      exact ⟨_, by simp, .text hmark hbody⟩
    split at h
    · next hc =>
      subst hc
      rw [bind_eq_ok] at h
      obtain ⟨⟨operand, after⟩, hread, h⟩ := h
      cases h
      obtain ⟨g', s, rfl, hg', hs⟩ := ih hread
      exact ⟨_, by simp, .negation hg' hs (eq_not_isTruthy.mpr rfl)⟩
    split at h
    · obtain ⟨s, hs, hnumber⟩ := readNumber_sound h
      exact ⟨s, hs, .number hnumber⟩
    split at h
    · obtain ⟨s, hs, hkeyword⟩ := readKeyword_sound h
      exact ⟨s, hs, .keyword hkeyword⟩
    · cases h

/-! ## Limits of nesting -/

/-- The first outcome is the second one, or the reader gave up for the nesting. -/
def GivesUp {α : Type} (x y : Except Failure α) : Prop := x = .error .tooDeep ∨ x = y

theorem GivesUp.refl {α : Type} (x : Except Failure α) : GivesUp x x := .inr rfl

theorem GivesUp.bind {α β : Type} {x y : Except Failure α} {f g : α → Except Failure β}
    (h : GivesUp x y) (hf : ∀ a, GivesUp (f a) (g a)) : GivesUp (x >>= f) (y >>= g) := by
  obtain rfl | rfl := h
  · exact .inl rfl
  · cases x with
    | error e => exact .inr rfl
    | ok a => exact hf a

theorem GivesUp.trans {α : Type} {x y z : Except Failure α} (h : GivesUp x y) (h' : GivesUp y z) :
    GivesUp x z := by
  obtain rfl | rfl := h
  · exact .inl rfl
  · exact h'

section

variable {item item' : Text → Except Failure (Data × Text)}
  (hitem : ∀ text, GivesUp (item text) (item' text))

include hitem

theorem readItems_givesUp (steps : Nat) (done : List Data) (text : Text) :
    GivesUp (readItems item steps done text) (readItems item' steps done text) := by
  induction steps generalizing done text with
  | zero => exact .refl _
  | succ steps ih =>
    rw [readItems, readItems]
    refine .bind (.refl _) fun _ => ?_
    simp only
    split
    · exact .refl _
    split
    · exact ih _ _
    refine .bind (hitem _) fun _ => .bind (.refl _) fun _ => ?_
    split
    · exact ih _ _
    · exact .refl _

theorem readMembers_givesUp (steps : Nat) (done : List (Text × Data)) (text : Text) :
    GivesUp (readMembers item steps done text) (readMembers item' steps done text) := by
  induction steps generalizing done text with
  | zero => exact .refl _
  | succ steps ih =>
    rw [readMembers, readMembers]
    refine .bind (.refl _) fun _ => ?_
    simp only
    split
    · exact .refl _
    refine .bind (.refl _) fun _ => .bind (.refl _) fun _ => ?_
    split
    · exact .refl _
    refine .bind (hitem _) fun _ => .bind (.refl _) fun _ => ?_
    split
    · exact ih _ _
    · exact .refl _

end

theorem readValue_givesUp_succ (steps depth : Nat) (text : Text) :
    GivesUp (readValue steps depth text) (readValue steps (depth + 1) text) := by
  induction depth generalizing text with
  | zero => exact .inl rfl
  | succ depth ih =>
    rw [readValue, readValue]
    refine .bind (.refl _) fun (c, rest) => ?_
    simp only
    split
    · exact readMembers_givesUp ih _ _ _
    split
    · exact readItems_givesUp ih _ _ _
    split
    · exact .refl _
    split
    · exact .bind (ih _) fun _ => .refl _
    · exact .refl _

/-- A lower limit changes nothing but that the reader may give up. -/
theorem readValue_givesUp (steps : Nat) {depth limit : Nat} (h : depth ≤ limit) (text : Text) :
    GivesUp (readValue steps depth text) (readValue steps limit text) := by
  induction h with
  | refl => exact .refl _
  | step _ ih => exact ih.trans (readValue_givesUp_succ _ _ _)

/-! ## Whole texts -/

/-- Reading with any limit in place of `depthLimit`. -/
theorem readValue_renders {depth : Nat} {text : Text} {v : Data} (h : Renders depth text v)
    {steps : Nat} (hsteps : text.length ≤ steps) :
    ∃ tail, readValue steps depth text = .ok (v, tail) ∧ IsTail tail := by
  obtain ⟨g, s, tail, rfl, hg, hs, htail⟩ := h
  simp only [List.length_append] at hsteps
  exact ⟨tail, readValue_accepts steps depth hg hs htail.stops (by omega), htail⟩

theorem read_eq_ok {text : Text} {v : Data} {tail : Text}
    (h : readValue (text.length + 1) depthLimit text = .ok (v, tail)) (htail : IsTail tail) :
    read text = .ok v := by
  rw [read, h]
  simp only [ok_bind, skipGap_tail htail]
  rfl

theorem renders_of_read {text : Text} {v : Data} (h : read text = .ok v) :
    Renders depthLimit text v := by
  rw [read, bind_eq_ok] at h
  obtain ⟨⟨value, rest⟩, hvalue, h⟩ := h
  simp only [bind_eq_ok] at h
  obtain ⟨unread, hgap, h⟩ := h
  obtain ⟨g, s, rfl, hg, hs⟩ := readValue_yields _ _ hvalue
  obtain ⟨tail, rfl, hskipped⟩ := skipGap_sound hgap
  cases unread with
  | cons c unread => cases h
  | nil =>
    cases h
    rw [List.append_nil]
    exact ⟨g, s, tail, rfl, hg, hs, hskipped.elim .gap And.right⟩

/-- A text that renders a literal is read. -/
theorem Renders.read_eq_ok {text : Text} {v : Data} (h : Renders depthLimit text v) :
    read text = .ok v := by
  obtain ⟨tail, hread, htail⟩ := readValue_renders h (Nat.le_succ text.length)
  exact Literal.read_eq_ok hread htail

/-- A text that is nested more deeply than the limit is read with its value, or given up for its
nesting. -/
theorem Renders.read_or_tooDeep {depth : Nat} {text : Text} {v : Data} (h : Renders depth text v) :
    read text = .ok v ∨ read text = .error .tooDeep := by
  obtain ⟨tail, hread, htail⟩ := readValue_renders h (Nat.le_succ text.length)
  obtain hle | hle := Nat.le_total depth depthLimit
  · obtain hdeep | heq := readValue_givesUp (text.length + 1) hle text
    · rw [hread] at hdeep
      cases hdeep
    · exact .inl (Literal.read_eq_ok (heq ▸ hread) htail)
  · obtain hdeep | heq := readValue_givesUp (text.length + 1) hle text
    · refine .inr ?_
      rw [read, hdeep]
      rfl
    · exact .inl (Literal.read_eq_ok (heq.trans hread) htail)

/-- **The reader and the grammar.** A text is read with a value exactly if it renders the value with
no more than `depthLimit` nested literals. A text that is nested more deeply is read with its value
as well, or given up for its nesting. -/
theorem read_exact (text : Text) (v : Data) :
    (read text = .ok v ↔ Renders depthLimit text v) ∧
    ∀ depth, Renders depth text v → read text = .ok v ∨ read text = .error .tooDeep :=
  ⟨⟨renders_of_read, Renders.read_eq_ok⟩, fun _ => Renders.read_or_tooDeep⟩

/-- A repeated key, a hole, a comma at the end, and a comment that the text ends in. -/
example : read "\x7ba: [1,, 'x'], b: !0, a: 0xFF,\x7d // end" =
    .ok (.object [("a", .int 255), ("b", .bool true)]) := by
  cbv

end TagAudit.Literal
