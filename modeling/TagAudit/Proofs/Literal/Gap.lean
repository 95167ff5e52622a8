import TagAudit.Proofs.Literal.Grammar
import TagAudit.Proofs.Outcome

/-!
# Passing over gaps

`skipGap` takes a gap away from the front of a text, the whole of it and nothing else.

* `skipGap_append`: a gap in front changes nothing.
* `skipGap_sound`: what is taken away is a gap.
* `next_append`, `next_sound`: the same for the first code point of a token.
-/

namespace TagAudit.Literal

theorem IsGap.append {g h : Text} (hg : IsGap g) (hh : IsGap h) : IsGap (g ++ h) := by
  induction hg with
  | nil => exact hh
  | blank hc _ ih => exact .blank hc ih
  | line hbody _ ih =>
    rw [List.cons_append, List.cons_append, List.append_assoc, List.cons_append]
    exact .line hbody ih
  | block hbody _ ih =>
    rw [List.cons_append, List.cons_append, List.append_assoc, List.cons_append, List.cons_append]
    exact .block hbody ih

/-! ## A gap in front -/

theorem skipGap_blank {c : CodePoint} (hc : isBlank c = true) (rest : Text) :
    skipGap .between (c :: rest) = skipGap .between rest := by
  cases rest with
  | nil => simp [skipGap, hc]
  | cons d rest => simp [skipGap, hc]

theorem skipGap_token {c : CodePoint} (hc : isBlank c = false) (hslash : c ≠ '/') (rest : Text) :
    skipGap .between (c :: rest) = .ok (c :: rest) := by
  cases rest with
  | nil => simp [skipGap, hc]
  | cons d rest => simp [skipGap, hc, hslash]

theorem skipGap_line {body : Text} (hbody : ('\n' : CodePoint) ∉ body) (rest : Text) :
    skipGap .line (body ++ ('\n' : CodePoint) :: rest) = skipGap .between rest := by
  induction body with
  | nil => simp [skipGap]
  | cons c body ih =>
    rw [List.mem_cons, not_or] at hbody
    obtain ⟨hc, hbody⟩ := hbody
    rw [List.cons_append, skipGap, if_neg (Ne.symm hc), ih hbody]

theorem skipGap_openLine {body : Text} (hbody : ('\n' : CodePoint) ∉ body) :
    skipGap .line body = .ok [] := by
  induction body with
  | nil => rfl
  | cons c body ih =>
    rw [List.mem_cons, not_or] at hbody
    obtain ⟨hc, hbody⟩ := hbody
    rw [skipGap, if_neg (Ne.symm hc), ih hbody]

theorem skipGap_block {body : Text} (hbody : ¬("*/" : Text) <:+: body) (opening rest : Text) :
    skipGap (.block opening) (body ++ ('*' : CodePoint) :: '/' :: rest) =
      skipGap .between rest := by
  induction body with
  | nil => simp [skipGap]
  | cons c body ih =>
    have htail : ¬("*/" : Text) <:+: body := fun h => hbody (List.infix_cons h)
    cases body with
    | nil =>
      simp [skipGap]
    | cons d body =>
      have hclose : ¬(c = '*' ∧ d = '/') := by
        rintro ⟨rfl, rfl⟩
        exact hbody ⟨[], body, rfl⟩
      have ih' := ih htail
      rw [List.cons_append] at ih'
      simp [skipGap, hclose, ih']

/-- **A gap in front** changes nothing. -/
theorem skipGap_append {g : Text} (hg : IsGap g) (rest : Text) :
    skipGap .between (g ++ rest) = skipGap .between rest := by
  induction hg with
  | nil => rfl
  | blank hc _ ih => rw [List.cons_append, skipGap_blank hc, ih]
  | line hbody _ ih =>
    rw [List.cons_append, List.cons_append, List.append_assoc, List.cons_append, skipGap_slashes,
      skipGap_line hbody, ih]
  | block hbody _ ih =>
    rw [List.cons_append, List.cons_append, List.append_assoc, List.cons_append, List.cons_append,
      skipGap_slashStar, skipGap_block hbody, ih]

/-- A gap that goes to the end of the text leaves nothing. -/
theorem skipGap_tail {tail : Text} (h : IsTail tail) : skipGap .between tail = .ok [] := by
  cases h with
  | gap hg =>
    have := skipGap_append hg []
    rw [List.append_nil] at this
    exact this
  | line hg hbody => rw [skipGap_append hg, skipGap_slashes, skipGap_openLine hbody]

/-! ## What is passed over -/

/-- What may be passed over in front of a text: a gap, or a tail if the text is at its end. -/
def Skipped (g unread : Text) : Prop := IsGap g ∨ unread = [] ∧ IsTail g

theorem Skipped.append {g h unread : Text} (hg : IsGap g) (hh : Skipped h unread) :
    Skipped (g ++ h) unread := by
  obtain hh | ⟨hunread, hh⟩ := hh
  · exact .inl (hg.append hh)
  · refine .inr ⟨hunread, ?_⟩
    cases hh with
    | gap hh => exact .gap (hg.append hh)
    | line hh hbody =>
      rw [← List.append_assoc]
      exact .line (hg.append hh) hbody

/-- What has been passed over when a text is left unread, by where the reader stood: the rest of a
comment, and what is skipped behind it. -/
def Passed : Gap → Text → Text → Prop
  | .between, text, unread => ∃ g, text = g ++ unread ∧ Skipped g unread
  | .line, text, unread =>
    (∃ body g, text = body ++ ('\n' : CodePoint) :: (g ++ unread) ∧ ('\n' : CodePoint) ∉ body ∧
      Skipped g unread) ∨
    ('\n' : CodePoint) ∉ text ∧ unread = []
  | .block _, text, unread =>
    ∃ body g, text = body ++ ('*' : CodePoint) :: '/' :: (g ++ unread) ∧ ¬("*/" : Text) <:+: body ∧
      Skipped g unread

/-- What is skipped behind the two slashes of a comment makes a gap with them. -/
theorem Passed.slashes {text unread : Text} (h : Passed .line text unread) :
    Passed .between ('/' :: '/' :: text) unread := by
  obtain ⟨body, g, rfl, hbody, hg⟩ | ⟨hbody, rfl⟩ := h
  · refine ⟨(('/' : CodePoint) :: '/' :: (body ++ [('\n' : CodePoint)])) ++ g, ?_,
      .append (.line hbody .nil) hg⟩
    simp
  · exact ⟨'/' :: '/' :: text, by simp, .inr ⟨rfl, .line .nil hbody⟩⟩

/-- What is skipped behind the opening of a block comment makes a gap with it. -/
theorem Passed.slashStar {text unread opening : Text} (h : Passed (.block opening) text unread) :
    Passed .between ('/' :: '*' :: text) unread := by
  obtain ⟨body, g, rfl, hbody, hg⟩ := h
  refine ⟨(('/' : CodePoint) :: '*' :: (body ++ [('*' : CodePoint), '/'])) ++ g, ?_,
    .append (.block hbody .nil) hg⟩
  simp

theorem skipGap_passed (gap : Gap) (text : Text) {unread : Text}
    (h : skipGap gap text = .ok unread) : Passed gap text unread := by
  fun_induction skipGap gap text with
  | case1 c d rest hc ih =>
    obtain ⟨g, hg, hskipped⟩ := ih h
    exact ⟨c :: g, by rw [hg, List.cons_append], .append (.blank hc .nil) hskipped⟩
  | case2 c d rest _ hcd ih =>
    simp only [Bool.and_eq_true, decide_eq_true_eq] at hcd
    obtain ⟨rfl, rfl⟩ := hcd
    exact .slashes (ih h)
  | case3 c d rest _ _ hcd ih =>
    simp only [Bool.and_eq_true, decide_eq_true_eq] at hcd
    obtain ⟨rfl, rfl⟩ := hcd
    exact .slashStar (ih h)
  | case4 c d rest | case6 c =>
    cases h
    exact ⟨[], rfl, .inl .nil⟩
  | case5 c hc =>
    cases h
    exact ⟨[c], rfl, .inl (.blank hc .nil)⟩
  | case7 rest ih =>
    obtain ⟨g, hg, hskipped⟩ := ih h
    exact .inl ⟨[], g, by rw [hg, List.nil_append], by simp, hskipped⟩
  | case8 c rest hc ih =>
    obtain ⟨body, g, hg, hbody, hskipped⟩ | ⟨hbody, hunread⟩ := ih h
    · refine .inl ⟨c :: body, g, by rw [hg, List.cons_append], ?_, hskipped⟩
      simp [hbody, Ne.symm hc]
    · refine .inr ⟨?_, hunread⟩
      simp [hbody, Ne.symm hc]
  | case9 opening c d rest hcd ih =>
    simp only [Bool.and_eq_true, decide_eq_true_eq] at hcd
    obtain ⟨rfl, rfl⟩ := hcd
    obtain ⟨g, hg, hskipped⟩ := ih h
    exact ⟨[], g, by rw [hg, List.nil_append], by decide, hskipped⟩
  | case10 opening c d rest hcd ih =>
    simp only [Bool.and_eq_true, decide_eq_true_eq] at hcd
    obtain ⟨body, g, hg, hbody, hskipped⟩ := ih h
    refine ⟨c :: body, g, by rw [hg, List.cons_append], ?_, hskipped⟩
    -- The only new place for the closing is the front, where `c` and `d` stand.
    rw [List.infix_cons_iff, not_or]
    refine ⟨fun ⟨rest', hclose⟩ => hcd ?_, hbody⟩
    obtain ⟨rfl, rfl⟩ : ('*' : CodePoint) = c ∧ ('/' : CodePoint) :: rest' = body :=
      List.cons.inj hclose
    exact ⟨rfl, (List.cons.inj hg).1⟩
  | case11 | case12 => cases h
  | case13 =>
    cases h
    exact ⟨[], rfl, .inl .nil⟩
  | case14 =>
    cases h
    exact .inr ⟨by simp, rfl⟩

/-- **What is passed over** is a gap, which at the end of the text may be a tail. -/
theorem skipGap_sound {text unread : Text} (h : skipGap .between text = .ok unread) :
    ∃ g, text = g ++ unread ∧ Skipped g unread :=
  skipGap_passed .between text h

/-! ## The next token -/

theorem next_append {g : Text} (hg : IsGap g) {c : CodePoint} (hc : isBlank c = false)
    (hslash : c ≠ '/') (rest : Text) : next (g ++ c :: rest) = .ok (c, rest) := by
  unfold next
  rw [skipGap_append hg, skipGap_token hc hslash]
  rfl

theorem next_sound {text rest : Text} {c : CodePoint} (h : next text = .ok (c, rest)) :
    ∃ g, text = g ++ c :: rest ∧ IsGap g := by
  obtain ⟨unread, hunread, h⟩ := Outcome.bind_eq_ok.mp h
  cases unread with
  | nil => cases h
  | cons d unread =>
    cases h
    obtain ⟨g, hg, hskipped | ⟨hnil, -⟩⟩ := skipGap_sound hunread
    · exact ⟨g, hg, hskipped⟩
    · cases hnil

end TagAudit.Literal
