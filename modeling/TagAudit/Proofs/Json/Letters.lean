import TagAudit.Proofs.Json.Grammar
import TagAudit.Proofs.Literal.Key

/-!
# Reading strings of JSON

The reader takes a string letter by letter. What it has read is a function of the letters alone, and
it is their text with the escaped surrogate pairs joined.

* `absorb`: what one letter does to the code points read so far.
* `readBody_letter`: one letter of a text; `joined_of_absorb`: all letters of a string.
* `Body.readBody_append`, `readBody_sound`: strings.
-/

namespace TagAudit.Json

/-! ## Escapes -/

theorem simpleEscape?_of_mem : ∀ p ∈ escapes, simpleEscape? p.1 = some p.2 ∧ p.1 ≠ 'u' := by
  decide

theorem mem_escapes_of_simpleEscape? {e c : CodePoint} (h : simpleEscape? e = some c) :
    (e, c) ∈ escapes := by
  unfold simpleEscape? at h
  split_ifs at h with he he he he he he he he
  all_goals
    cases h
    subst he
    decide

theorem fourHex?_eq_hexCode? (d₁ d₂ d₃ d₄ : CodePoint) :
    fourHex? d₁ d₂ d₃ d₄ = Literal.hexCode? [d₁, d₂, d₃, d₄] := by
  unfold fourHex? Literal.hexCode?
  simp only [List.mapM_cons, List.mapM_nil]
  cases d₁.hexValue? with
  | none => rfl
  | some => cases d₂.hexValue? with
    | none => rfl
    | some => cases d₃.hexValue? with
      | none => rfl
      | some => cases d₄.hexValue? <;> rfl

theorem fourHex?_eq_some {d₁ d₂ d₃ d₄ c : CodePoint} :
    fourHex? d₁ d₂ d₃ d₄ = some c ↔ Spelling ['\\', 'u', d₁, d₂, d₃, d₄] ⟨c, true⟩ := by
  rw [fourHex?_eq_hexCode?, Literal.hexCode?_long]
  constructor
  · rintro ⟨n₁, n₂, n₃, n₄, h₁, h₂, h₃, h₄, hc⟩
    exact .number h₁ h₂ h₃ h₄ hc
  · rintro (_ | _ | ⟨h₁, h₂, h₃, h₄, hc⟩)
    exact ⟨_, _, _, _, h₁, h₂, h₃, h₄, hc⟩

/-! ## Letters -/

/-- The code points read so far, in reverse, and whether the last of them is an escaped high
surrogate: what they are behind one more letter. -/
def absorb (state : Text × Bool) (l : Letter) : Text × Bool :=
  match state.2 && (l.numbered && l.code.isLowSurrogate), state.1 with
  | true, high :: before => (high.joinSurrogates l.code :: before, false)
  | _, done => (l.code :: done, l.numbered && l.code.isHighSurrogate)

theorem absorb_unnumbered (done : Text) (afterHigh : Bool) (c : CodePoint) :
    absorb (done, afterHigh) ⟨c, false⟩ = (c :: done, false) := by
  simp [absorb]

theorem absorb_single (done : Text) (l : Letter) :
    absorb (done, false) l = (l.code :: done, l.numbered && l.code.isHighSurrogate) := by
  simp [absorb]

/-- **A letter in front.** The string goes on behind it. -/
theorem readBody_letter {s rest : Text} {l : Letter} (h : Spelling s l) (hrest : rest ≠ [])
    (opening done : Text) (afterHigh : Bool) :
    readBody opening done afterHigh (s ++ rest) =
      readBody opening (absorb (done, afterHigh) l).1 (absorb (done, afterHigh) l).2 rest := by
  cases h with
  | @plain c hquote hescape hlow =>
    have hcontrol : ¬c.val < 0x20 := Nat.not_lt.mpr hlow
    rw [List.cons_append, List.nil_append, readBody.eq_def, absorb_unnumbered]
    simp only [if_neg hquote, if_neg hescape, if_neg hcontrol]
  | @escape e c hmem =>
    obtain ⟨hsimple, hu⟩ := simpleEscape?_of_mem _ hmem
    have hescape : ¬('\\' : CodePoint) = '"' := by decide
    rw [List.cons_append, List.cons_append, List.nil_append, readBody.eq_def, absorb_unnumbered]
    simp only [if_neg hescape, if_true, if_neg hu, hsimple]
  | @number d₁ d₂ d₃ d₄ c n₁ n₂ n₃ n₄ h₁ h₂ h₃ h₄ hc =>
    have hcode : fourHex? d₁ d₂ d₃ d₄ = some c :=
      fourHex?_eq_some.mpr (.number h₁ h₂ h₃ h₄ hc)
    have hescape : ¬('\\' : CodePoint) = '"' := by decide
    have hmore : rest.isEmpty = false := by simpa using hrest
    simp only [List.cons_append, List.nil_append]
    rw [readBody.eq_def]
    simp only [if_neg hescape, if_true, hcode, hmore, Bool.false_eq_true, if_false, absorb,
      Bool.true_and]
    cases afterHigh && c.isLowSurrogate with
    | false => rfl
    | true => cases done <;> rfl

/-! ## Joined surrogates -/

theorem joined_cons_cons (high low : Letter) (rest : List Letter) :
    joined (high :: low :: rest) =
      if high.pairsWith low then high.code.joinSurrogates low.code :: joined rest
      else high.code :: joined (low :: rest) := by
  rw [joined]

/-- A letter that is no escaped high surrogate stands for itself. -/
theorem joined_cons {l : Letter} (h : (l.numbered && l.code.isHighSurrogate) = false)
    (rest : List Letter) : joined (l :: rest) = l.code :: joined rest := by
  cases rest with
  | nil => rfl
  | cons low rest =>
    have hpair : l.pairsWith low = false := by simp [Letter.pairsWith, h]
    rw [joined_cons_cons, hpair]
    rfl

/-- The letters that were read, but for one that may be half of a pair. -/
inductive Pending : List Letter → Bool → Prop where
  | none : Pending [] false
  | high {l : Letter} : (l.numbered && l.code.isHighSurrogate) = true → Pending [l] true

/-- **The letters of a string**, with what is pending from the letters in front of them. -/
theorem joined_of_absorb {pending : List Letter} {afterHigh : Bool} (h : Pending pending afterHigh)
    (settled : Text) (letters : List Letter) :
    (letters.foldl absorb (apart pending ++ settled, afterHigh)).1.reverse =
      settled.reverse ++ joined (pending ++ letters) := by
  induction letters generalizing pending afterHigh settled with
  | nil => cases h <;> simp [apart, joined]
  | cons l letters ih =>
    -- A letter that completes no pair is pending itself, or settled.
    have hnext (settled : Text) :
        (letters.foldl absorb (l.code :: settled, l.numbered && l.code.isHighSurrogate)).1.reverse =
          settled.reverse ++ joined (l :: letters) := by
      cases hl : l.numbered && l.code.isHighSurrogate with
      | true => exact ih (.high hl) settled
      | false =>
        have := ih .none (l.code :: settled)
        rw [joined_cons hl]
        simpa [apart] using this
    cases h with
    | none =>
      rw [List.foldl_cons, show apart [] ++ settled = settled from rfl, absorb_single]
      exact hnext settled
    | @high high hhigh =>
      have happly : apart [high] ++ settled = high.code :: settled := rfl
      rw [List.foldl_cons, happly, List.cons_append, List.nil_append, joined_cons_cons,
        Letter.pairsWith, hhigh, Bool.true_and]
      cases hlow : l.numbered && l.code.isLowSurrogate with
      | true =>
        have := ih .none (high.code.joinSurrogates l.code :: settled)
        simpa [absorb, hlow, apart] using this
      | false =>
        have := hnext (high.code :: settled)
        simpa [absorb, hlow] using this

/-! ## Strings -/

theorem Body.readBody_absorb {s : Text} {letters : List Letter} (h : Body s letters)
    (opening done rest : Text) (afterHigh : Bool) :
    readBody opening done afterHigh (s ++ ('"' : CodePoint) :: rest) =
      .ok ((letters.foldl absorb (done, afterHigh)).1.reverse, rest) := by
  induction h generalizing done afterHigh with
  | nil =>
    rw [List.nil_append, readBody.eq_def]
    simp
  | @cons s t l letters hs _ ih =>
    have hrest : t ++ ('"' : CodePoint) :: rest ≠ [] := by simp
    rw [List.append_assoc, readBody_letter hs hrest, ih]
    rfl

/-- **A string in front**, with its closing mark. -/
theorem Body.readString_append {s : Text} {letters : List Letter} (h : Body s letters)
    (rest : Text) :
    readString ('"' :: (s ++ ('"' : CodePoint) :: rest)) = .ok (joined letters, rest) := by
  rw [readString, List.drop_succ_cons, List.drop_zero, h.readBody_absorb]
  have hjoined := joined_of_absorb .none [] letters
  simp only [apart, List.map_nil, List.append_nil, List.nil_append, List.reverse_nil] at hjoined
  rw [hjoined]

/-- **What is read** is a string. -/
theorem readBody_sound {opening text done t rest : Text} {afterHigh : Bool}
    (h : readBody opening done afterHigh text = .ok (t, rest)) :
    ∃ s letters, text = s ++ ('"' : CodePoint) :: rest ∧ Body s letters := by
  fun_induction readBody opening done afterHigh text with
  | case2 =>
    cases h
    exact ⟨[], [], rfl, .nil⟩
  | case6 _ d₁ d₂ d₃ d₄ more code hcode _ _ _ _ _ ih =>
    obtain ⟨s, letters, rfl, hs⟩ := ih h
    exact ⟨_, _, rfl, .cons (fourHex?_eq_some.mp hcode) hs⟩
  | case7 _ _ d₁ d₂ d₃ d₄ more code hcode _ _ _ ih =>
    obtain ⟨s, letters, rfl, hs⟩ := ih h
    exact ⟨_, _, rfl, .cons (fourHex?_eq_some.mp hcode) hs⟩
  | case9 _ _ e afterEscape _ code hcode _ ih =>
    obtain ⟨s, letters, rfl, hs⟩ := ih h
    exact ⟨_, _, rfl, .cons (.escape (mem_escapes_of_simpleEscape? hcode)) hs⟩
  | case12 _ _ c more hquote hescape hlow ih =>
    obtain ⟨s, letters, rfl, hs⟩ := ih h
    exact ⟨_, _, rfl, .cons (.plain hquote hescape (Nat.not_lt.mp hlow)) hs⟩
  | case1 | case3 | case4 | case5 | case8 | case10 | case11 => cases h

/-- **What is read** is a string, with its text. -/
theorem readString_sound {body t rest : Text} (h : readString ('"' :: body) = .ok (t, rest)) :
    ∃ s letters, body = s ++ ('"' : CodePoint) :: rest ∧ Body s letters ∧ t = joined letters := by
  obtain ⟨s, letters, rfl, hs⟩ := readBody_sound h
  rw [hs.readString_append] at h
  cases h
  exact ⟨s, letters, rfl, hs, rfl⟩

end TagAudit.Json
