import TagAudit.Proofs.Literal.Number

/-!
# Reading strings, keys and words

* `readBody_append`, `readBody_sound`: strings.
* `readKey_append`, `readKey_sound`: the keys of members.
* `readKeyword_append`, `readKeyword_sound`: the words that are values.
-/

namespace TagAudit.Literal

open Text (span_run span_sound)

/-! ## Escapes -/

theorem hexValue?_lt {c : CodePoint} {n : Nat} (h : c.hexValue? = some n) : n < 16 := by
  unfold CodePoint.hexValue? CodePoint.isAsciiDigit at h
  grind

theorem ofNat_eq_iff {n : Nat} (hn : n < 0x110000) {c : CodePoint} :
    CodePoint.ofNat n = c ↔ c.val = n := by
  rw [CodePoint.ext_iff, CodePoint.val_ofNat hn, eq_comm]

theorem hexCode?_short {d₁ d₂ c : CodePoint} :
    hexCode? [d₁, d₂] = some c ↔ ∃ n₁ n₂, d₁.hexValue? = some n₁ ∧ d₂.hexValue? = some n₂ ∧
      c.val = 16 * n₁ + n₂ := by
  cases h₁ : d₁.hexValue? with
  | none => simp [hexCode?, h₁]
  | some n₁ =>
    cases h₂ : d₂.hexValue? with
    | none => simp [hexCode?, h₁, h₂]
    | some n₂ =>
      have hn₁ := hexValue?_lt h₁
      have hn₂ := hexValue?_lt h₂
      have hlt : 16 * n₁ + n₂ < 0x110000 := by omega
      simp [hexCode?, h₁, h₂, Numeral.toNat, Nat.mul_comm _ 16, ofNat_eq_iff hlt]

theorem hexCode?_long {d₁ d₂ d₃ d₄ c : CodePoint} :
    hexCode? [d₁, d₂, d₃, d₄] = some c ↔ ∃ n₁ n₂ n₃ n₄, d₁.hexValue? = some n₁ ∧
      d₂.hexValue? = some n₂ ∧ d₃.hexValue? = some n₃ ∧ d₄.hexValue? = some n₄ ∧
      c.val = 16 * (16 * (16 * n₁ + n₂) + n₃) + n₄ := by
  cases h₁ : d₁.hexValue? with
  | none => simp [hexCode?, h₁]
  | some n₁ =>
    cases h₂ : d₂.hexValue? with
    | none => simp [hexCode?, h₁, h₂]
    | some n₂ =>
      cases h₃ : d₃.hexValue? with
      | none => simp [hexCode?, h₁, h₂, h₃]
      | some n₃ =>
        cases h₄ : d₄.hexValue? with
        | none => simp [hexCode?, h₁, h₂, h₃, h₄]
        | some n₄ =>
          have hn₁ := hexValue?_lt h₁
          have hn₂ := hexValue?_lt h₂
          have hn₃ := hexValue?_lt h₃
          have hn₄ := hexValue?_lt h₄
          have hlt : 16 * (16 * (16 * n₁ + n₂) + n₃) + n₄ < 0x110000 := by omega
          simp [hexCode?, h₁, h₂, h₃, h₄, Numeral.toNat, Nat.mul_comm _ 16, ofNat_eq_iff hlt]

theorem simpleEscape_control : ∀ p ∈ controlEscapes,
    simpleEscape p.1 = [p.2] ∧ p.1 ≠ 'x' ∧ p.1 ≠ 'u' := by
  decide

theorem simpleEscape_itself {c : CodePoint} (h : ∀ d, (c, d) ∉ controlEscapes) (hline : c ≠ '\n') :
    simpleEscape c = [c] := by
  have hne {e d : CodePoint} (hmem : (e, d) ∈ controlEscapes) : c ≠ e := by
    rintro rfl
    exact h d hmem
  unfold simpleEscape
  rw [if_neg (hne (d := '\n') (by decide)), if_neg (hne (d := '\t') (by decide)),
    if_neg (hne (d := '\r') (by decide)), if_neg (hne (d := '\x08') (by decide)),
    if_neg (hne (d := '\x0c') (by decide)), if_neg (hne (d := '\x0b') (by decide)),
    if_neg (hne (d := '\x00') (by decide)), if_neg hline]

/-- An escape by a simple code point, in front of a text. -/
theorem readBody_simple {mark e : CodePoint} (hmark : isQuote mark = true) (hx : e ≠ 'x')
    (hu : e ≠ 'u') (opening done rest : Text) :
    readBody opening mark done ('\\' :: e :: rest) =
      readBody opening mark (simpleEscape e ++ done) rest := by
  have hne : ('\\' : CodePoint) ≠ mark := by
    rintro rfl
    revert hmark
    decide
  rw [readBody.eq_def]
  simp only [if_neg hne, if_true, if_neg hu, if_neg hx]

/-- **An escape in front.** -/
theorem Escape.readBody_append {e d : Text} (h : Escape e d) {mark : CodePoint}
    (hmark : isQuote mark = true) (opening done rest : Text) :
    readBody opening mark done ('\\' :: (e ++ rest)) =
      readBody opening mark (d.reverse ++ done) rest := by
  have hne : ('\\' : CodePoint) ≠ mark := by
    rintro rfl
    revert hmark
    decide
  cases h with
  | @control e c hmem =>
    obtain ⟨hsimple, hx, hu⟩ := simpleEscape_control _ hmem
    rw [List.cons_append, List.nil_append, readBody_simple hmark hx hu, hsimple]
    rfl
  | lineEnd =>
    exact readBody_simple hmark (by decide) (by decide) _ _ _
  | @itself c hmem hline hx hu =>
    rw [List.cons_append, List.nil_append, readBody_simple hmark hx hu,
      simpleEscape_itself hmem hline]
    rfl
  | @short d₁ d₂ c n₁ n₂ h₁ h₂ hc =>
    have hcode := hexCode?_short.mpr ⟨n₁, n₂, h₁, h₂, hc⟩
    rw [readBody.eq_def]
    simp [hne, hcode]
  | @long d₁ d₂ d₃ d₄ c n₁ n₂ n₃ n₄ h₁ h₂ h₃ h₄ hc =>
    have hcode := hexCode?_long.mpr ⟨n₁, n₂, n₃, n₄, h₁, h₂, h₃, h₄, hc⟩
    rw [readBody.eq_def]
    simp [hne, hcode]

theorem simpleEscape_sound {e : CodePoint} (hx : e ≠ 'x') (hu : e ≠ 'u') :
    Escape [e] (simpleEscape e) := by
  by_cases hmem : ∃ d, (e, d) ∈ controlEscapes
  · obtain ⟨d, hmem⟩ := hmem
    rw [(simpleEscape_control _ hmem).1]
    exact .control hmem
  · rw [not_exists] at hmem
    by_cases hline : e = '\n'
    · subst hline
      exact .lineEnd
    · rw [simpleEscape_itself hmem hline]
      exact .itself hmem hline hx hu

theorem reverse_simpleEscape (e : CodePoint) : (simpleEscape e).reverse = simpleEscape e := by
  unfold simpleEscape
  repeat' split
  all_goals rfl

/-! ## Strings -/

/-- **A string in front**, with its closing mark. -/
theorem StringBody.readBody_append {mark : CodePoint} {s t : Text} (h : StringBody mark s t)
    (hmark : isQuote mark = true) (opening done rest : Text) :
    readBody opening mark done (s ++ mark :: rest) = .ok (done.reverse ++ t, rest) := by
  induction h generalizing done with
  | nil =>
    rw [List.nil_append, readBody.eq_def]
    simp
  | @plain c s t hc hescape hline _ ih =>
    rw [List.cons_append, readBody.eq_def]
    simp only [if_neg hc, if_neg hescape, if_neg hline]
    rw [ih]
    simp
  | @escape e s d t he _ ih =>
    rw [List.cons_append, List.append_assoc, he.readBody_append hmark, ih]
    simp

/-- **What is read** is a string. -/
theorem readBody_sound {opening text done t rest : Text} {mark : CodePoint}
    (h : readBody opening mark done text = .ok (t, rest)) :
    ∃ s d, text = s ++ mark :: rest ∧ StringBody mark s d ∧ t = done.reverse ++ d := by
  fun_induction readBody opening mark done text with
  | case2 =>
    cases h
    exact ⟨[], [], rfl, .nil, by simp⟩
  | case4 done d₁ d₂ d₃ d₄ more code hcode _ ih =>
    obtain ⟨s, d, rfl, hbody, rfl⟩ := ih h
    obtain ⟨n₁, n₂, n₃, n₄, h₁, h₂, h₃, h₄, hc⟩ := hexCode?_long.mp hcode
    exact ⟨_, _, rfl, .escape (.long h₁ h₂ h₃ h₄ hc) hbody, by simp⟩
  | case7 done d₁ d₂ more code hcode _ _ ih =>
    obtain ⟨s, d, rfl, hbody, rfl⟩ := ih h
    obtain ⟨n₁, n₂, h₁, h₂, hc⟩ := hexCode?_short.mp hcode
    exact ⟨_, _, rfl, .escape (.short h₁ h₂ hc) hbody, by simp⟩
  | case10 done e after hu hx _ ih =>
    obtain ⟨s, d, rfl, hbody, rfl⟩ := ih h
    refine ⟨_, _, rfl, .escape (simpleEscape_sound hx hu) hbody, ?_⟩
    rw [List.reverse_append, reverse_simpleEscape, List.append_assoc]
  | case12 done c after hc hescape hline ih =>
    obtain ⟨s, d, rfl, hbody, rfl⟩ := ih h
    exact ⟨_, _, rfl, .plain hc hescape hline hbody, by simp⟩
  | case1 | case3 | case5 | case6 | case8 | case9 | case11 => cases h

/-! ## Classes of code points -/

theorem isQuote_iff {c : CodePoint} : isQuote c = true ↔ c = '\'' ∨ c = '"' := by
  simp [isQuote]

/-- What some class has and no quotation mark has is no quotation mark. -/
theorem isQuote_eq_false {p : CodePoint → Bool} (hp : p '\'' = false ∧ p '"' = false)
    {c : CodePoint} (hc : p c = true) : isQuote c = false := by
  rw [Bool.eq_false_iff, ne_eq, isQuote_iff]
  rintro (rfl | rfl)
  · simp [hp.1] at hc
  · simp [hp.2] at hc

theorem isQuote_not_mem_stops {c : CodePoint} (hc : isQuote c = true) : c ∉ stops := by
  obtain rfl | rfl := isQuote_iff.mp hc <;> decide

theorem isDigit_of_isDecimal {c : CodePoint} (hc : c.isDecimal = true) : c.isDigit = true := by
  simp [CodePoint.isDigit, hc]

theorem isDigit_of_isWordStart {c : CodePoint} (hc : isWordStart c = true) : c.isDigit = false := by
  have hrange : c.isAsciiDigit = false ∧ c.val < 0x80 := by
    simp only [isWordStart, Bool.or_eq_true, decide_eq_true_eq] at hc
    obtain ((hc | hc) | rfl) | rfl := hc
    · simp only [CodePoint.isAsciiUpper, Bool.and_eq_true, decide_eq_true_eq] at hc
      simp only [CodePoint.isAsciiDigit, Bool.and_eq_false_iff, decide_eq_false_iff_not]
      omega
    · simp only [CodePoint.isAsciiLower, Bool.and_eq_true, decide_eq_true_eq] at hc
      simp only [CodePoint.isAsciiDigit, Bool.and_eq_false_iff, decide_eq_false_iff_not]
      omega
    · decide
    · decide
  have hlow : ¬0x80 ≤ c.val := Nat.not_le.mpr hrange.2
  simp [CodePoint.isDigit, CodePoint.isDecimal, hrange.1, hlow]

/-! ## Keys -/

/-- A key begins with no stop. -/
theorem Key.exists_cons {k key : Text} (h : Key k key) : ∃ c s, k = c :: s ∧ c ∉ stops := by
  cases h with
  | quoted hmark _ => exact ⟨_, _, rfl, isQuote_not_mem_stops hmark⟩
  | number hc _ => exact ⟨_, _, rfl, not_mem_of_class (p := CodePoint.isDecimal) (by decide) hc⟩
  | word hc _ => exact ⟨_, _, rfl, not_mem_of_class (p := isWordStart) (by decide) hc⟩

/-- **A key in front** of something that cannot continue it. -/
theorem Key.readKey_append {c : CodePoint} {s key rest : Text} (h : Key (c :: s) key)
    (hrest : Stops rest) : readKey c (s ++ rest) = .ok (key, rest) := by
  generalize hk : c :: s = k at h
  cases h with
  | @quoted mark body t hmark hbody =>
    cases hk
    rw [readKey, if_pos hmark, List.append_assoc]
    exact hbody.readBody_append hmark _ _ _
  | @number d body magnitude hd hbody =>
    cases hk
    have hquote := isQuote_eq_false (p := CodePoint.isDecimal) (by decide) hd
    have hfound := lexNumber?_append .none hbody hrest
    rw [List.nil_append, List.cons_append] at hfound
    rw [readKey, if_neg (by simp [hquote]), if_pos (isDigit_of_isDecimal hd), hfound]
  | @word d body hd hbody =>
    cases hk
    have hquote := isQuote_eq_false (p := isWordStart) (by decide) hd
    have hword : ∀ e ∈ c :: s, isWordPart e = true := by
      intro e he
      obtain rfl | he := List.mem_cons.mp he
      · simp [isWordPart, hd]
      · exact hbody e he
    have hspan := span_run hword (hrest.head (p := isWordPart) (by decide))
    rw [readKey, if_neg (by simp [hquote]), if_neg (by simp [isDigit_of_isWordStart hd]), if_pos hd]
    exact congrArg _ hspan

/-- **What is read** is a key. -/
theorem readKey_sound {c : CodePoint} {text key rest : Text}
    (h : readKey c text = .ok (key, rest)) :
    ∃ k, c :: text = k ++ rest ∧ Key k key := by
  unfold readKey at h
  split at h
  case isTrue hmark =>
    obtain ⟨s, d, rfl, hbody, rfl⟩ := readBody_sound h
    exact ⟨c :: (s ++ [c]), by simp, .quoted hmark hbody⟩
  case isFalse =>
    split at h
    case isTrue hdigit =>
      split at h
      case h_2 => cases h
      case h_1 token after hfound =>
        cases h
        obtain ⟨negative, magnitude, spelled⟩ := token
        obtain ⟨sign, htext, hsign, hbody⟩ := lexNumber?_sound hfound
        simp only at htext hsign hbody ⊢
        obtain ⟨d, s, rfl, hfirst⟩ := hbody.exists_cons
        -- A digit is no sign and no point.
        have hne {e : CodePoint} (he : e.isDigit = false) : c ≠ e := by
          rintro rfl
          rw [hdigit] at he
          cases he
        cases hsign with
        | none =>
          obtain ⟨rfl, -⟩ := List.cons.inj htext
          have hdecimal : c.isDecimal = true := hfirst.resolve_right (hne (by decide))
          exact ⟨_, htext, .number hdecimal hbody⟩
        | plus => exact absurd (List.cons.inj htext).1 (hne (by decide))
        | minus => exact absurd (List.cons.inj htext).1 (hne (by decide))
    case isFalse =>
      split at h
      case isFalse => cases h
      case isTrue hstart =>
        obtain ⟨htext, hword, hend⟩ := span_sound (Except.ok.inj h)
        cases key with
        | nil =>
          rw [List.nil_append] at htext
          have := hend c (by rw [← htext]; rfl)
          simp [isWordPart, hstart] at this
        | cons d s =>
          obtain ⟨rfl, -⟩ := List.cons.inj htext
          exact ⟨c :: s, htext, .word hstart fun e he => hword e (List.mem_cons_of_mem c he)⟩

/-! ## Words -/

/-- A keyword is a word, and the first entry of the table for it. -/
theorem keyword_spec {s : Text} {v : Data} (h : (s, v) ∈ keywords) :
    (∃ c t, s = c :: t ∧ isWordStart c = true) ∧ (∀ c ∈ s, isWordPart c = true) ∧
      keywords.find? (fun (keyword, _) => decide (keyword = s)) = some (s, v) := by
  simp only [keywords, List.mem_cons, Prod.mk.injEq, List.not_mem_nil, or_false] at h
  obtain ⟨rfl, rfl⟩ | ⟨rfl, rfl⟩ | ⟨rfl, rfl⟩ | ⟨rfl, rfl⟩ | ⟨rfl, rfl⟩ | ⟨rfl, rfl⟩ := h
  all_goals exact ⟨⟨_, _, rfl, by decide⟩, by decide, rfl⟩

/-- **A keyword in front** of something that cannot continue it. -/
theorem readKeyword_append {s rest : Text} {v : Data} (h : (s, v) ∈ keywords) (hrest : Stops rest) :
    readKeyword (s ++ rest) = .ok (v, rest) := by
  obtain ⟨-, hword, hfind⟩ := keyword_spec h
  unfold readKeyword
  rw [span_run hword (hrest.head (by decide))]
  simp only [hfind]

theorem readKeyword_sound {text rest : Text} {v : Data} (h : readKeyword text = .ok (v, rest)) :
    ∃ s, text = s ++ rest ∧ (s, v) ∈ keywords := by
  unfold readKeyword at h
  obtain ⟨word, after, hspan⟩ : ∃ word after, text.span isWordPart = (word, after) := ⟨_, _, rfl⟩
  obtain ⟨rfl, -, -⟩ := span_sound hspan
  rw [hspan] at h
  simp only at h
  split at h
  case h_2 => cases h
  case h_1 keyword value hfind =>
    cases h
    obtain rfl : keyword = word := by simpa using List.find?_some hfind
    exact ⟨_, rfl, List.mem_of_find?_eq_some hfind⟩

end TagAudit.Literal
