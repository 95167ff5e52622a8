import TagAudit.Proofs.Literal.Pieces
import TagAudit.Proofs.Literal.Strict

/-!
# Strings with other quotation marks

Normalisation spells single-quoted strings with double quotes. It looks at two neighbours at a time,
never at whole escapes; still no escape is torn apart.

* `respelled_plain`, `respelled_apostrophe`, `respelled_escape`: what becomes of one code point and
  of one escape.
* `stringBody_respelled`: a string stays one string.
* `stringBody_of_respelled`: what a respelled string says as JSON, the string says as a literal,
  unless it holds a code point by its number.
-/

namespace TagAudit.Literal

/-! ## Accumulators -/

theorem bareApostrophes_eq (done t : Text) :
    bareApostrophes done t = done.reverse ++ bareApostrophes [] t := by
  match t with
  | [] => simp [bareApostrophes]
  | [c] => simp [bareApostrophes]
  | c :: d :: rest =>
    rw [bareApostrophes, bareApostrophes]
    split
    · rw [bareApostrophes_eq (d :: done), bareApostrophes_eq [d]]
      simp
    · rw [bareApostrophes_eq (c :: done), bareApostrophes_eq [c]]
      simp

theorem escapeQuotes_eq (odd : Bool) (done t : Text) :
    escapeQuotes odd done t = done.reverse ++ escapeQuotes odd [] t := by
  induction t generalizing odd done with
  | nil => simp [escapeQuotes]
  | cons c t ih =>
    rw [escapeQuotes, escapeQuotes]
    split
    · rw [ih _ (c :: done), ih _ [c]]
      simp
    split
    · rw [ih _ (c :: ('\\' : CodePoint) :: done), ih _ [c, '\\']]
      simp
    · rw [ih _ (c :: done), ih _ [c]]
      simp

theorem bareApostrophes_cons {c : CodePoint} {t : Text}
    (h : c = '\\' → ∀ d ∈ t.head?, d ≠ '\'') :
    bareApostrophes [] (c :: t) = c :: bareApostrophes [] t := by
  cases t with
  | nil => rfl
  | cons d t =>
    have hpair : ¬(decide (c = '\\') && decide (d = '\'')) = true := by
      simpa using fun hc => h hc d rfl
    rw [bareApostrophes, if_neg hpair, bareApostrophes_eq]
    rfl

theorem escapeQuotes_cons {c : CodePoint} (hc : c ≠ '\\') (t : Text) :
    escapeQuotes false [] (c :: t) =
      (if c = '"' then (['\\', '"'] : Text) else [c]) ++ escapeQuotes false [] t := by
  rw [escapeQuotes, if_neg hc]
  by_cases hquote : c = '"'
  · subst hquote
    rw [if_pos (by decide), if_pos rfl, escapeQuotes_eq]
    rfl
  · have : ¬(decide (c = '"') && !false) = true := by simpa using hquote
    rw [if_neg this, if_neg hquote, escapeQuotes_eq]
    rfl

/-- What follows an odd number of backslashes is kept. -/
theorem escapeQuotes_escape (c : CodePoint) (t : Text) :
    escapeQuotes false [] ('\\' :: c :: t) =
      ('\\' : CodePoint) :: c :: escapeQuotes false [] t := by
  rw [escapeQuotes, if_pos rfl, escapeQuotes]
  by_cases hc : c = '\\'
  · rw [if_pos hc, escapeQuotes_eq]
    rfl
  · have : ¬(decide (c = '"') && !!false) = true := by simp
    rw [if_neg hc, if_neg this, escapeQuotes_eq]
    rfl

/-! ## Code points and escapes -/

theorem head_ne_mark {mark : CodePoint} {body : Text} (h : Source.StringBody mark body)
    (hmark : mark ≠ '\\') : ∀ c ∈ body.head?, c ≠ mark := by
  cases h with
  | nil => simp
  | escape c _ =>
    rintro _ ⟨⟩
    exact hmark.symm
  | plain hc _ _ =>
    rintro _ ⟨⟩
    exact hc

theorem respelled_nil (mark : CodePoint) : respelled mark [] = [] := by
  unfold respelled
  split <;> rfl

/-- A double quote that is no mark gets a backslash, and other code points are kept. -/
theorem respelled_plain {mark c : CodePoint} (hmark : isQuote mark = true) (hc : c ≠ mark)
    (hescape : c ≠ '\\') (body : Text) :
    respelled mark (c :: body) =
      (if c = '"' then (['\\', '"'] : Text) else [c]) ++ respelled mark body := by
  obtain rfl | rfl := isQuote_iff.mp hmark
  · have hbare : bareApostrophes [] (c :: body) = c :: bareApostrophes [] body :=
      bareApostrophes_cons fun h => absurd h hescape
    simp only [respelled, if_neg (by decide : ¬('\'' : CodePoint) = '"'), hbare,
      escapeQuotes_cons hescape]
  · simp only [respelled, if_true, if_neg hc]
    rfl

/-- Between apostrophes, an escaped one loses its backslash. -/
theorem respelled_apostrophe (body : Text) :
    respelled '\'' ('\\' :: '\'' :: body) = ('\'' : CodePoint) :: respelled '\'' body := by
  have hbare : bareApostrophes [] ('\\' :: '\'' :: body) =
      ('\'' : CodePoint) :: bareApostrophes [] body := by
    rw [bareApostrophes, if_pos (by decide), bareApostrophes_eq]
    rfl
  simp only [respelled, if_neg (by decide : ¬('\'' : CodePoint) = '"'), hbare]
  rw [escapeQuotes_cons (by decide)]
  rfl

/-- An escape is kept, but for the backslash in front of an apostrophe. -/
theorem respelled_escape {mark : CodePoint} (hmark : isQuote mark = true) {body : Text}
    (hbody : Source.StringBody mark body) (c : CodePoint) :
    ∃ e, respelled mark ('\\' :: c :: body) = e ++ respelled mark body ∧
      (e = [('\\' : CodePoint), c] ∨ e = [('\'' : CodePoint)] ∧ c = '\'') := by
  obtain rfl | rfl := isQuote_iff.mp hmark
  · by_cases hc : c = '\''
    · subst hc
      exact ⟨['\''], respelled_apostrophe body, .inr ⟨rfl, rfl⟩⟩
    · simp only [respelled, if_neg (by decide : ¬('\'' : CodePoint) = '"')]
      -- The string goes on with no apostrophe, so the second code point pairs with nothing either.
      have hbare : bareApostrophes [] ('\\' :: c :: body) =
          ('\\' : CodePoint) :: c :: bareApostrophes [] body := by
        rw [bareApostrophes_cons, bareApostrophes_cons]
        · exact fun _ => head_ne_mark hbody (by decide)
        · rintro - _ ⟨⟩
          exact hc
      refine ⟨['\\', c], ?_, .inl rfl⟩
      rw [hbare, escapeQuotes_escape]
      rfl
  · exact ⟨['\\', c], by simp [respelled], .inl rfl⟩

/-- **A string** stays one string. -/
theorem stringBody_respelled {mark : CodePoint} (hmark : isQuote mark = true) {body : Text}
    (h : Source.StringBody mark body) : Source.StringBody '"' (respelled mark body) := by
  induction h with
  | nil =>
    rw [respelled_nil]
    exact .nil
  | @escape c body hbody ih =>
    obtain ⟨e, he, rfl | ⟨rfl, -⟩⟩ := respelled_escape hmark hbody c
    · rw [he]
      exact .escape c ih
    · rw [he]
      exact .plain (by decide) (by decide) ih
  | @plain c body hc hescape _ ih =>
    rw [respelled_plain hmark hc hescape]
    split
    · exact .escape '"' ih
    · next hquote => exact .plain hquote hescape ih

/-- A string ends at one place only. -/
theorem stringBody_unique {mark : CodePoint} (hmark : mark ≠ '\\') {s s' rest rest' : Text}
    (hs : Source.StringBody mark s) (hs' : Source.StringBody mark s')
    (h : s ++ mark :: rest = s' ++ mark :: rest') : s = s' ∧ rest = rest' := by
  induction hs generalizing s' with
  | nil =>
    cases hs' with
    | nil => exact ⟨rfl, (List.cons.inj h).2⟩
    | escape c _ => exact absurd (List.cons.inj h).1 hmark
    | plain hc _ _ => exact absurd (List.cons.inj h).1.symm hc
  | @escape c t _ ih =>
    cases hs' with
    | nil => exact absurd (List.cons.inj h).1.symm hmark
    | plain _ hc _ => exact absurd (List.cons.inj h).1.symm hc
    | escape d hs' =>
      obtain ⟨-, hpair⟩ := List.cons.inj h
      obtain ⟨rfl, htail⟩ := List.cons.inj hpair
      obtain ⟨rfl, rfl⟩ := ih hs' htail
      exact ⟨rfl, rfl⟩
  | @plain c t hquote hescape _ ih =>
    cases hs' with
    | nil => exact absurd (List.cons.inj h).1 hquote
    | escape d _ => exact absurd (List.cons.inj h).1 hescape
    | plain _ _ hs' =>
      obtain ⟨rfl, htail⟩ := List.cons.inj h
      obtain ⟨rfl, rfl⟩ := ih hs' htail
      exact ⟨rfl, rfl⟩

/-! ## What strings say -/

theorem letters_of_plain {c : CodePoint} (hc : c ≠ '\\') {t : Text} {letters : List Json.Letter}
    (h : Json.Body (c :: t) letters) :
    ∃ more, letters = ⟨c, false⟩ :: more ∧ Json.Body t more ∧ c ≠ '"' ∧ 0x20 ≤ c.val := by
  generalize hs : c :: t = s at h
  cases h with
  | nil => cases hs
  | cons hl hmore =>
    cases hl with
    | plain hquote _ hlow =>
      obtain ⟨rfl, rfl⟩ := List.cons.inj hs
      exact ⟨_, rfl, hmore, hquote, hlow⟩
    | escape _ | number _ _ _ _ _ => exact absurd (List.cons.inj hs).1 hc

theorem letters_of_escape {e : CodePoint} (he : e ≠ 'u') {t : Text} {letters : List Json.Letter}
    (h : Json.Body ('\\' :: e :: t) letters) :
    ∃ c more, letters = ⟨c, false⟩ :: more ∧ Json.Body t more ∧ (e, c) ∈ Json.escapes := by
  generalize hs : ('\\' : CodePoint) :: e :: t = s at h
  cases h with
  | nil => cases hs
  | cons hl hmore =>
    cases hl with
    | plain _ hescape _ => exact absurd (List.cons.inj hs).1.symm hescape
    | escape hmem =>
      obtain ⟨-, htail⟩ := List.cons.inj hs
      obtain ⟨rfl, rfl⟩ := List.cons.inj htail
      exact ⟨_, _, rfl, hmore, hmem⟩
    | number _ _ _ _ _ =>
      obtain ⟨-, htail⟩ := List.cons.inj hs
      exact absurd (List.cons.inj htail).1 he

/-- Whether a string holds a code point by its number. -/
def holdsNumber : Text → Bool
  | c :: d :: rest => if c = '\\' then d = 'u' || holdsNumber rest else holdsNumber (d :: rest)
  | _ => false

theorem holdsNumber_escape (c : CodePoint) (body : Text) :
    holdsNumber ('\\' :: c :: body) = (decide (c = 'u') || holdsNumber body) := by
  rw [holdsNumber, if_pos rfl]

theorem holdsNumber_plain {c : CodePoint} (hc : c ≠ '\\') (body : Text) :
    holdsNumber (c :: body) = holdsNumber body := by
  cases body with
  | nil => rfl
  | cons d body => rw [holdsNumber, if_neg hc]

/-- **What a string says.** As a literal it has the text that it has as JSON with other marks. -/
theorem stringBody_of_respelled {mark : CodePoint} (hmark : isQuote mark = true) {body : Text}
    (h : Source.StringBody mark body) (hnumber : holdsNumber body = false)
    {letters : List Json.Letter} (hletters : Json.Body (respelled mark body) letters) :
    StringBody mark body (Json.joined letters) := by
  have hjoined (c : CodePoint) (more : List Json.Letter) :
      Json.joined (⟨c, false⟩ :: more) = c :: Json.joined more := Json.joined_cons rfl more
  induction h generalizing letters with
  | nil =>
    rw [respelled_nil] at hletters
    generalize hs : ([] : Text) = s at hletters
    cases hletters with
    | nil => exact .nil
    | cons hl _ => cases hl <;> cases hs
  | @plain c body hc hescape _ ih =>
    rw [holdsNumber_plain hescape] at hnumber
    rw [respelled_plain hmark hc hescape] at hletters
    split at hletters
    case isTrue hquote =>
      obtain ⟨d, more, rfl, hmore, hmem⟩ := letters_of_escape (by decide) hletters
      obtain rfl : d = '"' := by simpa [Json.escapes] using hmem
      rw [hjoined, hquote]
      exact .plain (hquote ▸ hc) (by decide) (by decide) (ih hnumber hmore)
    case isFalse =>
      obtain ⟨more, rfl, hmore, -, hlow⟩ := letters_of_plain hescape hletters
      have hline : c ≠ '\n' := by
        rintro rfl
        exact absurd hlow (by decide)
      rw [hjoined]
      exact .plain hc hescape hline (ih hnumber hmore)
  | @escape c body hbody ih =>
    rw [holdsNumber_escape, Bool.or_eq_false_iff, decide_eq_false_iff_not] at hnumber
    obtain ⟨e, he, rfl | ⟨rfl, rfl⟩⟩ := respelled_escape hmark hbody c
    · rw [he] at hletters
      obtain ⟨d, more, rfl, hmore, hmem⟩ := letters_of_escape hnumber.1 hletters
      rw [hjoined]
      exact .escape (Json.escape_of_mem hmem) (ih hnumber.2 hmore)
    · rw [he] at hletters
      obtain ⟨more, rfl, hmore, -⟩ := letters_of_plain (by decide) hletters
      have hitself : Escape ['\''] ['\''] :=
        .itself (by simp [controlEscapes]) (by decide) (by decide) (by decide)
      rw [hjoined]
      exact .escape hitself (ih hnumber.2 hmore)

end TagAudit.Literal
