import TagAudit.Proofs.Json.Balanced
import TagAudit.Proofs.Literal.Requoted

/-!
# The image of a text

What stands where in the image of a text, and what in the text itself: behind a blank, a number, a
word or a string of the image stands what it was made from.

* `Whole`, `Shared`: texts whose tokens and items are those of their images.
* `Between`, `Reveals`, `Lexes.reveals`: what blanks are made from.
* `Lexes.token`, `Lexes.string_head`: what numbers, words and strings are made from.
-/

namespace TagAudit.Literal

open Json (IsBlanks)

/-! ## Texts that normalisation leaves what they are -/

/-- Whether a piece is a blank or a comment with more behind it. -/
def Piece.isGap : Piece → Bool
  | code c => Json.isBlank c
  | line _ | block _ => true
  | _ => false

/-- Whether a piece is a comment that leaves no trace. -/
def Piece.isBlock : Piece → Bool
  | block _ => true
  | _ => false

/-- Whether numbers and words are made of a code point. -/
def isTokenPart (c : CodePoint) : Bool :=
  c.isAsciiDigit || c.isAsciiUpper || c.isAsciiLower || c = '+' || c = '-' || c = '.'

/-- Whether a token goes on behind a comment. -/
def goesOn : List Piece → Bool
  | .code c :: .block _ :: rest =>
    match rest.dropWhile Piece.isBlock with
    | .code d :: _ => isTokenPart c && isTokenPart d
    | _ => false
  | _ => false

/-- Whether a dropped comma is the first thing behind an opening bracket. -/
def leads : List Piece → Bool
  | .code c :: rest =>
    match rest.dropWhile Piece.isGap with
    | .comma :: _ => c = '[' || c = '\x7b'
    | _ => false
  | _ => false

/-- Normalisation cuts nothing off, joins no tokens, and drops no comma behind an opening
bracket. -/
structure Whole (pieces : List Piece) : Prop where
  ends : ∀ body, .openApostrophe body ∉ pieces ∧ .openBlock body ∉ pieces
  tokens : ∀ rest, rest <:+ pieces → goesOn rest = false
  commas : ∀ rest, rest <:+ pieces → leads rest = false

/-- Whether a word stands at the front. -/
def spells (word : Text) (pieces : List Piece) : Bool := (word.map Piece.code).isPrefixOf pieces

/-- No string holds a code point by its number, and no word stands for a float that is not
finite. -/
structure Shared (pieces : List Piece) : Prop where
  strings : ∀ mark body, .quoted mark body ∈ pieces → holdsNumber body = false
  words : ∀ rest, rest <:+ pieces → spells "NaN" rest = false ∧ spells "Infinity" rest = false

theorem Whole.suffix {pieces rest : List Piece} (h : Whole pieces) (hrest : rest <:+ pieces) :
    Whole rest :=
  ⟨fun body => ⟨fun hmem => (h.ends body).1 (hrest.subset hmem),
      fun hmem => (h.ends body).2 (hrest.subset hmem)⟩,
    fun more hmore => h.tokens more (hmore.trans hrest),
    fun more hmore => h.commas more (hmore.trans hrest)⟩

theorem Shared.suffix {pieces rest : List Piece} (h : Shared pieces) (hrest : rest <:+ pieces) :
    Shared rest :=
  ⟨fun mark body hmem => h.strings mark body (hrest.subset hmem),
    fun more hmore => h.words more (hmore.trans hrest)⟩

/-! ## Gaps -/

/-- Whether a piece stands for something other than a blank in the image. -/
def Piece.isVisible : Piece → Bool
  | code c => !Json.isBlank c
  | quoted .. | openString _ | openApostrophe _ => true
  | _ => false

/-- The first piece stands for something. -/
def Visible (pieces : List Piece) : Prop := ∃ p ∈ pieces.head?, p.isVisible = true

/-- A closing bracket. -/
def IsCloser (c : CodePoint) : Prop := c = ']' ∨ c = '\x7d'

theorem closes_blank {c : CodePoint} (hc : Json.isBlank c = true) (t : Text) :
    closes (c :: t) = closes t := by
  rcases Json.isBlank_iff.mp hc with rfl | rfl | rfl | rfl <;> rfl

theorem closes_token {c : CodePoint} (hc : Json.isBlank c = false) (t : Text) :
    closes (c :: t) = true ↔ IsCloser c := by
  have hskip : (decide (c = ' ') || decide (c = '\t') || decide (c = '\r') || decide (c = '\n')) =
      false := by
    simp only [Json.isBlank, Bool.or_eq_false_iff] at hc ⊢
    exact ⟨⟨hc.1.1, hc.2⟩, hc.1.2⟩
  unfold closes
  rw [List.dropWhile_cons_of_neg (by simp only [hskip, Bool.false_eq_true, not_false_iff])]
  simp [IsCloser]

theorem closes_eq_false {c : CodePoint} (hblank : Json.isBlank c = false) (hcloser : ¬IsCloser c)
    (t : Text) : closes (c :: t) = false := by
  rw [Bool.eq_false_iff]
  exact fun h => hcloser ((closes_token hblank t).mp h)

theorem closes_cons {c : CodePoint} {t : Text} (h : closes (c :: t) = true) :
    Json.isBlank c = true ∧ closes t = true ∨ IsCloser c := by
  cases hc : Json.isBlank c with
  | true => exact .inl ⟨rfl, closes_blank hc t ▸ h⟩
  | false => exact .inr ((closes_token hc t).mp h)

/-- What a dropped comma stands in front of. -/
theorem Lexes.of_closes {t : Text} {pieces : List Piece} (h : Lexes t pieces)
    (hcloses : closes t = true) :
    ∃ blanks c t' rest, t = blanks ++ c :: t' ∧ pieces = blanks.map .code ++ .code c :: rest ∧
      Lexes (c :: t') (.code c :: rest) ∧ IsBlanks blanks ∧ IsCloser c := by
  -- Only a code point outside strings and comments is a blank or a closing bracket.
  have hfalse {c : CodePoint} {t : Text} (hc : Json.isBlank c = false ∧ ¬IsCloser c) :
      ¬closes (c :: t) = true := by simp [closes_eq_false hc.1 hc.2]
  induction h with
  | nil => cases hcloses
  | @code c t pieces hquote hslash hcomma hlex ih =>
    rcases closes_cons hcloses with ⟨hblank, hcloses⟩ | hcloser
    · obtain ⟨blanks, d, t', rest, rfl, rfl, hlex', hblanks, hd⟩ := ih hcloses
      exact ⟨c :: blanks, d, t', rest, rfl, rfl, hlex',
        List.forall_mem_cons.mpr ⟨hblank, hblanks⟩, hd⟩
    · exact ⟨[], c, t, pieces, rfl, rfl, .code hquote hslash hcomma hlex, by simp [IsBlanks],
        hcloser⟩
  | comma _ _ _ => exact absurd hcloses (hfalse (by simp [IsCloser]; decide))
  | @quoted mark body t pieces hmark _ _ _ =>
    obtain rfl | rfl := isQuote_iff.mp hmark <;>
      exact absurd hcloses (hfalse (by simp [IsCloser]; decide))
  | line _ _ _ | block _ _ _ | openLine _ | openBlock _ | openString _ | openApostrophe _ =>
    exact absurd hcloses (hfalse (by simp [IsCloser]; decide))

/-- What stands in front of `c`: a gap, and a dropped comma in it if `c` closes a bracket. -/
inductive Between (c : CodePoint) : Text → List Piece → Prop where
  | gap {g : Text} {front : List Piece} :
    IsGap g → (∀ p ∈ front, p.isGap = true) → Between c g front
  | comma {g g' : Text} {front back : List Piece} : IsCloser c → IsGap g →
    (∀ p ∈ front, p.isGap = true) → IsGap g' →
    Between c (g ++ (',' : CodePoint) :: g') (front ++ .comma :: back)

theorem Between.cons {c : CodePoint} {g s : Text} {front : List Piece} {p : Piece}
    (h : Between c g front) (hs : IsGap s) (hp : p.isGap = true) :
    Between c (s ++ g) (p :: front) := by
  cases h with
  | gap hg hfront => exact .gap (hs.append hg) (List.forall_mem_cons.mpr ⟨hp, hfront⟩)
  | comma hc hg hfront hg' =>
    rw [← List.append_assoc, ← List.cons_append]
    exact .comma hc (hs.append hg) (List.forall_mem_cons.mpr ⟨hp, hfront⟩) hg'

/-- A text whose image goes on with `c` and `r` behind blanks, cut where `c` comes from. -/
inductive Reveals (c : CodePoint) (r : Text) : Text → List Piece → Prop where
  | mk {g t : Text} {front rest : List Piece} : Between c g front → Lexes t rest → Visible rest →
    image rest = c :: r → Reveals c r (g ++ t) (front ++ rest)

theorem Reveals.cons {c : CodePoint} {r s t : Text} {pieces : List Piece} {p : Piece}
    (h : Reveals c r t pieces) (hs : IsGap s) (hp : p.isGap = true) :
    Reveals c r (s ++ t) (p :: pieces) := by
  obtain ⟨hbetween, hlex, hvisible, himage⟩ := h
  rw [← List.append_assoc, ← List.cons_append]
  exact .mk (hbetween.cons hs hp) hlex hvisible himage

/-- A visible piece is the first thing of the image that is no blank. -/
theorem Lexes.reveals_visible {t blanks r : Text} {p : Piece} {pieces : List Piece} {c : CodePoint}
    (h : Lexes t (p :: pieces)) (hp : p.isVisible = true)
    (hhead : ∀ d ∈ p.image.head?, Json.isBlank d = false) (hne : p.image ≠ [])
    (himage : image (p :: pieces) = blanks ++ c :: r) (hblanks : IsBlanks blanks) :
    Reveals c r t (p :: pieces) := by
  cases blanks with
  | nil =>
    have hbetween : Between c [] [] := .gap .nil (by simp)
    exact .mk hbetween h ⟨p, rfl, hp⟩ himage
  | cons b blanks =>
    obtain ⟨d, more, hd⟩ := List.exists_cons_of_ne_nil hne
    rw [image_cons, hd, List.cons_append, List.cons_append] at himage
    have hblank : Json.isBlank d = true := (List.cons.inj himage).1 ▸ hblanks b List.mem_cons_self
    rw [hhead d (by simp [hd])] at hblank
    cases hblank

/-- A dropped comma stands in front of a closing bracket. -/
theorem Lexes.reveals_comma {t blanks r : Text} {pieces : List Piece} {c : CodePoint}
    (h : Lexes t pieces) (hcloses : closes t = true) (himage : image pieces = blanks ++ c :: r)
    (hblanks : IsBlanks blanks) (hc : Json.isBlank c = false) :
    Reveals c r (',' :: t) (.comma :: pieces) := by
  obtain ⟨blanks', d, t', rest, rfl, rfl, hlex, hblanks', hd⟩ := h.of_closes hcloses
  have hdblank : Json.isBlank d = false := by rcases hd with rfl | rfl <;> decide
  have himage' : blanks' ++ d :: image rest = blanks ++ c :: r := by
    rw [← himage]
    simp [image, Piece.image, List.flatMap_map]
  obtain ⟨rfl, htail⟩ := Text.run_unique himage' hblanks' hblanks
    (by rintro _ ⟨⟩; exact hdblank) (by rintro _ ⟨⟩; exact hc)
  obtain ⟨rfl, rfl⟩ := List.cons.inj htail
  have hbetween : Between d (',' :: blanks') (.comma :: blanks'.map .code) :=
    .comma hd .nil (fun _ h => absurd h List.not_mem_nil) (IsBlanks.isGap hblanks')
  exact .mk hbetween hlex ⟨.code d, rfl, by simp [Piece.isVisible, hdblank]⟩ rfl

/-- **Blanks of the image.** What makes them is a gap, but for one comma. -/
theorem Lexes.reveals {t : Text} {pieces : List Piece} (h : Lexes t pieces) {blanks r : Text}
    {c : CodePoint} (himage : image pieces = blanks ++ c :: r) (hblanks : IsBlanks blanks)
    (hc : Json.isBlank c = false) : Reveals c r t pieces := by
  induction h generalizing blanks with
  | nil => simp at himage
  | @code d t pieces hquote hslash hcomma hlex ih =>
    cases hd : Json.isBlank d with
    | false =>
      exact (Lexes.code hquote hslash hcomma hlex).reveals_visible (by simp [Piece.isVisible, hd])
        (by rintro _ ⟨⟩; exact hd) (List.cons_ne_nil d []) himage hblanks
    | true =>
      have hgap : IsGap [d] := IsBlanks.isGap fun e he => List.mem_singleton.mp he ▸ hd
      cases blanks with
      | nil =>
        obtain ⟨rfl, -⟩ := List.cons.inj himage
        rw [hc] at hd
        cases hd
      | cons b blanks =>
        obtain ⟨rfl, htail⟩ := List.cons.inj himage
        exact (ih htail fun e he => hblanks e (List.mem_cons_of_mem _ he)).cons hgap hd
  | comma hcloses hlex _ => exact hlex.reveals_comma hcloses himage hblanks hc
  | quoted hmark hbody hlex _ =>
    exact (Lexes.quoted hmark hbody hlex).reveals_visible rfl (by rintro _ ⟨⟩; decide)
      (List.cons_ne_nil _ _) himage hblanks
  | openString hbody =>
    exact (Lexes.openString hbody).reveals_visible rfl (by rintro _ ⟨⟩; decide)
      (List.cons_ne_nil _ _) himage hblanks
  | openApostrophe hbody =>
    exact (Lexes.openApostrophe hbody).reveals_visible rfl (by rintro _ ⟨⟩; decide)
      (List.cons_ne_nil _ _) himage hblanks
  | @line body t pieces hbody hlex ih =>
    have hgap : IsGap ('/' :: '/' :: (body ++ [('\n' : CodePoint)])) := .line hbody .nil
    cases blanks with
    | nil =>
      obtain ⟨rfl, -⟩ := List.cons.inj himage
      exact absurd hc (by decide)
    | cons b blanks =>
      obtain ⟨-, htail⟩ := List.cons.inj himage
      simpa using
        (ih htail fun e he => hblanks e (List.mem_cons_of_mem _ he)).cons (p := .line body) hgap rfl
  | @block body t pieces hbody hlex ih =>
    have hgap : IsGap ('/' :: '*' :: (body ++ [('*' : CodePoint), '/'])) := .block hbody .nil
    simpa using (ih himage hblanks).cons (p := .block body) hgap rfl
  | openLine _ | openBlock _ => simp [Piece.image] at himage

/-! ## Tokens -/

theorem Lexes.code_head {t : Text} {pieces : List Piece} (h : Lexes t pieces)
    (hvisible : Visible pieces) {c : CodePoint} {r : Text} (himage : image pieces = c :: r)
    (hc : c ≠ '"') :
    ∃ t' rest, t = c :: t' ∧ pieces = .code c :: rest ∧ Lexes t' rest ∧ image rest = r := by
  obtain ⟨p, hp, hpv⟩ := hvisible
  cases h with
  | nil => cases hp
  | code _ _ _ hlex =>
    obtain ⟨rfl, hr⟩ := List.cons.inj himage
    exact ⟨_, _, rfl, rfl, hlex, hr⟩
  | quoted _ _ _ | openString _ | openApostrophe _ =>
    exact absurd (List.cons.inj himage).1.symm hc
  | comma _ _ | line _ _ | block _ _ | openLine _ | openBlock _ =>
    obtain rfl := Option.some.inj hp
    cases hpv

/-- **A string** of the image is a string of the text, and says the same. -/
theorem Lexes.string_head {t : Text} {pieces : List Piece} (h : Lexes t pieces)
    (hwhole : Whole pieces) (hshared : Shared pieces) (hvisible : Visible pieces) {s r : Text}
    {letters : List Json.Letter}
    (hs : Json.Body s letters)
    (himage : image pieces = ('"' : CodePoint) :: (s ++ ('"' : CodePoint) :: r)) :
    ∃ mark body t' p rest, t = mark :: (body ++ mark :: t') ∧ pieces = p :: rest ∧
      isQuote mark = true ∧ StringBody mark body (Json.joined letters) ∧ Lexes t' rest ∧
      image rest = r := by
  obtain ⟨p, hp, hpv⟩ := hvisible
  cases h with
  | nil => cases hp
  | @code c t pieces hquote _ _ _ =>
    obtain ⟨rfl, -⟩ := List.cons.inj himage
    exact absurd hquote (by decide)
  | @quoted mark body t pieces hmark hbody hlex =>
    have hends : respelled mark body ++ ('"' : CodePoint) :: image pieces =
        s ++ ('"' : CodePoint) :: r := by
      simpa [Piece.image] using himage
    obtain ⟨rfl, hr⟩ :=
      stringBody_unique (by decide) (stringBody_respelled hmark hbody) hs.stringBody hends
    have hnumber : holdsNumber body = false := hshared.strings mark body List.mem_cons_self
    exact ⟨mark, body, t, _, pieces, rfl, rfl, hmark,
      stringBody_of_respelled hmark hbody hnumber hs, hlex, hr⟩
  | @openString body hbody =>
    have hends : body = s ++ ('"' : CodePoint) :: r := by simpa [Piece.image] using himage
    exact absurd hs.stringBody (hbody s r hends)
  | @openApostrophe body _ => exact absurd List.mem_cons_self (hwhole.ends body).1
  | comma _ _ | line _ _ | block _ _ | openLine _ | openBlock _ =>
    obtain rfl := Option.some.inj hp
    cases hpv

theorem not_isTokenPart {c : CodePoint} (h : Json.isBlank c = true ∨ IsCloser c ∨ c = '"') :
    isTokenPart c = false := by
  rcases h with h | (rfl | rfl) | rfl
  · rcases Json.isBlank_iff.mp h with rfl | rfl | rfl | rfl <;> decide
  all_goals decide

/-- What a dropped comma leaves continues no token. -/
theorem Lexes.image_of_closes {t : Text} {pieces : List Piece} (h : Lexes t pieces)
    (hcloses : closes t = true) {d : CodePoint} {r : Text} (himage : image pieces = d :: r) :
    isTokenPart d = false := by
  obtain ⟨blanks, c, t', rest, -, rfl, -, hblanks, hc⟩ := h.of_closes hcloses
  cases blanks with
  | nil =>
    obtain ⟨rfl, -⟩ := List.cons.inj himage
    exact not_isTokenPart (.inr (.inl hc))
  | cons b blanks =>
    obtain ⟨rfl, -⟩ := List.cons.inj himage
    exact not_isTokenPart (.inl (hblanks _ List.mem_cons_self))

/-- Behind comments that leave no trace stands what the image goes on with. -/
theorem Lexes.dropWhile_isBlock {t : Text} {pieces : List Piece} (h : Lexes t pieces)
    {d : CodePoint} {r : Text} (himage : image pieces = d :: r) (hd : isTokenPart d = true) :
    ∃ rest, pieces.dropWhile Piece.isBlock = .code d :: rest := by
  have hne {c : CodePoint} (hc : isTokenPart c = false) : d ≠ c := by
    rintro rfl
    rw [hd] at hc
    cases hc
  induction h with
  | nil => simp at himage
  | code _ _ _ _ _ =>
    obtain ⟨rfl, -⟩ := List.cons.inj himage
    exact ⟨_, rfl⟩
  | comma hcloses hlex _ => exact absurd rfl (hne (hlex.image_of_closes hcloses himage))
  | quoted _ _ _ _ | openString _ | openApostrophe _ | line _ _ _ =>
    exact absurd (List.cons.inj himage).1.symm (hne (by decide))
  | block _ _ ih => exact ih himage
  | openLine _ | openBlock _ => simp [Piece.image] at himage

/-- Behind one part of a token the next one is the next piece. -/
theorem Lexes.visible_of_tokenPart {t : Text} {pieces : List Piece} (h : Lexes t pieces)
    {c d : CodePoint} {r : Text} (hc : isTokenPart c = true) (hd : isTokenPart d = true)
    (himage : image pieces = d :: r) (hwhole : goesOn (.code c :: pieces) = false) :
    Visible pieces := by
  have hdrop := h.dropWhile_isBlock himage hd
  cases h with
  | nil => simp at himage
  | @code e t pieces _ _ _ _ =>
    obtain ⟨rfl, -⟩ := List.cons.inj himage
    have hblank : Json.isBlank e = false := by
      rw [Bool.eq_false_iff]
      intro hblank
      rw [not_isTokenPart (.inl hblank)] at hd
      cases hd
    exact ⟨.code e, rfl, by simp [Piece.isVisible, hblank]⟩
  | quoted _ _ _ | openString _ | openApostrophe _ => exact ⟨_, rfl, rfl⟩
  | comma hcloses hlex =>
    rw [hlex.image_of_closes hcloses himage] at hd
    cases hd
  | line _ _ =>
    obtain ⟨rfl, -⟩ := List.cons.inj himage
    exact absurd hd (by decide)
  | block _ _ =>
    obtain ⟨rest, hrest⟩ := hdrop
    rw [List.dropWhile_cons_of_pos (by rfl)] at hrest
    simp [goesOn, hrest, hc, hd] at hwhole
  | openLine _ | openBlock _ => simp [Piece.image] at himage

/-- **A token** of the image, other than a string, is a token of the text. -/
theorem Lexes.token {t : Text} {pieces : List Piece} (h : Lexes t pieces) (hwhole : Whole pieces)
    (hvisible : Visible pieces) {s r : Text} (hs : ∀ c ∈ s, isTokenPart c = true) (hne : s ≠ [])
    (himage : image pieces = s ++ r) :
    ∃ t' rest, t = s ++ t' ∧ pieces = s.map .code ++ rest ∧ Lexes t' rest ∧ image rest = r := by
  induction s generalizing t pieces with
  | nil => exact absurd rfl hne
  | cons c s ih =>
    obtain ⟨hc, hs⟩ := List.forall_mem_cons.mp hs
    have hquote : c ≠ '"' := by
      rintro rfl
      exact absurd hc (by decide)
    obtain ⟨t', rest, rfl, rfl, hlex, himage'⟩ := h.code_head hvisible himage hquote
    cases s with
    | nil => exact ⟨t', rest, rfl, rfl, hlex, himage'⟩
    | cons d s =>
      have hd : isTokenPart d = true := hs d List.mem_cons_self
      have hnext : Visible rest :=
        hlex.visible_of_tokenPart hc hd himage' (hwhole.tokens _ (List.suffix_refl _))
      obtain ⟨t'', rest', rfl, rfl, hlex', himage''⟩ :=
        ih hlex (hwhole.suffix (List.suffix_cons _ _)) hnext hs (by simp) himage'
      exact ⟨t'', rest', rfl, rfl, hlex', himage''⟩

end TagAudit.Literal
