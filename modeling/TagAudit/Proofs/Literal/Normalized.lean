import Mathlib.Data.List.Infix
import TagAudit.Proofs.Literal.Image

/-!
# Literals read after normalisation

The second tier normalises a text and reads it as JSON. What it reads there, the permissive reader
reads in the text itself, with the same value, as long as normalisation leaves the text what it is:
it joins no two tokens by dropping a comment, and drops no comma that stands for an item.

* `Kept`: a text beside its image; `Follows`: a reader of texts follows a reader of their images.
* `items_follow`, `entries_follow`: arrays and objects.
* `follows_value`: values, by induction on how deep they may be nested.
* `read_normalized`: whole texts.
-/

namespace TagAudit.Literal

open Json (IsBlanks Ends IsStart)

/-! ## Texts and their images, side by side -/

/-- A text with its pieces, none of which normalisation spoils. -/
structure Kept (t : Text) (pieces : List Piece) : Prop where
  lexes : Lexes t pieces
  whole : Whole pieces
  shared : Shared pieces

theorem Kept.suffix {t t' : Text} {front rest : List Piece} (h : Kept t (front ++ rest))
    (hlex : Lexes t' rest) : Kept t' rest :=
  ⟨hlex, h.whole.suffix (List.suffix_append _ _), h.shared.suffix (List.suffix_append _ _)⟩

theorem Kept.tail {t t' : Text} {p : Piece} {rest : List Piece} (h : Kept t (p :: rest))
    (hlex : Lexes t' rest) : Kept t' rest :=
  ⟨hlex, h.whole.suffix (List.suffix_cons _ _), h.shared.suffix (List.suffix_cons _ _)⟩

theorem Between.isGap {c : CodePoint} {g : Text} {front : List Piece} (h : Between c g front)
    (hc : ¬IsCloser c) : IsGap g := by
  cases h with
  | gap hg _ => exact hg
  | comma hcloser _ _ _ => exact absurd hcloser hc

theorem not_isCloser_of_isStart {c : CodePoint} (hc : IsStart c) : ¬IsCloser c := by
  rintro (rfl | rfl)
  · exact hc.1 (by decide)
  · exact hc.1 (by decide)

section

variable {t : Text} {pieces : List Piece} (h : Kept t pieces) {blanks r : Text} {c : CodePoint}
  (hblanks : IsBlanks blanks) (himage : image pieces = blanks ++ c :: r)

include h hblanks himage

/-- The next separator. -/
theorem Kept.separator (hc : Json.isBlank c = false ∧ c ≠ '"') :
    ∃ g t' front rest, t = g ++ c :: t' ∧ pieces = front ++ .code c :: rest ∧ Kept t' rest ∧
      image rest = r ∧ Between c g front := by
  obtain @⟨g, t', front, rest, hbetween, hlex, hvisible, himage₁⟩ :=
    h.lexes.reveals himage hblanks hc.1
  obtain ⟨t'', rest', rfl, rfl, hlex', himage₂⟩ := hlex.code_head hvisible himage₁ hc.2
  exact ⟨g, t'', front, rest', rfl, rfl, (h.suffix hlex).tail hlex', himage₂, hbetween⟩

/-- The next value. -/
theorem Kept.start (hc : IsStart c) :
    ∃ g t' rest, t = g ++ t' ∧ Kept t' rest ∧ Visible rest ∧ image rest = c :: r ∧ IsGap g := by
  obtain @⟨g, t', front, rest, hbetween, hlex, hvisible, himage₁⟩ :=
    h.lexes.reveals himage hblanks hc.isBlank
  exact ⟨g, t', rest, rfl, h.suffix hlex, hvisible, himage₁,
    hbetween.isGap (not_isCloser_of_isStart hc)⟩

end

/-- What stands behind an opening bracket, up to the closing one: no comma is dropped there. -/
theorem Between.isGap_of_leads {c d : CodePoint} {g : Text} {front back : List Piece}
    (h : Between c g front) (hleads : leads (.code d :: (front ++ back)) = false)
    (hd : d = '[' ∨ d = '\x7b') : IsGap g := by
  cases h with
  | gap hg _ => exact hg
  | comma hc hg hfront hg' =>
    have hdrop {front more : List Piece} (hfront : ∀ p ∈ front, p.isGap = true) :
        (front ++ .comma :: more).dropWhile Piece.isGap = .comma :: more := by
      rw [List.dropWhile_append_of_pos hfront]
      rfl
    rw [List.append_assoc, List.cons_append, leads, hdrop hfront] at hleads
    simp only [Bool.or_eq_false_iff, decide_eq_false_iff_not] at hleads
    exact absurd hd (not_or.mpr hleads)

variable {Item Item' : Text → Data → Prop}

/-- Where `Item` has an item at the front of the image, `Item'` has one at the front of the text. -/
def Follows (Item Item' : Text → Data → Prop) : Prop :=
  ∀ {t : Text} {pieces : List Piece} {s r : Text} {v : Data}, Kept t pieces → Visible pieces →
    image pieces = s ++ r → Item s v → Ends r →
    ∃ s' t' rest, t = s' ++ t' ∧ Kept t' rest ∧ image rest = r ∧ Item' s' v

theorem Items.append_gap {g s : Text} {items : List Data} (hg : IsGap g)
    (h : Items Item s items) : Items Item (g ++ s) items := by
  cases h with
  | close hgap =>
    rw [← List.append_assoc]
    exact .close (hg.append hgap)
  | hole hgap hrest =>
    rw [← List.append_assoc]
    exact .hole (hg.append hgap) hrest
  | last hgap hs hafter =>
    rw [← List.append_assoc]
    exact .last (hg.append hgap) hs hafter
  | item hgap hs hafter hrest =>
    rw [← List.append_assoc]
    exact .item (hg.append hgap) hs hafter hrest

theorem Entries.append_gap {g s : Text} {entries : List (Text × Data)} (hg : IsGap g)
    (h : Entries Item s entries) : Entries Item (g ++ s) entries := by
  cases h with
  | close hgap =>
    rw [← List.append_assoc]
    exact .close (hg.append hgap)
  | last hgap hk hafterKey hbefore hs hafter =>
    rw [← List.append_assoc]
    exact .last (hg.append hgap) hk hafterKey hbefore hs hafter
  | member hgap hk hafterKey hbefore hs hafter hrest =>
    rw [← List.append_assoc]
    exact .member (hg.append hgap) hk hafterKey hbefore hs hafter hrest

/-! ## Arrays -/

/-- **Items** of the image, behind an opening bracket. -/
theorem items_follow {x r : Text} {items : List Data} (hitems : Json.Items Item x items)
    (hstart : Json.StartsWell Item) (hitem : Follows Item Item') {t : Text} {pieces : List Piece}
    (h : Kept t pieces) (hvisible : Visible pieces) (himage : image pieces = x ++ r) :
    ∃ s t' rest, t = s ++ t' ∧ Kept t' rest ∧ image rest = r ∧ Items Item' s items := by
  induction hitems generalizing t pieces with
  | @last s after v hs hafter =>
    simp only [List.append_assoc, List.cons_append, List.nil_append] at himage
    obtain ⟨s', t₁, rest₁, rfl, h₁, himage₁, hs'⟩ :=
      hitem h hvisible himage hs (hafter.ends (.cons (by decide) r))
    obtain ⟨g, t₂, front, rest₂, rfl, rfl, h₂, himage₂, hbetween⟩ :=
      h₁.separator hafter himage₁ (by decide)
    refine ⟨s' ++ (g ++ [(']' : CodePoint)]), t₂, rest₂, by simp, h₂, himage₂, ?_⟩
    cases hbetween with
    | gap hg _ => exact .last .nil hs' hg
    | comma _ hg _ hg' =>
      have hclose : Items Item' _ [] := .close hg'
      simpa using Items.item .nil hs' hg hclose
  | @item s after before more v items hs hafter hbefore hmore ih =>
    simp only [List.append_assoc, List.cons_append] at himage
    obtain ⟨s', t₁, rest₁, rfl, h₁, himage₁, hs'⟩ :=
      hitem h hvisible himage hs (hafter.ends (.cons (by decide) _))
    obtain ⟨g, t₂, front, rest₂, rfl, rfl, h₂, himage₂, hbetween⟩ :=
      h₁.separator hafter himage₁ (by decide)
    have hg : IsGap g := hbetween.isGap (by simp [IsCloser])
    obtain ⟨c, tail, hc, hcstart⟩ := hmore.exists_cons hstart
    rw [hc, List.cons_append] at himage₂
    obtain ⟨g', t₃, rest₃, rfl, h₃, hvisible₃, himage₃, hg'⟩ := h₂.start hbefore himage₂ hcstart
    rw [← List.cons_append, ← hc] at himage₃
    obtain ⟨s'', t₄, rest₄, rfl, h₄, himage₄, hitems'⟩ := ih h₃ hvisible₃ himage₃
    refine ⟨_, t₄, rest₄, ?_, h₄, himage₄, .item .nil hs' hg (hitems'.append_gap hg')⟩
    simp

/-! ## Objects -/

/-- A member of the image. -/
theorem entry_follows {x r : Text} {e : Text × Data} (he : Json.Entry .extended Item x e)
    (hstart : Json.StartsWell Item) (hitem : Follows Item Item') {t : Text} {pieces : List Piece}
    (h : Kept t pieces) (hvisible : Visible pieces) (himage : image pieces = x ++ r)
    (hr : Ends r) :
    ∃ k afterKey before s t' rest,
      t = k ++ (afterKey ++ (':' : CodePoint) :: (before ++ (s ++ t'))) ∧ Kept t' rest ∧
      image rest = r ∧ Key k e.1 ∧ IsGap afterKey ∧ IsGap before ∧ Item' s e.2 := by
  obtain ⟨hk, rfl, hafterKey, hbefore, hs⟩ := he
  simp only [List.append_assoc, List.cons_append] at himage
  obtain ⟨mark, body, t₁, p, rest₁, rfl, rfl, hmark, hbody, hlex, himage₁⟩ :=
    h.lexes.string_head h.whole h.shared hvisible hk himage
  have h₁ := h.tail hlex
  obtain ⟨g, t₂, front, rest₂, rfl, rfl, h₂, himage₂, hbetween⟩ :=
    h₁.separator hafterKey himage₁ (by decide)
  have hg : IsGap g := hbetween.isGap (by simp [IsCloser])
  obtain ⟨c, tail, rfl, hc⟩ := hstart hs
  obtain ⟨g', t₃, rest₃, rfl, h₃, hvisible₃, himage₃, hg'⟩ := h₂.start hbefore himage₂ hc
  obtain ⟨s', t₄, rest₄, rfl, h₄, himage₄, hs'⟩ := hitem h₃ hvisible₃ himage₃ hs hr
  exact ⟨mark :: (body ++ [mark]), g, g', s', t₄, rest₄, by simp, h₄, himage₄,
    .quoted hmark hbody, hg, hg', hs'⟩

/-- **Members** of the image, behind an opening brace. -/
theorem entries_follow {x r : Text} {entries : List (Text × Data)}
    (hentries : Json.Entries .extended Item x entries) (hstart : Json.StartsWell Item)
    (hitem : Follows Item Item') {t : Text} {pieces : List Piece} (h : Kept t pieces)
    (hvisible : Visible pieces) (himage : image pieces = x ++ r) :
    ∃ s t' rest, t = s ++ t' ∧ Kept t' rest ∧ image rest = r ∧ Entries Item' s entries := by
  induction hentries generalizing t pieces with
  | @last s after e he hafter =>
    simp only [List.append_assoc, List.cons_append, List.nil_append] at himage
    obtain ⟨k, afterKey, before, s', t₁, rest₁, rfl, h₁, himage₁, hk, hafterKey, hbefore, hs'⟩ :=
      entry_follows he hstart hitem h hvisible himage (hafter.ends (.cons (by decide) r))
    obtain ⟨g, t₂, front, rest₂, rfl, rfl, h₂, himage₂, hbetween⟩ :=
      h₁.separator hafter himage₁ (by decide)
    cases hbetween with
    | gap hg _ =>
      refine ⟨_, t₂, rest₂, ?_, h₂, himage₂, .last .nil hk hafterKey hbefore hs' hg⟩
      simp
    | comma _ hg _ hg' =>
      refine ⟨_, t₂, rest₂, ?_, h₂, himage₂,
        .member .nil hk hafterKey hbefore hs' hg (.close hg')⟩
      simp
  | @member s after before more e entries he hafter hbefore hmore ih =>
    simp only [List.append_assoc, List.cons_append] at himage
    obtain ⟨k, afterKey, before', s', t₁, rest₁, rfl, h₁, himage₁, hk, hafterKey, hbefore', hs'⟩ :=
      entry_follows he hstart hitem h hvisible himage (hafter.ends (.cons (by decide) _))
    obtain ⟨g, t₂, front, rest₂, rfl, rfl, h₂, himage₂, hbetween⟩ :=
      h₁.separator hafter himage₁ (by decide)
    have hg : IsGap g := hbetween.isGap (by simp [IsCloser])
    obtain ⟨tail, hquote⟩ := hmore.exists_cons
    rw [hquote, List.cons_append] at himage₂
    obtain ⟨g', t₃, rest₃, rfl, h₃, hvisible₃, himage₃, hg'⟩ :=
      h₂.start hbefore himage₂ (by decide)
    rw [← List.cons_append, ← hquote] at himage₃
    obtain ⟨s'', t₄, rest₄, rfl, h₄, himage₄, hentries'⟩ := ih h₃ hvisible₃ himage₃
    refine ⟨_, t₄, rest₄, ?_, h₄, himage₄,
      .member .nil hk hafterKey hbefore' hs' hg (hentries'.append_gap hg')⟩
    simp

/-! ## Values -/

theorem isTokenPart_of_isDigits {s : Text} (h : Json.IsDigits s) :
    ∀ c ∈ s, isTokenPart c = true := by
  intro c hc
  simp [isTokenPart, h c hc]

theorem isTokenPart_of_number {s : Text} {v : Data} (h : Json.Number s v) :
    ∀ c ∈ s, isTokenPart c = true := by
  have hminus {s : Text} {negative : Bool} (h : Json.Minus s negative) :
      ∀ c ∈ s, isTokenPart c = true := by
    cases h <;> decide
  have hsign {s : Text} {negative : Bool} (h : Sign s negative) :
      ∀ c ∈ s, isTokenPart c = true := by
    cases h <;> decide
  have hfraction {s places : Text} (h : Json.Fraction s places) :
      ∀ c ∈ s, isTokenPart c = true := by
    cases h with
    | none => simp
    | some hplaces _ => exact List.forall_mem_cons.mpr ⟨by decide, isTokenPart_of_isDigits hplaces⟩
  have hpower {s : Text} {power : Option Int} (h : Json.Power s power) :
      ∀ c ∈ s, isTokenPart c = true := by
    cases h with
    | none => simp
    | some hmark hs hdigits _ =>
      refine List.forall_mem_cons.mpr ⟨?_, List.forall_mem_append.mpr
        ⟨hsign hs, isTokenPart_of_isDigits hdigits⟩⟩
      rcases hmark with rfl | rfl <;> decide
  cases h with
  | whole hm hdigits _ =>
    exact List.forall_mem_append.mpr ⟨hminus hm, isTokenPart_of_isDigits hdigits.digits⟩
  | real hm hdigits hf hp _ =>
    refine List.forall_mem_append.mpr ⟨hminus hm, List.forall_mem_append.mpr ⟨?_, ?_⟩⟩
    · exact isTokenPart_of_isDigits hdigits.digits
    · exact List.forall_mem_append.mpr ⟨hfraction hf, hpower hp⟩

/-- The words that both readers know. -/
theorem mem_keywords_of_shared {s : Text} {v : Data} (h : (s, v) ∈ Json.words) {rest : List Piece}
    (hshared : Shared (s.map .code ++ rest)) : (s, v) ∈ keywords := by
  have hspelled {word : Text} (front : List Piece) :
      spells word (word.map .code ++ rest) = true ∧
        word.map .code ++ rest <:+ front ++ (word.map .code ++ rest) :=
    ⟨List.isPrefixOf_iff_prefix.mpr (List.prefix_append _ _), List.suffix_append _ _⟩
  have hnan (front : List Piece) : ¬Shared (front ++ (("NaN" : Text).map .code ++ rest)) := by
    intro h
    have := (h.words _ (hspelled front).2).1
    rw [(hspelled front).1] at this
    cases this
  have hinfinity (front : List Piece) :
      ¬Shared (front ++ (("Infinity" : Text).map .code ++ rest)) := by
    intro h
    have := (h.words _ (hspelled front).2).2
    rw [(hspelled front).1] at this
    cases this
  simp only [Json.words, List.mem_cons, Prod.mk.injEq, List.not_mem_nil, or_false] at h
  obtain ⟨rfl, rfl⟩ | ⟨rfl, rfl⟩ | ⟨rfl, rfl⟩ | ⟨rfl, rfl⟩ | ⟨rfl, rfl⟩ | ⟨rfl, rfl⟩ := h
  · simp [keywords]
  · simp [keywords]
  · simp [keywords]
  · exact absurd hshared (hnan [])
  · exact absurd hshared (hinfinity [])
  · exact absurd hshared (hinfinity [.code '-'])

/-- **A value** of the image. -/
theorem form_follows (hstart : Json.StartsWell Item) (hitem : Follows Item Item') :
    Follows (Json.Form .extended Item) (Form Item') := by
  intro t pieces x r v h hvisible himage hform _
  cases hform with
  | @text s t letters hs ht =>
    obtain rfl : t = Json.joined letters := ht
    simp only [List.append_assoc, List.cons_append, List.nil_append] at himage
    obtain ⟨mark, body, t', p, rest, rfl, rfl, hmark, hbody, hlex, himage'⟩ :=
      h.lexes.string_head h.whole h.shared hvisible hs himage
    exact ⟨mark :: (body ++ [mark]), t', rest, by simp, h.tail hlex, himage', .text hmark hbody⟩
  | number hnumber =>
    have hparts := isTokenPart_of_number hnumber
    obtain ⟨minus, negative, d, more, hx, -, -⟩ := hnumber.exists_digit
    obtain ⟨t', rest, rfl, rfl, hlex, himage'⟩ :=
      h.lexes.token h.whole hvisible hparts (by simp [hx]) himage
    exact ⟨x, t', rest, rfl, h.suffix hlex, himage', .number hnumber.literal⟩
  | word hword =>
    have hparts : ∀ p ∈ Json.words, (∀ c ∈ p.1, isTokenPart c = true) ∧ p.1 ≠ [] := by decide
    obtain ⟨t', rest, rfl, rfl, hlex, himage'⟩ :=
      h.lexes.token h.whole hvisible (hparts _ hword).1 (hparts _ hword).2 himage
    exact ⟨x, t', rest, rfl, h.suffix hlex, himage',
      .keyword (mem_keywords_of_shared hword h.shared)⟩
  | @emptyArray blanks hblanks =>
    simp only [List.append_assoc, List.cons_append, List.nil_append] at himage
    obtain ⟨t₁, rest₁, rfl, rfl, hlex, himage₁⟩ := h.lexes.code_head hvisible himage (by decide)
    obtain ⟨g, t₂, front, rest₂, rfl, rfl, h₂, himage₂, hbetween⟩ :=
      (h.tail hlex).separator hblanks himage₁ (by decide)
    have hg : IsGap g :=
      hbetween.isGap_of_leads (h.whole.commas _ (List.suffix_refl _)) (.inl rfl)
    exact ⟨'[' :: (g ++ [(']' : CodePoint)]), t₂, rest₂, by simp, h₂, himage₂, .array (.close hg)⟩
  | @array blanks s items hblanks hitems =>
    simp only [List.append_assoc, List.cons_append] at himage
    obtain ⟨t₁, rest₁, rfl, rfl, hlex, himage₁⟩ := h.lexes.code_head hvisible himage (by decide)
    obtain ⟨c, tail, hc, hcstart⟩ := hitems.exists_cons hstart
    rw [hc, List.cons_append] at himage₁
    obtain ⟨g, t₂, rest₂, rfl, h₂, hvisible₂, himage₂, hg⟩ :=
      (h.tail hlex).start hblanks himage₁ hcstart
    rw [← List.cons_append, ← hc] at himage₂
    obtain ⟨s', t₃, rest₃, rfl, h₃, himage₃, hitems'⟩ :=
      items_follow hitems hstart hitem h₂ hvisible₂ himage₂
    exact ⟨'[' :: (g ++ s'), t₃, rest₃, by simp, h₃, himage₃, .array (hitems'.append_gap hg)⟩
  | @emptyObject blanks hblanks =>
    simp only [List.append_assoc, List.cons_append, List.nil_append] at himage
    obtain ⟨t₁, rest₁, rfl, rfl, hlex, himage₁⟩ := h.lexes.code_head hvisible himage (by decide)
    obtain ⟨g, t₂, front, rest₂, rfl, rfl, h₂, himage₂, hbetween⟩ :=
      (h.tail hlex).separator hblanks himage₁ (by decide)
    have hg : IsGap g :=
      hbetween.isGap_of_leads (h.whole.commas _ (List.suffix_refl _)) (.inr rfl)
    exact ⟨'\x7b' :: (g ++ [('\x7d' : CodePoint)]), t₂, rest₂, by simp, h₂, himage₂,
      .object (.close hg) (Members.merged_iff.mpr rfl)⟩
  | @object blanks s entries members hblanks hentries hmembers =>
    simp only [List.append_assoc, List.cons_append] at himage
    obtain ⟨t₁, rest₁, rfl, rfl, hlex, himage₁⟩ := h.lexes.code_head hvisible himage (by decide)
    obtain ⟨tail, hquote⟩ := hentries.exists_cons
    rw [hquote, List.cons_append] at himage₁
    obtain ⟨g, t₂, rest₂, rfl, h₂, hvisible₂, himage₂, hg⟩ :=
      (h.tail hlex).start hblanks himage₁ (by decide)
    rw [← List.cons_append, ← hquote] at himage₂
    obtain ⟨s', t₃, rest₃, rfl, h₃, himage₃, hentries'⟩ :=
      entries_follow hentries hstart hitem h₂ hvisible₂ himage₂
    exact ⟨'\x7b' :: (g ++ s'), t₃, rest₃, by simp, h₃, himage₃,
      .object (hentries'.append_gap hg) hmembers⟩

theorem follows_value (depth : Nat) : Follows (Json.Value .extended depth) (Value depth) := by
  induction depth with
  | zero => exact fun _ _ _ h => h.elim
  | succ depth ih =>
    have hstart : Json.StartsWell (Json.Value .extended depth) :=
      Json.startsWell_value (fun _ h => h) depth
    exact @form_follows (Json.Value .extended depth) (Value depth) hstart ih

/-! ## Whole texts -/

/-- What makes nothing but blanks is what may stand at the end of a text. -/
theorem Lexes.isTail {t : Text} {pieces : List Piece} (h : Lexes t pieces) (hwhole : Whole pieces)
    (hblanks : IsBlanks (image pieces)) : IsTail t := by
  have hquote {s : Text} : ¬IsBlanks ('"' :: s) := fun h => by
    have := h '"' List.mem_cons_self
    exact absurd this (by decide)
  have append {g t : Text} (hg : IsGap g) (ht : IsTail t) : IsTail (g ++ t) := by
    cases ht with
    | gap hgap => exact .gap (hg.append hgap)
    | line hgap hbody =>
      rw [← List.append_assoc]
      exact .line (hg.append hgap) hbody
  induction h with
  | nil => exact .gap .nil
  | @code c t pieces _ _ _ _ ih =>
    obtain ⟨hc, hrest⟩ := List.forall_mem_cons.mp hblanks
    have hgap : IsGap [c] := IsBlanks.isGap fun e he => List.mem_singleton.mp he ▸ hc
    exact append hgap (ih (hwhole.suffix (List.suffix_cons _ _)) hrest)
  | comma hcloses hlex _ =>
    obtain ⟨blanks, c, t', rest, -, rfl, -, -, hc⟩ := hlex.of_closes hcloses
    have hblank : Json.isBlank c = true := hblanks c (by simp [Piece.image])
    rcases hc with rfl | rfl <;> exact absurd hblank (by decide)
  | quoted _ _ _ _ | openString _ | openApostrophe _ => exact absurd hblanks hquote
  | @line body t pieces hbody _ ih =>
    obtain ⟨-, hrest⟩ := List.forall_mem_cons.mp hblanks
    have hgap : IsGap ('/' :: '/' :: (body ++ [('\n' : CodePoint)])) := .line hbody .nil
    simpa using append hgap (ih (hwhole.suffix (List.suffix_cons _ _)) hrest)
  | @block body t pieces hbody _ ih =>
    have hgap : IsGap ('/' :: '*' :: (body ++ [('*' : CodePoint), '/'])) := .block hbody .nil
    simpa using append hgap (ih (hwhole.suffix (List.suffix_cons _ _)) hblanks)
  | openLine hbody => exact .line .nil hbody
  | @openBlock body _ => exact absurd List.mem_cons_self (hwhole.ends body).2

/-- What the image renders, the text renders. -/
theorem Kept.renders {t : Text} {pieces : List Piece} (h : Kept t pieces) {depth : Nat} {v : Data}
    (hrenders : Json.Renders .extended depth (image pieces) v) : Renders depth t v := by
  obtain ⟨before, s, after, himage, hbefore, hs, hafter⟩ := hrenders
  obtain ⟨c, tail, rfl, hc⟩ := Json.startsWell_value (fun _ h => h) depth hs
  obtain ⟨g, t₁, rest₁, rfl, h₁, hvisible, himage₁, hg⟩ := h.start hbefore himage hc
  obtain ⟨s', t₂, rest₂, rfl, h₂, himage₂, hs'⟩ :=
    follows_value depth h₁ hvisible himage₁ hs (List.append_nil after ▸ hafter.ends .nil)
  exact ⟨g, s', t₂, rfl, hg, hs', h₂.lexes.isTail h₂.whole (himage₂ ▸ hafter)⟩

/-- **The second tier and the third.** If a text that normalisation leaves whole is read after
normalisation, then the permissive reader reads it with the same value, unless it is nested more
deeply than that reader allows. -/
theorem read_normalized {text : Text} {pieces : List Piece} {v : Data} (hlex : Lexes text pieces)
    (hwhole : Whole pieces) (hshared : Shared pieces)
    (hread : Json.read (normalize text) = .ok v) :
    (read text = .ok v ∨ read text = .error .tooDeep) ∧
      (Json.Renders .extended depthLimit (normalize text) v → read text = .ok v) := by
  have h : Kept text pieces := ⟨hlex, hwhole, hshared⟩
  rw [hlex.normalize_eq] at hread ⊢
  refine ⟨?_, fun hrenders => (h.renders hrenders).read_eq_ok⟩
  exact (h.renders (Json.read_eq_ok_iff.mp hread)).read_or_tooDeep

/-- An array with an apostrophe string, a comment and a comma at the end. -/
def sampleArray : Text := "['a', /*b*/[],]"

/-- Its pieces. -/
def samplePieces : List Piece := [
  .code '[', .quoted '\'' "a", .code ',', .code ' ', .block "b", .code '[', .code ']',
  .comma, .code ']']

theorem sampleArray_lexes : Lexes sampleArray samplePieces := by
  have hbody : Source.StringBody '\'' "a" := .plain (by decide) (by decide) .nil
  have hblock : ¬("*/" : Text) <:+: "b" := by decide
  exact .code rfl (by decide) (by decide) (.quoted rfl hbody (.code rfl (by decide) (by decide)
    (.code rfl (by decide) (by decide) (.block hblock (.code rfl (by decide) (by decide)
      (.code rfl (by decide) (by decide) (.comma (by decide)
        (.code rfl (by decide) (by decide) .nil))))))))

/-- Both tiers read the array. -/
theorem sampleArray_read :
    Lexes sampleArray samplePieces ∧ Whole samplePieces ∧ Shared samplePieces ∧
      Json.read (normalize sampleArray) = .ok (.array [.text "a", .array []]) ∧
      (read sampleArray = .ok (.array [.text "a", .array []]) ∨
        read sampleArray = .error .tooDeep) ∧
      (Json.Renders .extended depthLimit (normalize sampleArray) (.array [.text "a", .array []]) →
        read sampleArray = .ok (.array [.text "a", .array []])) := by
  have htokens : ∀ rest ∈ samplePieces.tails, goesOn rest = false := by decide
  have hcommas : ∀ rest ∈ samplePieces.tails, leads rest = false := by decide
  have hwords : ∀ rest ∈ samplePieces.tails,
      spells "NaN" rest = false ∧ spells "Infinity" rest = false := by decide
  have hends : ∀ body, .openApostrophe body ∉ samplePieces ∧ .openBlock body ∉ samplePieces := by
    simp [samplePieces]
  have hwhole : Whole samplePieces :=
    ⟨hends, fun rest h => htokens rest ((List.mem_tails _ _).mpr h),
      fun rest h => hcommas rest ((List.mem_tails _ _).mpr h)⟩
  have hshared : Shared samplePieces := by
    refine ⟨fun mark body hmem => ?_, fun rest h => hwords rest ((List.mem_tails _ _).mpr h)⟩
    simp only [samplePieces, List.mem_cons, reduceCtorEq, List.not_mem_nil, or_false, false_or,
      Piece.quoted.injEq] at hmem
    rw [hmem.2]
    decide
  have hjson : Json.read (normalize sampleArray) = .ok (.array [.text "a", .array []]) := by cbv
  exact ⟨sampleArray_lexes, hwhole, hshared, hjson,
    read_normalized sampleArray_lexes hwhole hshared hjson⟩

/-- What normalisation spoils: a hole in an array, a comment inside a word, a string and a comment
that never end. -/
theorem read_spoiled :
    (Json.read "[,]" = .error (.malformed .expectingValue ",]") ∧
      Json.read (normalize "[,]") = .ok (.array []) ∧ read "[,]" = .ok (.array [.null])) ∧
    (Json.read (normalize "tr/**/ue") = .ok (.bool true) ∧
      read "tr/**/ue" = .error (.malformed (.unsupportedIdentifier "tr") "tr/**/ue")) ∧
    (Json.read (normalize "'abc") = .ok (.text "ab") ∧
      read "'abc" = .error (.malformed .unterminatedString "'abc")) ∧
    (Json.read (normalize "[]/*") = .ok (.array []) ∧
      read "[]/*" = .error (.malformed .unterminatedComment "/*")) := by
  refine ⟨⟨?_, ?_, ?_⟩, ⟨?_, ?_⟩, ⟨?_, ?_⟩, ⟨?_, ?_⟩⟩ <;> cbv

end TagAudit.Literal
