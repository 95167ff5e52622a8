import TagAudit.Proofs.Pattern.Matching
import TagAudit.Proofs.Source.Balanced
import TagAudit.Proofs.Text.Runs
import TagAudit.Source.Locate

/-!
# Sites of assignments

The patterns of assignments are words with blanks between them and an opening brace at the end. A
site is a place in a source where such words lead up to a brace.

* `Piece`, `Spells`: the words and blanks in front of the brace, and the texts that they spell.
* `takes_sitePattern`: what the pattern takes is what the pieces spell, and the brace.
* `Site`, `FirstSite`: sites of a source, and the first of them.
* `search?_eq_some_iff`: the search finds the first site. There is only one way to read the pieces
  where blanks are never followed by blanks (`isSharp`).
* `Site.disjoint`: sites do not overlap where the code point that the pieces begin with occurs in
  them only once (`beginsOnce`). Then `findSome?_findAll_iff`: the list of matches has all sites.
-/

namespace TagAudit.Source

open Pattern (Takes Place mem_anyOf takes_literal)
open Text (run_unique)

/-! ## Pieces -/

/-- A part of what stands in front of the brace of an assignment. -/
inductive Piece where
  /-- A text as it is. -/
  | word (t : Text)
  /-- At least so many blanks. -/
  | blanks (least : Nat)
  /-- A quotation mark. -/
  | mark

/-- The pattern of a piece. -/
def Piece.pattern : Piece → Pattern
  | word t => .literal t
  | blanks least => .many .blanks least none
  | mark => .one (.anyOf "\"'")

/-- The pattern of pieces in front of an opening brace. -/
def sitePattern (head : List Piece) : Pattern :=
  .all (head.map Piece.pattern ++ [.literal "\x7b"])

/-- The texts that pieces spell. -/
inductive Spells : List Piece → Text → Prop where
  | nil : Spells [] []
  | word {w t : Text} {ps : List Piece} : Spells ps t → Spells (.word w :: ps) (w ++ t)
  | blanks {least : Nat} {b t : Text} {ps : List Piece} :
    (∀ c ∈ b, c.isBlank = true) → least ≤ b.length → Spells ps t →
    Spells (.blanks least :: ps) (b ++ t)
  | mark {c : CodePoint} {t : Text} {ps : List Piece} :
    isQuote c = true → Spells ps t → Spells (.mark :: ps) (c :: t)

/-! ## Patterns of pieces -/

theorem mem_blanks {c : CodePoint} : CharClass.blanks.mem c = c.isBlank := by
  simp [CharClass.blanks, CharClass.mem, ClassItem.mem]

theorem mem_marks {c : CodePoint} : (CharClass.anyOf "\"'").mem c = true ↔ isQuote c = true := by
  rw [mem_anyOf, isQuote_iff]
  exact List.mem_pair

/-- **The pattern** of pieces takes what they spell, and a brace. -/
theorem takes_sitePattern {head : List Piece} {x : Place} {t : Text} :
    Takes (sitePattern head) x t ↔
      ∃ lead, Spells head lead ∧ t = lead ++ [('\x7b' : CodePoint)] := by
  unfold sitePattern
  induction head generalizing x t with
  | nil =>
    rw [List.map_nil, List.nil_append, Pattern.all, takes_literal]
    constructor
    · rintro rfl
      exact ⟨[], .nil, rfl⟩
    · rintro ⟨_, ⟨⟩, rfl⟩
      rfl
  | cons piece ps ih =>
    rw [List.map_cons, List.cons_append, Pattern.takes_all_cons]
    simp only [ih]
    constructor
    · rintro ⟨u, _, rfl, hu, lead, hlead, rfl⟩
      rw [← List.append_assoc]
      cases piece with
      | word w =>
        obtain rfl := takes_literal.mp hu
        exact ⟨_, .word hlead, rfl⟩
      | blanks least =>
        obtain ⟨hblank, hleast, -⟩ := hu
        exact ⟨_, .blanks (fun c hc => mem_blanks ▸ hblank c hc) hleast hlead, rfl⟩
      | mark =>
        obtain ⟨c, rfl, hc⟩ := hu
        exact ⟨_, .mark (mem_marks.mp hc) hlead, rfl⟩
    · rintro ⟨lead, hlead, rfl⟩
      cases hlead with
      | @word w t _ ht => exact ⟨w, _, by simp, takes_literal.mpr rfl, t, ht, rfl⟩
      | @blanks least b t _ hb hleast ht =>
        exact ⟨b, _, by simp, ⟨fun c hc => mem_blanks.trans (hb c hc), hleast, by simp⟩, t, ht, rfl⟩
      | @mark c t _ hc ht => exact ⟨[c], _, by simp, ⟨c, rfl, mem_marks.mpr hc⟩, t, ht, rfl⟩

/-! ## The end of pieces -/

/-- Whether a piece begins with something that is no blank. -/
def Piece.isSolid : Piece → Bool
  | word (c :: _) => !c.isBlank
  | word [] => false
  | blanks _ => false
  | mark => true

/-- Whether blanks are followed by something that is no blank, up to the brace. -/
def isSharp : List Piece → Bool
  | .blanks _ :: p :: ps => p.isSolid && isSharp (p :: ps)
  | _ :: ps => isSharp ps
  | [] => true

theorem isBlank_of_isQuote {c : CodePoint} (h : isQuote c = true) : c.isBlank = false := by
  obtain rfl | rfl := isQuote_iff.mp h <;> decide

theorem isSharp_tail {p : Piece} {ps : List Piece} (h : isSharp (p :: ps) = true) :
    isSharp ps = true := by
  cases p with
  | word w => exact h
  | mark => exact h
  | blanks least =>
    cases ps with
    | nil => rfl
    | cons p ps => exact (Bool.and_eq_true_iff.mp h).2

/-- What follows blanks, up to the brace, does not begin with a blank. -/
theorem Spells.head_solid {least : Nat} {ps : List Piece}
    (hsharp : isSharp (.blanks least :: ps) = true) {t : Text} (h : Spells ps t) (rest : Text) :
    ∀ c ∈ (t ++ ('\x7b' : CodePoint) :: rest).head?, c.isBlank = false := by
  cases ps with
  | nil =>
    cases h
    rintro _ ⟨⟩
    decide
  | cons p ps =>
    have hsolid := (Bool.and_eq_true_iff.mp hsharp).1
    cases h with
    | @word w t _ ht =>
      cases w with
      | nil => cases hsolid
      | cons c w =>
        rintro _ ⟨⟩
        simpa [Piece.isSolid] using hsolid
    | blanks => cases hsolid
    | mark hc =>
      rintro _ ⟨⟩
      exact isBlank_of_isQuote hc

/-- **The brace** behind pieces can be in one place only. -/
theorem Spells.unique {head : List Piece} (hsharp : isSharp head = true)
    {lead lead' rest rest' : Text} (h : Spells head lead) (h' : Spells head lead')
    (heq : lead ++ ('\x7b' : CodePoint) :: rest = lead' ++ ('\x7b' : CodePoint) :: rest') :
    lead = lead' := by
  induction h generalizing lead' with
  | nil => cases h'; rfl
  | @word w t ps _ ih =>
    cases h' with
    | word ht' =>
      rw [List.append_assoc, List.append_assoc, List.append_cancel_left_eq] at heq
      rw [ih (isSharp_tail hsharp) ht' heq]
  | @mark c t ps hc _ ih =>
    cases h' with
    | mark _ ht' =>
      obtain ⟨rfl, htail⟩ := List.cons.inj heq
      rw [ih (isSharp_tail hsharp) ht' htail]
  | @blanks least b t ps hb _ ht ih =>
    cases h' with
    | blanks hb' _ ht' =>
      rw [List.append_assoc, List.append_assoc] at heq
      obtain ⟨rfl, htail⟩ := run_unique heq hb hb' (ht.head_solid hsharp rest)
        (ht'.head_solid hsharp rest')
      rw [ih (isSharp_tail hsharp) ht' htail]

/-! ## The beginning of pieces -/

/-- Whether a code point occurs in nothing that a piece spells. -/
def Piece.avoids (c : CodePoint) : Piece → Bool
  | word t => !t.contains c
  | blanks _ => !c.isBlank
  | mark => !isQuote c

/-- Whether pieces begin with a code point that occurs nowhere else in what they spell. -/
def beginsOnce (c : CodePoint) : List Piece → Bool
  | .word (d :: w) :: ps => d = c && !w.contains c && ps.all (Piece.avoids c)
  | _ => false

theorem Spells.avoids {c : CodePoint} {ps : List Piece} (hps : ps.all (Piece.avoids c) = true)
    {t : Text} (h : Spells ps t) : c ∉ t := by
  induction h with
  | nil => exact List.not_mem_nil
  | @word w t ps _ ih =>
    obtain ⟨hw, hps⟩ := Bool.and_eq_true_iff.mp hps
    have hnot : c ∉ w := by simpa [Piece.avoids] using hw
    rw [List.mem_append, not_or]
    exact ⟨hnot, ih hps⟩
  | @mark d t ps hd _ ih =>
    obtain ⟨hc, hps⟩ := Bool.and_eq_true_iff.mp hps
    rw [List.mem_cons, not_or]
    refine ⟨?_, ih hps⟩
    rintro rfl
    simp [Piece.avoids, hd] at hc
  | @blanks least b t ps hb _ _ ih =>
    obtain ⟨hc, hps⟩ := Bool.and_eq_true_iff.mp hps
    rw [List.mem_append, not_or]
    refine ⟨fun hmem => ?_, ih hps⟩
    simp [Piece.avoids, hb c hmem] at hc

theorem Spells.exists_cons {c : CodePoint} {head : List Piece} (hhead : beginsOnce c head = true)
    {lead : Text} (h : Spells head lead) : ∃ t, lead = c :: t ∧ c ∉ t := by
  cases h with
  | nil | blanks | mark => cases hhead
  | @word w t ps ht =>
    cases w with
    | nil => cases hhead
    | cons d w =>
      simp only [beginsOnce, Bool.and_eq_true, decide_eq_true_eq] at hhead
      obtain ⟨⟨rfl, hw⟩, hps⟩ := hhead
      refine ⟨w ++ t, rfl, ?_⟩
      rw [List.mem_append, not_or]
      exact ⟨by simpa using hw, ht.avoids hps⟩

/-! ## Sites -/

/-- Words and blanks that lead up to a brace: what stands before them, they themselves, and the text
from the brace on. -/
structure Site (head : List Piece) (text before lead here : Text) : Prop where
  text_eq : text = before ++ (lead ++ here)
  spells : Spells head lead
  brace : here.head? = some ('\x7b' : CodePoint)

/-- The first site of a text. -/
structure FirstSite (head : List Piece) (text before lead here : Text) : Prop
    extends Site head text before lead here where
  first : ∀ {before' lead' here' : Text}, Site head text before' lead' here' →
    before.length ≤ before'.length

variable {head : List Piece} {text : Text}

theorem Site.unique (hsharp : isSharp head = true) {before before' lead lead' here here' : Text}
    (h : Site head text before lead here) (h' : Site head text before' lead' here')
    (hlen : before.length = before'.length) : before = before' ∧ lead = lead' ∧ here = here' := by
  obtain ⟨rest, rfl⟩ := List.head?_eq_some_iff.mp h.brace
  obtain ⟨rest', rfl⟩ := List.head?_eq_some_iff.mp h'.brace
  obtain ⟨hbefore, htail⟩ := List.append_inj (h.text_eq.symm.trans h'.text_eq) hlen
  obtain rfl := h.spells.unique hsharp h'.spells htail
  exact ⟨hbefore, rfl, List.append_cancel_left htail⟩

theorem Site.shift {before rest lead here : Text} (htext : text = before ++ rest)
    (h : Site head rest [] lead here) : Site head text before lead here :=
  ⟨by rw [htext, h.text_eq, List.nil_append], h.spells, h.brace⟩

/-- **Sites are disjoint** where the code point that the pieces begin with occurs in them only once:
the next site begins behind the brace that the pieces lead up to. -/
theorem Site.disjoint {c : CodePoint} (honce : beginsOnce c head = true) (hbrace : c ≠ '\x7b')
    {before before' lead lead' here here' : Text} (h : Site head text before lead here)
    (h' : Site head text before' lead' here') (hlt : before.length < before'.length) :
    before.length + lead.length < before'.length := by
  obtain ⟨more, rfl, hmore⟩ := h.spells.exists_cons honce
  obtain ⟨more', rfl, -⟩ := h'.spells.exists_cons honce
  obtain ⟨rest, rfl⟩ := List.head?_eq_some_iff.mp h.brace
  have hbegin : text[before'.length]? = some c := by
    rw [h'.text_eq, List.getElem?_append_right (Nat.le_refl _), Nat.sub_self]
    rfl
  have htext : text = (before ++ [c]) ++ ((more ++ [('\x7b' : CodePoint)]) ++ rest) := by
    rw [h.text_eq]
    simp
  rw [htext, List.getElem?_append_right (by simpa using Nat.succ_le_of_lt hlt)] at hbegin
  refine Nat.lt_of_not_le fun hle => ?_
  -- The second site would begin in the pieces of the first one, or with their brace.
  rw [List.getElem?_append_left (by simp at hle ⊢; omega)] at hbegin
  obtain hmem | hmem := List.mem_append.mp (List.mem_of_getElem? hbegin)
  · exact hmore hmem
  · exact hbrace (List.mem_singleton.mp hmem)

/-- **The first site** of a text with no site in front of it, whatever follows. -/
theorem FirstSite.of_append {c : CodePoint} (honce : beginsOnce c head = true) (hbrace : c ≠ '\x7b')
    {before lead here : Text}
    (hbefore : ∀ before' lead' here', ¬Site head before before' lead' here')
    (hlead : Spells head lead) (hhere : here.head? = some ('\x7b' : CodePoint)) :
    FirstSite head (before ++ (lead ++ here)) before lead here := by
  have hsite : Site head (before ++ (lead ++ here)) before lead here := ⟨rfl, hlead, hhere⟩
  refine ⟨hsite, fun {before' lead' here'} hsite' => Nat.le_of_not_lt fun hlt => ?_⟩
  have hend := hsite'.disjoint honce hbrace hsite hlt
  obtain ⟨rest, rfl⟩ := List.head?_eq_some_iff.mp hsite'.brace
  -- An earlier site ends before the pieces begin.
  have hfront : before' ++ (lead' ++ [('\x7b' : CodePoint)]) <+: before := by
    refine List.prefix_of_prefix_length_le ⟨rest, ?_⟩ (List.prefix_append before (lead ++ here)) ?_
    · rw [hsite'.text_eq]
      simp
    · simp only [List.length_append, List.length_singleton]
      omega
  obtain ⟨t, ht⟩ := hfront
  exact hbefore before' lead' (('\x7b' : CodePoint) :: t) ⟨by simp [← ht], hsite'.spells, rfl⟩

/-! ## Matches -/

/-- A match at a place is a site of what follows. -/
theorem site_of_at? {x : Place} {m : Pattern.Match} (h : (sitePattern head).at? x = some m) :
    ∃ lead, Site head x.rest [] lead m.last ∧ m.here = lead ++ m.last ∧
      m.text.length = lead.length + 1 := by
  obtain ⟨-, hhere, ⟨behind, hbehind⟩, htakes⟩ := Pattern.at?_sound h
  obtain ⟨lead, hlead, hm⟩ := takes_sitePattern.mp htakes
  rw [hm, List.append_assoc] at hbehind
  have hlast : m.last = ('\x7b' : CodePoint) :: behind := by
    rw [Pattern.Match.last, hhere, hm, List.length_append, List.length_singleton,
      Nat.add_sub_cancel, ← hbehind, List.drop_left]
    rfl
  rw [hlast]
  exact ⟨lead, ⟨hbehind.symm, hlead, rfl⟩, hhere.trans hbehind.symm, by simp [hm]⟩

/-- A match at a place of a text is a site of the text. -/
theorem at?_eq_some {before rest : Text} (htext : text = before ++ rest) {m : Pattern.Match}
    (h : (sitePattern head).at? ((Place.start text).after before) = some m) :
    ∃ lead, Site head text before lead m.last ∧ m.here = lead ++ m.last := by
  have hrest : ((Place.start text).after before).rest = rest := Place.rest_after_append htext
  obtain ⟨lead, hsite, hhere, -⟩ := site_of_at? h
  rw [hrest] at hsite
  exact ⟨lead, hsite.shift htext, hhere⟩

/-- A place without a match is none. -/
theorem at?_eq_none_iff {before rest : Text} (htext : text = before ++ rest) :
    (sitePattern head).at? ((Place.start text).after before) = none ↔
      ∀ lead here, ¬Site head text before lead here := by
  rw [Pattern.at?_eq_none_iff, Place.rest_after_append htext]
  constructor
  · rintro h lead here ⟨htext', hlead, hbrace⟩
    obtain ⟨behind, rfl⟩ := List.head?_eq_some_iff.mp hbrace
    obtain rfl := List.append_cancel_left (htext.symm.trans htext')
    exact h _ ⟨behind, by simp⟩ (takes_sitePattern.mpr ⟨lead, hlead, rfl⟩)
  · rintro h t ⟨behind, rfl⟩ htakes
    obtain ⟨lead, hlead, rfl⟩ := takes_sitePattern.mp htakes
    exact h lead (('\x7b' : CodePoint) :: behind) ⟨by rw [htext]; simp, hlead, rfl⟩

/-- The search finds nothing in a text without sites. -/
theorem search?_eq_none_iff :
    (sitePattern head).search? text = none ↔
      ∀ before lead here, ¬Site head text before lead here := by
  rw [Pattern.search?_eq_findSome?, List.findSome?_eq_none_iff]
  constructor
  · intro h before lead here hsite
    have hnone := h before ((List.mem_inits _ _).mpr ⟨_, hsite.text_eq.symm⟩)
    exact (at?_eq_none_iff hsite.text_eq).mp hnone lead here hsite
  · intro h before hbefore
    obtain ⟨rest, hrest⟩ := (List.mem_inits _ _).mp hbefore
    exact (at?_eq_none_iff hrest.symm).mpr (h before)

/-- **The search** finds the first site. -/
theorem search?_eq_some_iff (hsharp : isSharp head = true) {lead here : Text} :
    (∃ m, (sitePattern head).search? text = some m ∧ m.last = here ∧ m.here = lead ++ here) ↔
      ∃ before, FirstSite head text before lead here := by
  simp only [Pattern.search?_eq_findSome?, Pattern.findSome?_inits_eq_some_iff]
  constructor
  · rintro ⟨m, ⟨before, ⟨rest, hrest⟩, hm, hfirst⟩, rfl, hhere⟩
    obtain ⟨lead', hsite, hhere'⟩ := at?_eq_some hrest.symm hm
    obtain rfl := List.append_cancel_right (hhere.symm.trans hhere')
    refine ⟨before, hsite, fun {before' lead' here'} hsite' => Nat.le_of_not_lt fun hlt => ?_⟩
    have hnone := hfirst before' ⟨_, hsite'.text_eq.symm⟩ hlt
    exact (at?_eq_none_iff hsite'.text_eq).mp hnone _ _ hsite'
  · rintro ⟨before, hsite⟩
    cases hat : (sitePattern head).at? ((Place.start text).after before) with
    | none => exact absurd hsite.toSite ((at?_eq_none_iff hsite.text_eq).mp hat _ _)
    | some m =>
      obtain ⟨lead', hsite', hhere⟩ := at?_eq_some hsite.text_eq hat
      obtain ⟨-, rfl, rfl⟩ := hsite.toSite.unique hsharp hsite' rfl
      refine ⟨m, ⟨before, ⟨_, hsite.text_eq.symm⟩, hat, ?_⟩, rfl, hhere⟩
      rintro before' ⟨rest, hrest⟩ hlt
      exact (at?_eq_none_iff hrest.symm).mpr fun _ _ h =>
        absurd (hsite.first h) (Nat.not_le.mpr hlt)

/-- No match of the pattern of pieces begins inside another one. -/
theorem separate_sitePattern {c : CodePoint} (honce : beginsOnce c head = true)
    (hbrace : c ≠ '\x7b') : (sitePattern head).Separate := by
  intro x m hm
  obtain ⟨lead, hsite, -, hlen⟩ := site_of_at? hm
  refine ⟨fun hnil => by simp [hnil] at hlen, fun t ht hne hlt => ?_⟩
  cases hat : (sitePattern head).at? (x.after t) with
  | none => rfl
  | some m' =>
    obtain ⟨lead', hsite', -⟩ := site_of_at? hat
    obtain ⟨rest, hrest⟩ := ht.trans (Pattern.at?_sound hm).2.2.1
    rw [Place.rest_after_append hrest.symm] at hsite'
    have hend := hsite.disjoint honce hbrace (hsite'.shift hrest.symm)
      (List.length_pos_iff.mpr hne)
    rw [List.length_nil, Nat.zero_add] at hend
    omega

/-- **All matches** are the sites. What is found with them is what the first site gives for which
there is something. -/
theorem findSome?_findAll_iff {c : CodePoint} (hsharp : isSharp head = true)
    (honce : beginsOnce c head = true) (hbrace : c ≠ '\x7b') {α : Type}
    {f : Pattern.Match → Option α} {P : Text → α → Prop}
    (hf : ∀ m b, f m = some b ↔ P m.last b) {b : α} :
    ((sitePattern head).findAll text).findSome? f = some b ↔
      ∃ before lead here, Site head text before lead here ∧ P here b ∧
        ∀ before' lead' here', Site head text before' lead' here' →
          before'.length < before.length → ∀ other, ¬P here' other := by
  have hnone (m : Pattern.Match) : f m = none ↔ ∀ other, ¬P m.last other := by
    simp only [Option.eq_none_iff_forall_ne_some, ne_eq, hf]
  rw [Pattern.findAll_eq_filterMap (separate_sitePattern honce hbrace), ← List.head?_filterMap,
    List.filterMap_filterMap, List.head?_filterMap, Pattern.findSome?_inits_eq_some_iff]
  simp only [Option.bind_eq_some_iff, Option.bind_eq_none_iff, hf, hnone]
  constructor
  · rintro ⟨before, ⟨rest, hrest⟩, ⟨m, hm, hb⟩, hfirst⟩
    obtain ⟨lead, hsite, -⟩ := at?_eq_some hrest.symm hm
    refine ⟨before, lead, m.last, hsite, hb, fun before' lead' here' hsite' hlt => ?_⟩
    cases hat : (sitePattern head).at? ((Place.start text).after before') with
    | none => exact absurd hsite' ((at?_eq_none_iff hsite'.text_eq).mp hat _ _)
    | some m' =>
      obtain ⟨lead'', hsite'', -⟩ := at?_eq_some hsite'.text_eq hat
      obtain ⟨-, -, rfl⟩ := hsite'.unique hsharp hsite'' rfl
      exact hfirst before' ⟨_, hsite'.text_eq.symm⟩ hlt m' hat
  · rintro ⟨before, lead, here, hsite, hb, hfirst⟩
    cases hat : (sitePattern head).at? ((Place.start text).after before) with
    | none => exact absurd hsite ((at?_eq_none_iff hsite.text_eq).mp hat _ _)
    | some m =>
      obtain ⟨lead', hsite', -⟩ := at?_eq_some hsite.text_eq hat
      obtain ⟨-, -, rfl⟩ := hsite.unique hsharp hsite' rfl
      refine ⟨before, ⟨_, hsite.text_eq.symm⟩, ⟨m, hat, hb⟩, ?_⟩
      rintro before' ⟨rest, hrest⟩ hlt m' hm'
      obtain ⟨lead'', hsite'', -⟩ := at?_eq_some hrest.symm hm'
      exact hfirst _ _ _ hsite'' hlt

end TagAudit.Source
