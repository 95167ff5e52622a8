import TagAudit.Proofs.Json.Balanced
import TagAudit.Proofs.Literal.Reading
import TagAudit.Proofs.Literal.Requoted

/-!
# Where a literal ends

The end of a literal is found twice: by the permissive reader, which knows what a literal is made
of, and by a scan that counts braces outside strings. The scan knows nothing of comments, so a
quotation mark or a brace in a comment misleads it; nothing else that the reader takes does.

* `Quiet`: no comment among some pieces holds what misleads the scan.
* `CutsOff`: a text whose pieces are its own, whatever stands behind it. Gaps (`IsGap.cutsOff`),
  strings (`StringBody.apart`) and so all literals (`Value.apart`) are.
* `Renders.balanced`: an object with quiet comments is one balanced span.
* `extract_literal`: what the reader takes for an object, the scan finds as a whole.
-/

namespace TagAudit.Literal

open Source (Inside IsPlain)

/-! ## Comments -/

/-- What stands in a comment. -/
def Piece.comment? : Piece → Option Text
  | line body | block body | openLine body | openBlock body => some body
  | _ => none

/-- No comment holds a quotation mark, a backslash or a brace. -/
def Quiet (pieces : List Piece) : Prop :=
  ∀ p ∈ pieces, ∀ body ∈ p.comment?, ∀ c ∈ body, IsPlain c

theorem quiet_cons {p : Piece} {pieces : List Piece} :
    Quiet (p :: pieces) ↔ (∀ body ∈ p.comment?, ∀ c ∈ body, IsPlain c) ∧ Quiet pieces :=
  List.forall_mem_cons

theorem quiet_append {front rest : List Piece} :
    Quiet (front ++ rest) ↔ Quiet front ∧ Quiet rest :=
  List.forall_mem_append

/-! ## The first piece -/

/-- A block comment ends at one place only. -/
theorem block_unique {body body' t t' : Text} (hbody : ¬("*/" : Text) <:+: body)
    (hbody' : ¬("*/" : Text) <:+: body')
    (h : body ++ ('*' : CodePoint) :: '/' :: t = body' ++ ('*' : CodePoint) :: '/' :: t') :
    body = body' ∧ t = t' := by
  -- The longer body would hold the end of the shorter one.
  have longer {body body' more t t' : Text} (hbody' : ¬("*/" : Text) <:+: body')
      (hmore : body' = body ++ more)
      (h : ('*' : CodePoint) :: '/' :: t = more ++ ('*' : CodePoint) :: '/' :: t') :
      body = body' ∧ t = t' := by
    match more with
    | [] =>
      rw [List.append_nil] at hmore
      exact ⟨hmore.symm, (List.cons.inj (List.cons.inj h).2).2⟩
    | [c] => exact absurd (List.cons.inj (List.cons.inj h).2).1 (by decide)
    | c :: d :: more =>
      obtain ⟨rfl, htail⟩ := List.cons.inj h
      obtain ⟨rfl, -⟩ := List.cons.inj htail
      exact absurd ⟨body, more, by rw [hmore, List.append_assoc]; rfl⟩ hbody'
  rcases List.append_eq_append_iff.mp h with ⟨more, hmore, h⟩ | ⟨more, hmore, h⟩
  · exact longer hbody' hmore h
  · obtain ⟨hbodies, htails⟩ := longer hbody hmore h
    exact ⟨hbodies.symm, htails.symm⟩

/-- Outside strings and comments every code point is a piece. -/
theorem Lexes.single {c : CodePoint} {t : Text} {pieces : List Piece} (h : Lexes (c :: t) pieces)
    (hquote : isQuote c = false) (hslash : c ≠ '/') :
    ∃ p rest, pieces = p :: rest ∧ Lexes t rest := by
  cases h with
  | code _ _ _ hlex | comma _ hlex => exact ⟨_, _, rfl, hlex⟩
  | quoted hmark _ _ =>
    rw [hmark] at hquote
    cases hquote
  | line _ _ | block _ _ | openLine _ | openBlock _ => exact absurd rfl hslash
  | openString _ | openApostrophe _ => exact absurd hquote (by decide)

/-- What begins with two slashes is a comment, up to the end of its line or of the text. -/
theorem Lexes.of_slashes {t : Text} {pieces : List Piece} (h : Lexes ('/' :: '/' :: t) pieces) :
    (∃ body t' rest, t = body ++ ('\n' : CodePoint) :: t' ∧ ('\n' : CodePoint) ∉ body ∧
      pieces = .line body :: rest ∧ Lexes t' rest) ∨
    ('\n' : CodePoint) ∉ t ∧ pieces = [.openLine t] := by
  generalize hs : ('/' : CodePoint) :: '/' :: t = s at h
  cases h with
  | nil => cases hs
  | code _ hslash _ _ =>
    obtain ⟨rfl, rfl⟩ := List.cons.inj hs
    exact absurd rfl (hslash rfl '/' rfl).1
  | comma _ _ | openString _ | openApostrophe _ => exact absurd (List.cons.inj hs).1 (by decide)
  | quoted hmark _ _ =>
    obtain ⟨rfl, -⟩ := List.cons.inj hs
    exact absurd hmark (by decide)
  | line hbody hlex =>
    exact .inl ⟨_, _, _, (List.cons.inj (List.cons.inj hs).2).2, hbody, rfl, hlex⟩
  | block _ _ | openBlock _ => exact absurd (List.cons.inj (List.cons.inj hs).2).1 (by decide)
  | openLine hbody =>
    obtain rfl := (List.cons.inj (List.cons.inj hs).2).2
    exact .inr ⟨hbody, rfl⟩

theorem Lexes.line_head {body t : Text} {pieces : List Piece} (hbody : ('\n' : CodePoint) ∉ body)
    (h : Lexes ('/' :: '/' :: (body ++ ('\n' : CodePoint) :: t)) pieces) :
    ∃ rest, pieces = .line body :: rest ∧ Lexes t rest := by
  obtain ⟨body', t', rest, hends, hbody', rfl, hrest⟩ | ⟨hnever, -⟩ := h.of_slashes
  · have inLine {body : Text} (h : ('\n' : CodePoint) ∉ body) :
        ∀ c ∈ body, decide (c ≠ '\n') = true :=
      fun c hc => decide_eq_true fun hline => h (hline ▸ hc)
    obtain ⟨rfl, htail⟩ :=
      Text.run_unique hends (inLine hbody) (inLine hbody') (by simp) (by simp)
    obtain ⟨-, rfl⟩ := List.cons.inj htail
    exact ⟨rest, rfl, hrest⟩
  · exact absurd (by simp) hnever

theorem Lexes.block_head {body t : Text} {pieces : List Piece} (hbody : ¬("*/" : Text) <:+: body)
    (h : Lexes ('/' :: '*' :: (body ++ ('*' : CodePoint) :: '/' :: t)) pieces) :
    ∃ rest, pieces = .block body :: rest ∧ Lexes t rest := by
  generalize hs : ('/' : CodePoint) :: '*' :: (body ++ ('*' : CodePoint) :: '/' :: t) = s at h
  cases h with
  | nil => cases hs
  | code _ hslash _ _ =>
    obtain ⟨rfl, rfl⟩ := List.cons.inj hs
    exact absurd rfl (hslash rfl '*' rfl).2
  | comma _ _ | openString _ | openApostrophe _ => exact absurd (List.cons.inj hs).1 (by decide)
  | quoted hmark _ _ =>
    obtain ⟨rfl, -⟩ := List.cons.inj hs
    exact absurd hmark (by decide)
  | line _ _ | openLine _ => exact absurd (List.cons.inj (List.cons.inj hs).2).1 (by decide)
  | block hbody' hlex =>
    obtain ⟨rfl, rfl⟩ := block_unique hbody hbody' (List.cons.inj (List.cons.inj hs).2).2
    exact ⟨_, rfl, hlex⟩
  | openBlock hbody' =>
    obtain rfl := (List.cons.inj (List.cons.inj hs).2).2
    exact absurd ⟨body, t, by rw [List.append_assoc]; rfl⟩ hbody'

theorem Lexes.quoted_head {mark : CodePoint} {body t : Text} {pieces : List Piece}
    (hmark : isQuote mark = true) (hbody : Source.StringBody mark body)
    (h : Lexes (mark :: (body ++ mark :: t)) pieces) :
    ∃ rest, pieces = .quoted mark body :: rest ∧ Lexes t rest := by
  have hne : mark ≠ '\\' := by rcases isQuote_iff.mp hmark with rfl | rfl <;> decide
  generalize hs : mark :: (body ++ mark :: t) = s at h
  cases h with
  | nil => cases hs
  | code hquote _ _ _ =>
    obtain ⟨rfl, -⟩ := List.cons.inj hs
    rw [hmark] at hquote
    cases hquote
  | comma _ _ | line _ _ | block _ _ | openLine _ | openBlock _ =>
    obtain ⟨rfl, -⟩ := List.cons.inj hs
    exact absurd hmark (by decide)
  | quoted _ hbody' hlex =>
    obtain ⟨rfl, htail⟩ := List.cons.inj hs
    obtain ⟨rfl, rfl⟩ := stringBody_unique hne hbody hbody' htail
    exact ⟨_, rfl, hlex⟩
  | openString hnever | openApostrophe hnever =>
    obtain ⟨rfl, rfl⟩ := List.cons.inj hs
    exact absurd hbody (hnever body t rfl)

/-! ## Texts with pieces of their own -/

/-- Whatever stands behind a text, the pieces of the whole are pieces of the text and pieces of the
rest, and `P` holds if the comments in front are quiet. -/
def CutsOff (s : Text) (P : Prop) : Prop :=
  ∀ t pieces, Lexes (s ++ t) pieces →
    ∃ front rest, pieces = front ++ rest ∧ Lexes t rest ∧ (Quiet front → P)

theorem CutsOff.imp {s : Text} {P Q : Prop} (h : CutsOff s P) (hPQ : P → Q) : CutsOff s Q := by
  intro t pieces hlex
  obtain ⟨front, rest, rfl, hrest, hP⟩ := h _ _ hlex
  exact ⟨front, rest, rfl, hrest, fun hquiet => hPQ (hP hquiet)⟩

theorem CutsOff.append {s s' : Text} {P P' : Prop} (h : CutsOff s P) (h' : CutsOff s' P') :
    CutsOff (s ++ s') (P ∧ P') := by
  intro t pieces hlex
  rw [List.append_assoc] at hlex
  obtain ⟨front, rest, rfl, hrest, hP⟩ := h _ _ hlex
  obtain ⟨front', rest', rfl, hrest', hP'⟩ := h' _ _ hrest
  refine ⟨front ++ front', rest', (List.append_assoc ..).symm, hrest', fun hquiet => ?_⟩
  obtain ⟨hfront, hfront'⟩ := quiet_append.mp hquiet
  exact ⟨hP hfront, hP' hfront'⟩

theorem cutsOff_nil : CutsOff [] True := fun _ _ hlex => ⟨[], _, rfl, hlex, fun _ => trivial⟩

/-- One piece, whatever stands behind it. -/
theorem cutsOff_piece {s : Text} {p : Piece} {P : Prop}
    (hhead : ∀ t pieces, Lexes (s ++ t) pieces → ∃ rest, pieces = p :: rest ∧ Lexes t rest)
    (hP : Quiet [p] → P) : CutsOff s P := by
  intro t pieces hlex
  obtain ⟨rest, rfl, hrest⟩ := hhead t pieces hlex
  exact ⟨[p], rest, rfl, hrest, hP⟩

theorem cutsOff_single {c : CodePoint} (hquote : isQuote c = false) (hslash : c ≠ '/') :
    CutsOff [c] True := by
  intro t pieces hlex
  obtain ⟨p, rest, rfl, hrest⟩ := hlex.single hquote hslash
  exact ⟨[p], rest, rfl, hrest, fun _ => trivial⟩

/-- A text that has pieces of its own, and that stands inside a span if its comments are quiet. -/
def Apart (s : Text) : Prop := CutsOff s (Inside s)

theorem Apart.append {s s' : Text} (h : Apart s) (h' : Apart s') : Apart (s ++ s') :=
  (CutsOff.append h h').imp fun ⟨hs, hs'⟩ => hs.append hs'

/-! ## Bare texts -/

/-- What opens or closes a string, an escape, a span or a comment. -/
def marks : List CodePoint := ['\\', '"', '\'', '\x7b', '\x7d', '/']

theorem isPlain_of_not_mem_marks {c : CodePoint} (hc : c ∉ marks) : IsPlain c := by
  simp only [marks, List.mem_cons, List.not_mem_nil, or_false, not_or] at hc
  obtain ⟨hescape, hdouble, hsingle, hopen, hclose, -⟩ := hc
  exact ⟨hescape, hdouble, hsingle, hopen, hclose⟩

theorem apart_single {c : CodePoint} (hc : c ∉ marks) : Apart [c] := by
  have hplain := isPlain_of_not_mem_marks hc
  have hquote : isQuote c = false := by simp [isQuote, hplain.2.1, hplain.2.2.1]
  have hslash : c ≠ '/' := by
    rintro rfl
    exact hc (by decide)
  exact (cutsOff_single hquote hslash).imp fun _ => .plain hplain .nil

theorem apart_bare {s : Text} (h : ∀ c ∈ s, c ∉ marks) : Apart s := by
  induction s with
  | nil => exact cutsOff_nil.imp fun _ => .nil
  | cons c s ih =>
    obtain ⟨hc, hs⟩ := List.forall_mem_cons.mp h
    exact (apart_single hc).append (ih hs)

/-! ## Gaps -/

/-- **A gap** whose comments are quiet opens and closes nothing. -/
theorem IsGap.cutsOff {gap : Text} (h : IsGap gap) : CutsOff gap (∀ c ∈ gap, IsPlain c) := by
  induction h with
  | nil => exact cutsOff_nil.imp fun _ => by simp
  | @blank c gap hc _ ih =>
    have hbare : c ∉ marks := not_mem_of_class (p := isBlank) (by decide) hc
    have hcut : CutsOff [c] (IsPlain c) :=
      (apart_single hbare).imp fun _ => isPlain_of_not_mem_marks hbare
    exact (hcut.append ih).imp fun ⟨hplain, hgap⟩ => List.forall_mem_cons.mpr ⟨hplain, hgap⟩
  | @line body gap hbody _ ih =>
    have hcut : CutsOff ('/' :: '/' :: (body ++ [('\n' : CodePoint)]))
        (∀ c ∈ body, IsPlain c) :=
      cutsOff_piece (fun t pieces hlex => Lexes.line_head hbody (by simpa using hlex))
        fun hquiet => (quiet_cons.mp hquiet).1 body rfl
    have happend := hcut.append ih
    simp only [List.cons_append, List.append_assoc, List.nil_append] at happend
    refine happend.imp fun ⟨hplain, hgap⟩ => ?_
    simp only [List.forall_mem_cons, List.forall_mem_append]
    exact ⟨by decide, by decide, hplain, by decide, hgap⟩
  | @block body gap hbody _ ih =>
    have hcut : CutsOff ('/' :: '*' :: (body ++ [('*' : CodePoint), '/']))
        (∀ c ∈ body, IsPlain c) :=
      cutsOff_piece (fun t pieces hlex => Lexes.block_head hbody (by simpa using hlex))
        fun hquiet => (quiet_cons.mp hquiet).1 body rfl
    have happend := hcut.append ih
    simp only [List.cons_append, List.append_assoc, List.nil_append] at happend
    refine happend.imp fun ⟨hplain, hgap⟩ => ?_
    simp only [List.forall_mem_cons, List.forall_mem_append]
    exact ⟨by decide, by decide, hplain, by decide, by decide, hgap⟩

theorem IsGap.apart {gap : Text} (h : IsGap gap) : Apart gap := h.cutsOff.imp Source.inside_of_plain

/-! ## Tokens -/

theorem hexValue?_not_mem_marks {c : CodePoint} {n : Nat} (h : c.hexValue? = some n) : c ∉ marks :=
  not_mem_of_class (p := fun c => c.hexValue?.isSome) (by decide) (by simp [h])

/-- The scan sees the same string. -/
theorem StringBody.scanned {mark : CodePoint} (hmark : isQuote mark = true) {s t : Text}
    (h : StringBody mark s t) : Source.StringBody mark s := by
  have plain {c : CodePoint} (hc : c ∉ marks) {s : Text} (hs : Source.StringBody mark s) :
      Source.StringBody mark (c :: s) := by
    have hplain := isPlain_of_not_mem_marks hc
    obtain rfl | rfl := isQuote_iff.mp hmark
    · exact .plain hplain.2.2.1 hplain.1 hs
    · exact .plain hplain.2.1 hplain.1 hs
  induction h with
  | nil => exact .nil
  | plain hne hescape _ _ ih => exact .plain hne hescape ih
  | escape he _ ih =>
    cases he with
    | control _ | lineEnd | itself _ _ _ _ => exact .escape _ ih
    | short h₁ h₂ _ =>
      exact .escape 'x' (plain (hexValue?_not_mem_marks h₁) (plain (hexValue?_not_mem_marks h₂) ih))
    | long h₁ h₂ h₃ h₄ _ =>
      exact .escape 'u' (plain (hexValue?_not_mem_marks h₁) (plain (hexValue?_not_mem_marks h₂)
        (plain (hexValue?_not_mem_marks h₃) (plain (hexValue?_not_mem_marks h₄) ih))))

/-- **A string** is one piece, and a span passes over it. -/
theorem StringBody.apart {mark : CodePoint} (hmark : isQuote mark = true) {s t : Text}
    (h : StringBody mark s t) : Apart (mark :: (s ++ [mark])) := by
  have hbody := h.scanned hmark
  exact cutsOff_piece (fun t pieces hlex => Lexes.quoted_head hmark hbody (by simpa using hlex))
    fun _ => .string (isQuote_iff.mp hmark).symm hbody .nil

theorem Sign.bare {s : Text} {negative : Bool} (h : Sign s negative) : ∀ c ∈ s, c ∉ marks := by
  cases h <;> decide

theorem IsDecimalRun.bare {s : Text} (h : IsDecimalRun s) : ∀ c ∈ s, c ∉ marks :=
  fun c hc => not_mem_of_class (p := CodePoint.isDecimal) (by decide) (h c hc)

theorem Exponent.bare {s : Text} {power : Int} (h : Exponent s power) : ∀ c ∈ s, c ∉ marks := by
  obtain ⟨hmark, hsign, hdigits, -⟩ := h
  refine List.forall_mem_cons.mpr ⟨?_, List.forall_mem_append.mpr ⟨hsign.bare, hdigits.bare⟩⟩
  rcases hmark with rfl | rfl <;> decide

theorem Unsigned.bare {s : Text} {magnitude : Magnitude} (h : Unsigned s magnitude) :
    ∀ c ∈ s, c ∉ marks := by
  cases h with
  | hex hmark hdigits _ =>
    refine List.forall_mem_cons.mpr ⟨by decide, List.forall_mem_cons.mpr ⟨?_, fun c hc => ?_⟩⟩
    · rcases hmark with rfl | rfl <;> decide
    · exact not_mem_of_class (p := fun c => c.hexValue?.isSome) (by decide) (hdigits c hc)
  | whole hdigits _ => exact hdigits.bare
  | raised hdigits _ hexponent =>
    exact List.forall_mem_append.mpr ⟨hdigits.bare, hexponent.bare⟩
  | pointed hdigits hplaces _ hexponent =>
    refine List.forall_mem_append.mpr ⟨hdigits.bare, List.forall_mem_cons.mpr ⟨by decide,
      List.forall_mem_append.mpr ⟨hplaces.bare, ?_⟩⟩⟩
    rcases hexponent with ⟨rfl, -⟩ | hexponent
    · simp
    · exact hexponent.bare

theorem Number.apart {s : Text} {v : Data} (h : Number s v) : Apart s := by
  obtain ⟨hsign, hbody, -⟩ := h
  exact apart_bare (List.forall_mem_append.mpr ⟨hsign.bare, hbody.bare⟩)

theorem Key.apart {k key : Text} (h : Key k key) : Apart k := by
  cases h with
  | quoted hmark hbody => exact hbody.apart hmark
  | number _ hbody => exact apart_bare hbody.bare
  | word hc hs =>
    have hstart : _ ∉ marks := not_mem_of_class (p := isWordStart) (by decide) hc
    have hparts : ∀ d ∈ _, d ∉ marks :=
      fun d hd => not_mem_of_class (p := isWordPart) (by decide) (hs d hd)
    exact apart_bare (List.forall_mem_cons.mpr ⟨hstart, hparts⟩)

theorem apart_keyword {s : Text} {v : Data} (h : (s, v) ∈ keywords) : Apart s := by
  have hbare : ∀ p ∈ keywords, ∀ c ∈ p.1, c ∉ marks := by decide
  exact apart_bare (hbare _ h)

/-! ## Literals -/

section

variable {Item : Text → Data → Prop} (hitem : ∀ {s v}, Item s v → Apart s)

include hitem

theorem Items.apart {s : Text} {items : List Data} (h : Items Item s items) : Apart s := by
  have hcomma : Apart [','] := apart_single (by decide)
  have hbracket : Apart [']'] := apart_single (by decide)
  induction h with
  | close hgap => exact hgap.apart.append hbracket
  | hole hgap _ ih => exact hgap.apart.append (hcomma.append ih)
  | last hgap hs hafter =>
    exact hgap.apart.append ((hitem hs).append (hafter.apart.append hbracket))
  | item hgap hs hafter _ ih =>
    exact hgap.apart.append ((hitem hs).append (hafter.apart.append (hcomma.append ih)))

/-- Members have pieces of their own up to the closing brace. -/
theorem Entries.apart {s : Text} {entries : List (Text × Data)} (h : Entries Item s entries) :
    ∃ u, s = u ++ [('\x7d' : CodePoint)] ∧ Apart u := by
  have hcolon : Apart [':'] := apart_single (by decide)
  have hcomma : Apart [','] := apart_single (by decide)
  induction h with
  | close hgap => exact ⟨_, rfl, hgap.apart⟩
  | last hgap hk hafterKey hbefore hs hafter =>
    refine ⟨_, ?_, hgap.apart.append (hk.apart.append (hafterKey.apart.append
      (hcolon.append (hbefore.apart.append ((hitem hs).append hafter.apart)))))⟩
    simp
  | member hgap hk hafterKey hbefore hs hafter _ ih =>
    obtain ⟨u, rfl, hu⟩ := ih
    refine ⟨_, ?_, hgap.apart.append (hk.apart.append (hafterKey.apart.append
      (hcolon.append (hbefore.apart.append ((hitem hs).append
        (hafter.apart.append (hcomma.append hu)))))))⟩
    simp

/-- An object is a balanced span if its comments are quiet. -/
theorem Entries.cutsOff {s : Text} {entries : List (Text × Data)} (h : Entries Item s entries) :
    CutsOff ('\x7b' :: s) (Source.Balanced ('\x7b' :: s)) := by
  obtain ⟨u, rfl, hu⟩ := h.apart hitem
  have hopen : CutsOff ['\x7b'] True := cutsOff_single (by decide) (by decide)
  have hclose : CutsOff ['\x7d'] True := cutsOff_single (by decide) (by decide)
  exact (hopen.append (CutsOff.append hu hclose)).imp fun ⟨_, hinside, _⟩ => ⟨u, hinside, rfl⟩

theorem Form.apart {s : Text} {v : Data} (h : Form Item s v) : Apart s := by
  cases h with
  | object hentries _ =>
    refine (hentries.cutsOff hitem).imp ?_
    rintro ⟨u, hu, hs⟩
    rw [hs]
    exact .nested hu .nil
  | array hitems =>
    have hbracket : Apart ['['] := apart_single (by decide)
    exact hbracket.append (hitems.apart hitem)
  | text hmark hbody => exact hbody.apart hmark
  | number h => exact h.apart
  | keyword h => exact apart_keyword h
  | negation hgap hs _ =>
    have hmark : Apart ['!'] := apart_single (by decide)
    exact hmark.append (hgap.apart.append (hitem hs))

theorem Form.cutsOff {s : Text} {v : Data} (h : Form Item s v)
    (hopen : s.head? = some ('\x7b' : CodePoint)) : CutsOff s (Source.Balanced s) := by
  cases h with
  | object hentries _ => exact hentries.cutsOff hitem
  | array _ | negation _ _ _ => exact absurd (Option.some.inj hopen) (by decide)
  | text hmark _ =>
    obtain rfl := Option.some.inj hopen
    exact absurd hmark (by decide)
  | number h =>
    obtain ⟨c, t, rfl, hc⟩ := h.exists_cons
    obtain rfl := Option.some.inj hopen
    exact absurd hc (by decide)
  | keyword h =>
    obtain ⟨⟨c, t, rfl, hc⟩, -⟩ := keyword_spec h
    obtain rfl := Option.some.inj hopen
    exact absurd hc (by decide)

end

/-- **A literal** has pieces of its own, by induction on how deep it may be nested. -/
theorem Value.apart (depth : Nat) {s : Text} {v : Data} (h : Value depth s v) : Apart s := by
  induction depth generalizing s v with
  | zero => exact h.elim
  | succ depth ih => exact Form.apart ih h

/-! ## Whole texts -/

/-- A quiet tail opens and closes nothing. -/
theorem IsTail.plain {tail : Text} (h : IsTail tail) {pieces : List Piece}
    (hlex : Lexes tail pieces) (hquiet : Quiet pieces) : ∀ c ∈ tail, IsPlain c := by
  cases h with
  | gap hgap =>
    obtain ⟨front, rest, rfl, -, hplain⟩ := hgap.cutsOff [] pieces (by simpa using hlex)
    exact hplain (quiet_append.mp hquiet).1
  | @line gap body hgap hbody =>
    obtain ⟨front, rest, rfl, hrest, hplain⟩ := hgap.cutsOff _ _ hlex
    obtain ⟨hfront, hquiet⟩ := quiet_append.mp hquiet
    obtain ⟨body', t', -, rfl, -⟩ | ⟨-, rfl⟩ := hrest.of_slashes
    · exact absurd (by simp) hbody
    · simp only [List.forall_mem_append, List.forall_mem_cons]
      exact ⟨hplain hfront, by decide, by decide, (quiet_cons.mp hquiet).1 body rfl⟩

/-- **An object** whose comments are quiet is one balanced span. -/
theorem Renders.balanced {depth : Nat} {s : Text} {v : Data} (h : Renders depth s v)
    (hopen : s.head? = some ('\x7b' : CodePoint)) (hclose : s.getLast? = some ('\x7d' : CodePoint))
    {pieces : List Piece} (hlex : Lexes s pieces) (hquiet : Quiet pieces) : Source.Balanced s := by
  obtain ⟨gap, object, tail, rfl, hgap, hobject, htail⟩ := h
  -- A gap begins with a blank or a slash.
  obtain rfl : gap = [] := by
    cases hgap with
    | nil => rfl
    | blank hc _ =>
      obtain rfl := Option.some.inj hopen
      exact absurd hc (by decide)
    | line _ _ | block _ _ => exact absurd (Option.some.inj hopen) (by decide)
  rw [List.nil_append] at hopen hclose hlex ⊢
  cases depth with
  | zero => exact hobject.elim
  | succ depth =>
    obtain ⟨c, t, rfl, -⟩ := startsWell_value (depth + 1) hobject
    obtain ⟨front, rest, rfl, hrest, hbalanced⟩ :=
      Form.cutsOff (Value.apart depth) hobject hopen _ _ hlex
    obtain ⟨hfront, hquiet⟩ := quiet_append.mp hquiet
    have hplain := htail.plain hrest hquiet
    -- The text ends with a brace, and a quiet tail has none.
    obtain rfl : tail = [] := by
      cases tail using List.reverseRecOn with
      | nil => rfl
      | append_singleton tail d =>
        obtain rfl : d = '\x7d' := by
          rw [← List.append_assoc, List.getLast?_concat] at hclose
          exact Option.some.inj hclose
        exact absurd rfl (hplain '\x7d' (by simp)).2.2.2.2
    rw [List.append_nil]
    exact hbalanced hfront

/-- **Both ends agree.** A text that the reader takes, that begins and ends with a brace and whose
comments hold no quotation mark, backslash or brace is what the scan finds, wherever the text stands
and however much wider the window is. -/
theorem extract_literal {s : Text} {v : Data} {pieces : List Piece} (hread : read s = .ok v)
    (hopen : s.head? = some ('\x7b' : CodePoint)) (hclose : s.getLast? = some ('\x7d' : CodePoint))
    (hlex : Lexes s pieces) (hquiet : Quiet pieces) (before after : Text) {window : Int}
    (hwindow : s.length ≤ window) :
    Source.extract (before ++ s ++ after) before.length window = some s := by
  have hrenders : Renders depthLimit s v := renders_of_read hread
  exact Source.extract_append (hrenders.balanced hopen hclose hlex hquiet) before after hwindow

/-- An object with a brace and an escaped mark in a string, a comment, and a comma at the end. -/
def sampleObject : Text := "\x7ba:'\\'\x7d',/*b*/c:[\x7b\x7d],\x7d"

/-- Its pieces. -/
def objectPieces : List Piece := [
  .code '\x7b', .code 'a', .code ':', .quoted '\'' "\\'\x7d", .code ',', .block "b", .code 'c',
  .code ':', .code '[', .code '\x7b', .code '\x7d', .code ']', .comma, .code '\x7d']

theorem sampleObject_lexes : Lexes sampleObject objectPieces := by
  have hbody : Source.StringBody '\'' "\\'\x7d" :=
    .escape '\'' (.plain (by decide) (by decide) .nil)
  have hblock : ¬("*/" : Text) <:+: "b" := by decide
  have hback : Lexes "c:[\x7b\x7d],\x7d" [.code 'c', .code ':', .code '[', .code '\x7b',
      .code '\x7d', .code ']', .comma, .code '\x7d'] :=
    .code rfl (by decide) (by decide) (.code rfl (by decide) (by decide)
      (.code rfl (by decide) (by decide) (.code rfl (by decide) (by decide)
        (.code rfl (by decide) (by decide) (.code rfl (by decide) (by decide)
          (.comma (by decide) (.code rfl (by decide) (by decide) .nil)))))))
  exact .code rfl (by decide) (by decide) (.code rfl (by decide) (by decide)
    (.code rfl (by decide) (by decide) (.quoted rfl hbody (.code rfl (by decide) (by decide)
      (.block hblock hback)))))

/-- The reader takes the object, and the scan finds it inside other text. -/
theorem sampleObject_extracted :
    read sampleObject = .ok (.object [("a", .text "'\x7d"), ("c", .array [.object []])]) ∧
      sampleObject.head? = some ('\x7b' : CodePoint) ∧
      sampleObject.getLast? = some ('\x7d' : CodePoint) ∧ Lexes sampleObject objectPieces ∧
      Quiet objectPieces ∧
      Source.extract (("f(" : Text) ++ sampleObject ++ (")\x7d" : Text)) 2 99 =
        some sampleObject := by
  have hread : read sampleObject =
      .ok (.object [("a", .text "'\x7d"), ("c", .array [.object []])]) := by cbv
  have hquiet : Quiet objectPieces := by
    unfold Quiet
    decide
  exact ⟨hread, rfl, rfl, sampleObject_lexes, hquiet, extract_literal hread rfl rfl
    sampleObject_lexes hquiet "f(" ")\x7d" (by decide)⟩

/-- A brace in a comment ends the span too early. -/
example : read "\x7ba:1/*\x7d*/\x7d" = .ok (.object [("a", .int 1)]) ∧
    Source.extract "\x7ba:1/*\x7d*/\x7d" 0 99 = some "\x7ba:1/*\x7d" := by
  constructor <;> cbv

end TagAudit.Literal
