import TagAudit.Proofs.Literal.Normalized

/-!
# Relaxed JSON

JSON with three liberties: strings may stand between apostrophes, comments between tokens, and a
comma behind the last item of an array or an object. Normalisation takes the liberties back, and
what is left is JSON by its standard that says the same.

* `Renders`: the texts, and the value that each of them spells.
* `Becomes`: what normalisation makes of a part of a text, in front of any rest.
* `IsGap.becomes`, `Quoted.becomes`, `Form.becomes`: parts of relaxed JSON become parts of JSON.
* `read_normalize`: a whole text.
-/

namespace TagAudit.Relaxed

open Json (IsBlanks IsStart Letter StartsWell)
open Literal (Lexes image image_append image_map_code normalize isQuote isQuote_iff respelled
  respelled_nil respelled_plain respelled_apostrophe respelled_escape closes closes_blank
  closes_token IsCloser not_isCloser_of_isStart)

/-! ## The grammar -/

/-- Blanks and comments. A comment goes from `//` to the end of its line, or from `/*` to the first
`*/` behind it. -/
inductive IsGap : Text → Prop where
  | nil : IsGap []
  | blank {c : CodePoint} {gap : Text} : Json.isBlank c = true → IsGap gap → IsGap (c :: gap)
  | line {body gap : Text} : (('\n' : CodePoint) ∉ body) → IsGap gap →
    IsGap ('/' :: '/' :: (body ++ ('\n' : CodePoint) :: gap))
  | block {body gap : Text} : (¬("*/" : Text) <:+: body) → IsGap gap →
    IsGap ('/' :: '*' :: (body ++ ('*' : CodePoint) :: '/' :: gap))

/-- How a letter is spelled between two marks: as in JSON, but that only the mark itself needs a
backslash. -/
inductive Spelling (mark : CodePoint) : Text → Letter → Prop where
  | json {s : Text} {l : Letter} : Json.Spelling s l → s ≠ [mark] → Spelling mark s l
  | mark : Spelling mark ['\\', mark] ⟨mark, false⟩
  | quote : mark ≠ '"' → Spelling mark ['"'] ⟨'"', false⟩

/-- What stands between the marks of a string, and its letters. -/
inductive Body (mark : CodePoint) : Text → List Letter → Prop where
  | nil : Body mark [] []
  | cons {s rest : Text} {l : Letter} {letters : List Letter} :
    Spelling mark s l → Body mark rest letters → Body mark (s ++ rest) (l :: letters)

/-- A string in quotation marks of either kind, and the text that it denotes. -/
inductive Quoted : Text → Text → Prop where
  | mk {mark : CodePoint} {s : Text} {letters : List Letter} : isQuote mark = true →
    Body mark s letters → Quoted (mark :: (s ++ [mark])) (Json.joined letters)

/-- What stands behind the last item: a gap and the bracket, or a gap, a comma and the bracket with
nothing but blanks between these two. -/
inductive Ending (bracket : CodePoint) : Text → Prop where
  | plain {gap : Text} : IsGap gap → Ending bracket (gap ++ [bracket])
  | comma {gap blanks : Text} : IsGap gap → IsBlanks blanks →
    Ending bracket (gap ++ (',' : CodePoint) :: (blanks ++ [bracket]))

section

variable (Item : Text → Data → Prop)

/-- One or more items and what ends them. -/
inductive Items : Text → List Data → Prop where
  | last {s ending : Text} {v : Data} : Item s v → Ending ']' ending → Items (s ++ ending) [v]
  | item {s after before rest : Text} {v : Data} {items : List Data} :
    Item s v → IsGap after → IsGap before → Items rest items →
    Items (s ++ (after ++ (',' : CodePoint) :: (before ++ rest))) (v :: items)

/-- A key, the colon and a value, with the key that is meant. -/
inductive Entry : Text → Text × Data → Prop where
  | mk {k afterKey before s key : Text} {v : Data} :
    Quoted k key → IsGap afterKey → IsGap before → Item s v →
    Entry (k ++ (afterKey ++ (':' : CodePoint) :: (before ++ s))) (key, v)

/-- One or more members and what ends them. -/
inductive Entries : Text → List (Text × Data) → Prop where
  | last {s ending : Text} {e : Text × Data} : Entry Item s e → Ending '\x7d' ending →
    Entries (s ++ ending) [e]
  | member {s after before rest : Text} {e : Text × Data} {entries : List (Text × Data)} :
    Entry Item s e → IsGap after → IsGap before → Entries rest entries →
    Entries (s ++ (after ++ (',' : CodePoint) :: (before ++ rest))) (e :: entries)

/-- A value, as it is spelled. -/
inductive Form : Text → Data → Prop where
  | text {s t : Text} : Quoted s t → Form s (.text t)
  | number {s : Text} {v : Data} : Json.Number s v → Form s v
  | word {s : Text} {v : Data} : (s, v) ∈ Json.constants → Form s v
  | emptyArray {gap : Text} : IsGap gap → Form ('[' :: (gap ++ [(']' : CodePoint)])) (.array [])
  | array {gap s : Text} {items : List Data} : IsGap gap → Items Item s items →
    Form ('[' :: (gap ++ s)) (.array items)
  | emptyObject {gap : Text} : IsGap gap →
    Form ('\x7b' :: (gap ++ [('\x7d' : CodePoint)])) (.object [])
  | object {gap s : Text} {entries : List (Text × Data)} {members : Members Data} :
    IsGap gap → Entries Item s entries → Members.Merged entries members →
    Form ('\x7b' :: (gap ++ s)) (.object members)

end

/-- A value nested at most so deep. -/
def Value : Nat → Text → Data → Prop
  | 0 => fun _ _ => False
  | depth + 1 => Form (Value depth)

/-- A text that is one value, nested at most so deep, with gaps around it. -/
def Renders (depth : Nat) (text : Text) (v : Data) : Prop :=
  ∃ before s after, text = before ++ (s ++ after) ∧ IsGap before ∧ Value depth s v ∧ IsGap after

/-! ## Parts of a text -/

/-- In front of any rest, normalisation makes `s'` of `s`. -/
def Becomes (s s' : Text) : Prop :=
  ∀ t pieces, Lexes t pieces → ∃ front, Lexes (s ++ t) (front ++ pieces) ∧ image front = s'

theorem becomes_nil : Becomes [] [] := fun _ _ hlex => ⟨[], hlex, rfl⟩

theorem Becomes.append {s s' u u' : Text} (h : Becomes s s') (h' : Becomes u u') :
    Becomes (s ++ u) (s' ++ u') := by
  intro t pieces hlex
  obtain ⟨back, hback, rfl⟩ := h' t pieces hlex
  obtain ⟨front, hfront, rfl⟩ := h _ _ hback
  refine ⟨front ++ back, ?_, image_append front back⟩
  rwa [List.append_assoc, List.append_assoc]

/-- What holds no quotation mark, slash or comma is kept. -/
theorem becomes_bare {s : Text} (h : ∀ c ∈ s, isQuote c = false ∧ c ≠ '/' ∧ c ≠ ',') :
    Becomes s s := fun _ _ hlex => ⟨s.map .code, hlex.bare h, image_map_code s⟩

theorem becomes_single {c : CodePoint} (hquote : isQuote c = false) (hslash : c ≠ '/')
    (hcomma : c ≠ ',') : Becomes [c] [c] :=
  becomes_bare fun _ hd => List.mem_singleton.mp hd ▸ ⟨hquote, hslash, hcomma⟩

/-- A comma is kept if no bracket closes behind it. -/
theorem Becomes.comma {s s' : Text} (h : Becomes s s') (hopen : ∀ t, closes (s ++ t) = false) :
    Becomes (',' :: s) (',' :: s') := by
  intro t pieces hlex
  obtain ⟨front, hfront, rfl⟩ := h t pieces hlex
  exact ⟨.code ',' :: front, .code rfl (fun h => absurd h (by decide)) (fun _ => hopen t) hfront,
    rfl⟩

/-- A comma is dropped if a bracket closes behind it. -/
theorem Becomes.dropped {s s' : Text} (h : Becomes s s') (hcloses : ∀ t, closes (s ++ t) = true) :
    Becomes (',' :: s) s' := by
  intro t pieces hlex
  obtain ⟨front, hfront, rfl⟩ := h t pieces hlex
  exact ⟨.comma :: front, .comma (hcloses t) hfront, rfl⟩

/-! ## Gaps and endings -/

theorem becomes_blanks {blanks : Text} (h : IsBlanks blanks) : Becomes blanks blanks := by
  refine becomes_bare fun c hc => ?_
  rcases Json.isBlank_iff.mp (h c hc) with rfl | rfl | rfl | rfl <;> decide

/-- **A gap** becomes blanks. -/
theorem IsGap.becomes {gap : Text} (h : IsGap gap) :
    ∃ blanks, IsBlanks blanks ∧ Becomes gap blanks := by
  induction h with
  | nil => exact ⟨[], by simp [IsBlanks], becomes_nil⟩
  | @blank c gap hc _ ih =>
    obtain ⟨blanks, hblanks, hgap⟩ := ih
    have hsingle : IsBlanks [c] := fun d hd => List.mem_singleton.mp hd ▸ hc
    exact ⟨c :: blanks, List.forall_mem_cons.mpr ⟨hc, hblanks⟩,
      (becomes_blanks hsingle).append hgap⟩
  | @line body gap hbody _ ih =>
    obtain ⟨blanks, hblanks, hgap⟩ := ih
    have hline : Becomes ('/' :: '/' :: (body ++ [('\n' : CodePoint)])) ['\n'] :=
      fun t pieces hlex => ⟨[.line body], by simpa using .line hbody hlex, rfl⟩
    refine ⟨'\n' :: blanks, List.forall_mem_cons.mpr ⟨by decide, hblanks⟩, ?_⟩
    simpa using hline.append hgap
  | @block body gap hbody _ ih =>
    obtain ⟨blanks, hblanks, hgap⟩ := ih
    have hblock : Becomes ('/' :: '*' :: (body ++ [('*' : CodePoint), '/'])) [] :=
      fun t pieces hlex => ⟨[.block body], by simpa using .block hbody hlex, rfl⟩
    refine ⟨blanks, hblanks, ?_⟩
    simpa using hblock.append hgap

/-- No bracket closes behind a gap with a value or a key behind it. -/
theorem IsGap.closes_eq_false {gap : Text} (h : IsGap gap) {c : CodePoint} (hc : IsStart c)
    (t : Text) : closes (gap ++ c :: t) = false := by
  induction h with
  | nil => exact Literal.closes_eq_false hc.isBlank (not_isCloser_of_isStart hc) t
  | blank hblank _ ih =>
    rw [List.cons_append, closes_blank hblank]
    exact ih
  | line _ _ | block _ _ => exact Literal.closes_eq_false (by decide) (by simp [IsCloser]) _

theorem closes_of_blanks {blanks : Text} (h : IsBlanks blanks) {bracket : CodePoint}
    (hbracket : IsCloser bracket) (t : Text) : closes (blanks ++ bracket :: t) = true := by
  induction blanks with
  | nil =>
    have hblank : Json.isBlank bracket = false := by rcases hbracket with rfl | rfl <;> decide
    exact (closes_token hblank t).mpr hbracket
  | cons c blanks ih =>
    obtain ⟨hc, hblanks⟩ := List.forall_mem_cons.mp h
    rw [List.cons_append, closes_blank hc]
    exact ih hblanks

/-- **An ending** becomes blanks and the bracket: the comma is dropped. -/
theorem Ending.becomes {bracket : CodePoint} (hbracket : IsCloser bracket) {s : Text}
    (h : Ending bracket s) : ∃ blanks, IsBlanks blanks ∧ Becomes s (blanks ++ [bracket]) := by
  have hsingle : Becomes [bracket] [bracket] := by
    rcases hbracket with rfl | rfl
    · exact becomes_single (by decide) (by decide) (by decide)
    · exact becomes_single (by decide) (by decide) (by decide)
  cases h with
  | plain hgap =>
    obtain ⟨blanks, hblanks, hgap⟩ := hgap.becomes
    exact ⟨blanks, hblanks, hgap.append hsingle⟩
  | @comma gap blanks hgap hblanks =>
    obtain ⟨blanks', hblanks', hgap⟩ := hgap.becomes
    have hcloses (t : Text) : closes ((blanks ++ [bracket]) ++ t) = true := by
      rw [List.append_assoc]
      exact closes_of_blanks hblanks hbracket t
    refine ⟨blanks' ++ blanks, List.forall_mem_append.mpr ⟨hblanks', hblanks⟩, ?_⟩
    rw [List.append_assoc]
    exact hgap.append (((becomes_blanks hblanks).append hsingle).dropped hcloses)

/-! ## Strings -/

theorem plain_of_hexValue? {mark c : CodePoint} (hmark : isQuote mark = true) {n : Nat}
    (h : c.hexValue? = some n) : c ≠ mark ∧ c ≠ '\\' ∧ c ≠ '"' := by
  have hne {d : CodePoint} (hd : d.hexValue?.isSome = false) : c ≠ d :=
    Literal.ne_of_class (p := fun c => c.hexValue?.isSome) (by simp [h]) hd
  refine ⟨?_, hne (by decide), hne (by decide)⟩
  rcases isQuote_iff.mp hmark with rfl | rfl
  · exact hne (by decide)
  · exact hne (by decide)

/-- What stands at the front of a string ends neither it nor an escape, and becomes `s'`. -/
def Respells (mark : CodePoint) (s s' : Text) : Prop :=
  ∀ rest, Source.StringBody mark rest →
    Source.StringBody mark (s ++ rest) ∧ respelled mark (s ++ rest) = s' ++ respelled mark rest

theorem Respells.append {mark : CodePoint} {s s' u u' : Text} (h : Respells mark s s')
    (h' : Respells mark u u') : Respells mark (s ++ u) (s' ++ u') := by
  intro rest hrest
  obtain ⟨hback, hu⟩ := h' rest hrest
  obtain ⟨hfront, hs⟩ := h _ hback
  rw [List.append_assoc, List.append_assoc, hs, hu]
  exact ⟨hfront, rfl⟩

theorem respells_single {mark c : CodePoint} (hmark : isQuote mark = true) (hc : c ≠ mark)
    (hescape : c ≠ '\\') (hquote : c ≠ '"') : Respells mark [c] [c] := by
  intro rest hrest
  refine ⟨.plain hc hescape hrest, ?_⟩
  rw [List.singleton_append, respelled_plain hmark hc hescape, if_neg hquote]

theorem respells_escape {mark c : CodePoint} (hmark : isQuote mark = true) (hc : c ≠ '\'') :
    Respells mark ['\\', c] ['\\', c] := by
  intro rest hrest
  refine ⟨.escape c hrest, ?_⟩
  obtain ⟨e, he, rfl | ⟨-, happ⟩⟩ := respelled_escape hmark hrest c
  · exact he
  · exact absurd happ hc

/-- **A letter** becomes a letter as JSON spells it. -/
theorem Spelling.respells {mark : CodePoint} (hmark : isQuote mark = true) {s : Text} {l : Letter}
    (h : Spelling mark s l) : ∃ s', Json.Spelling s' l ∧ Respells mark s s' := by
  cases h with
  | json h hne =>
    cases h with
    | plain hquote hescape hlow =>
      have hc : _ ≠ mark := fun hc => hne (hc ▸ rfl)
      exact ⟨_, .plain hquote hescape hlow, respells_single hmark hc hescape hquote⟩
    | escape hmem =>
      have happ : ∀ p ∈ Json.escapes, p.1 ≠ '\'' := by decide
      exact ⟨_, .escape hmem, respells_escape hmark (happ _ hmem)⟩
    | number h₁ h₂ h₃ h₄ hval =>
      have digit {d : CodePoint} {n : Nat} (hd : d.hexValue? = some n) : Respells mark [d] [d] := by
        obtain ⟨hne, hescape, hquote⟩ := plain_of_hexValue? hmark hd
        exact respells_single hmark hne hescape hquote
      exact ⟨_, .number h₁ h₂ h₃ h₄ hval, (respells_escape hmark (by decide)).append
        ((digit h₁).append ((digit h₂).append ((digit h₃).append (digit h₄))))⟩
  | mark =>
    rcases isQuote_iff.mp hmark with rfl | rfl
    · exact ⟨['\''], .plain (by decide) (by decide) (by decide),
        fun _ hrest => ⟨.escape _ hrest, respelled_apostrophe _⟩⟩
    · exact ⟨['\\', '"'], .escape (by decide), respells_escape hmark (by decide)⟩
  | quote hne =>
    refine ⟨['\\', '"'], .escape (by decide),
      fun _ hrest => ⟨.plain hne.symm (by decide) hrest, ?_⟩⟩
    rw [List.singleton_append, respelled_plain hmark hne.symm (by decide), if_pos rfl]

/-- **The body of a string** becomes one with the same letters. -/
theorem Body.respelled {mark : CodePoint} (hmark : isQuote mark = true) {s : Text}
    {letters : List Letter} (h : Body mark s letters) :
    Source.StringBody mark s ∧ Json.Body (respelled mark s) letters := by
  induction h with
  | nil =>
    rw [respelled_nil]
    exact ⟨.nil, .nil⟩
  | cons hl _ ih =>
    obtain ⟨hbody, hletters⟩ := ih
    obtain ⟨s', hl', hs⟩ := hl.respells hmark
    obtain ⟨hbody', hrespelled⟩ := hs _ hbody
    rw [hrespelled]
    exact ⟨hbody', .cons hl' hletters⟩

/-- **A string** becomes a string in double quotes with the same letters. -/
theorem Quoted.becomes {s t : Text} (h : Quoted s t) :
    ∃ body letters, Json.Body body letters ∧ t = Json.joined letters ∧
      Becomes s ('"' :: (body ++ [('"' : CodePoint)])) := by
  obtain ⟨hmark, hbody⟩ := h
  obtain ⟨hends, hletters⟩ := hbody.respelled hmark
  refine ⟨_, _, hletters, rfl, fun t pieces hlex => ⟨[.quoted _ _], ?_, List.append_nil _⟩⟩
  simpa using .quoted hmark hends hlex

theorem Quoted.exists_cons {s t : Text} (h : Quoted s t) : ∃ c u, s = c :: u ∧ IsStart c := by
  obtain ⟨hmark, -⟩ := h
  refine ⟨_, _, rfl, ?_⟩
  rcases isQuote_iff.mp hmark with rfl | rfl <;> decide

/-! ## Items and members -/

/-- Every item becomes an item of another kind with the same value. -/
def Carries (Item Item' : Text → Data → Prop) : Prop :=
  ∀ s v, Item s v → ∃ s', Becomes s s' ∧ Item' s' v

/-- A comma between two gaps, with something behind them, is kept. -/
theorem becomes_separated {after before : Text} (hafter : IsGap after) (hbefore : IsGap before)
    {c : CodePoint} (hc : IsStart c) {t rest : Text} (h : Becomes (c :: t) rest) :
    ∃ blanks blanks', IsBlanks blanks ∧ IsBlanks blanks' ∧
      Becomes (after ++ (',' : CodePoint) :: (before ++ c :: t))
        (blanks ++ (',' : CodePoint) :: (blanks' ++ rest)) := by
  obtain ⟨blanks, hblanks, hafter⟩ := hafter.becomes
  have hopen (u : Text) : closes ((before ++ c :: t) ++ u) = false := by
    rw [List.append_assoc]
    exact hbefore.closes_eq_false hc _
  obtain ⟨blanks', hblanks', hbefore⟩ := hbefore.becomes
  exact ⟨blanks, blanks', hblanks, hblanks', hafter.append ((hbefore.append h).comma hopen)⟩

section

variable {Item Item' : Text → Data → Prop}

theorem Items.exists_cons (hstart : StartsWell Item) {s : Text} {items : List Data}
    (h : Items Item s items) : ∃ c t, s = c :: t ∧ IsStart c := by
  cases h with
  | last hs _ | item hs _ _ _ =>
    obtain ⟨c, t, rfl, hc⟩ := hstart hs
    exact ⟨c, _, rfl, hc⟩

theorem Items.becomes (hstart : StartsWell Item) (hitem : Carries Item Item') {s : Text}
    {items : List Data} (h : Items Item s items) :
    ∃ s', Becomes s s' ∧ Json.Items Item' s' items := by
  induction h with
  | last hs hending =>
    obtain ⟨s', hs, hs'⟩ := hitem _ _ hs
    obtain ⟨blanks, hblanks, hending⟩ := hending.becomes (.inl rfl)
    exact ⟨_, hs.append hending, .last hs' hblanks⟩
  | item hs hafter hbefore hrest ih =>
    obtain ⟨s', hs, hs'⟩ := hitem _ _ hs
    obtain ⟨rest', hmore, hrest'⟩ := ih
    obtain ⟨c, t, rfl, hc⟩ := hrest.exists_cons hstart
    obtain ⟨blanks, blanks', hblanks, hblanks', hseparated⟩ :=
      becomes_separated hafter hbefore hc hmore
    exact ⟨_, hs.append hseparated, .item hs' hblanks hblanks' hrest'⟩

theorem Entry.exists_cons {s : Text} {e : Text × Data} (h : Entry Item s e) :
    ∃ c t, s = c :: t ∧ IsStart c := by
  obtain ⟨hk, -, -, -⟩ := h
  obtain ⟨c, t, rfl, hc⟩ := hk.exists_cons
  exact ⟨c, _, rfl, hc⟩

theorem Entry.becomes (hitem : Carries Item Item') {s : Text} {e : Text × Data}
    (h : Entry Item s e) : ∃ s', Becomes s s' ∧ Json.Entry .strict Item' s' e := by
  obtain ⟨hk, hafterKey, hbefore, hs⟩ := h
  obtain ⟨body, letters, hletters, hkey, hk⟩ := hk.becomes
  obtain ⟨blanks, hblanks, hafterKey⟩ := hafterKey.becomes
  obtain ⟨blanks', hblanks', hbefore⟩ := hbefore.becomes
  obtain ⟨s', hs, hs'⟩ := hitem _ _ hs
  have hcolon : Becomes [':'] [':'] := becomes_single (by decide) (by decide) (by decide)
  refine ⟨_, ?_, .mk hletters hkey hblanks hblanks' hs'⟩
  simpa using hk.append (hafterKey.append (hcolon.append (hbefore.append hs)))

theorem Entries.exists_cons {s : Text} {entries : List (Text × Data)} (h : Entries Item s entries) :
    ∃ c t, s = c :: t ∧ IsStart c := by
  cases h with
  | last he _ | member he _ _ _ =>
    obtain ⟨c, t, rfl, hc⟩ := he.exists_cons
    exact ⟨c, _, rfl, hc⟩

theorem Entries.becomes (hitem : Carries Item Item') {s : Text} {entries : List (Text × Data)}
    (h : Entries Item s entries) : ∃ s', Becomes s s' ∧ Json.Entries .strict Item' s' entries := by
  induction h with
  | last he hending =>
    obtain ⟨s', hs, hs'⟩ := he.becomes hitem
    obtain ⟨blanks, hblanks, hending⟩ := hending.becomes (.inr rfl)
    exact ⟨_, hs.append hending, .last hs' hblanks⟩
  | member he hafter hbefore hrest ih =>
    obtain ⟨s', hs, hs'⟩ := he.becomes hitem
    obtain ⟨rest', hmore, hrest'⟩ := ih
    obtain ⟨c, t, rfl, hc⟩ := hrest.exists_cons
    obtain ⟨blanks, blanks', hblanks, hblanks', hseparated⟩ :=
      becomes_separated hafter hbefore hc hmore
    exact ⟨_, hs.append hseparated, .member hs' hblanks hblanks' hrest'⟩

/-! ## Values -/

theorem startsWell_form : StartsWell (Form Item) := by
  intro s v h
  cases h with
  | text h => exact h.exists_cons
  | number h =>
    obtain ⟨c, t, rfl, hc, -⟩ := Json.scalar_exists_cons (.inr h)
    exact ⟨c, t, rfl, hc⟩
  | word h =>
    obtain ⟨c, t, rfl, hc, -⟩ := Json.scalar_exists_cons (.inl (Json.Dialect.constants_within h))
    exact ⟨c, t, rfl, hc⟩
  | emptyArray _ | array _ _ | emptyObject _ | object _ _ _ => exact ⟨_, _, rfl, by decide⟩

/-- Numbers and words hold no quotation mark, slash or comma. -/
theorem becomes_token {s : Text} (h : ∀ c ∈ s, Literal.isTokenPart c = true) : Becomes s s := by
  refine becomes_bare fun c hc => ?_
  have hne {d : CodePoint} (hd : Literal.isTokenPart d = false) : c ≠ d :=
    Literal.ne_of_class (h c hc) hd
  have hquote : isQuote c = false := Literal.isQuote_eq_false (by decide) (h c hc)
  exact ⟨hquote, hne (by decide), hne (by decide)⟩

/-- **A value** becomes a value of JSON by its standard. -/
theorem form_carries (hstart : StartsWell Item) (hitem : Carries Item Item') :
    Carries (Form Item) (Json.Form .strict Item') := by
  have hopenArray : Becomes ['['] ['['] := becomes_single (by decide) (by decide) (by decide)
  have hopenObject : Becomes ['\x7b'] ['\x7b'] := becomes_single (by decide) (by decide) (by decide)
  intro s v h
  cases h with
  | text h =>
    obtain ⟨body, letters, hletters, ht, hs⟩ := h.becomes
    exact ⟨_, hs, .text hletters ht⟩
  | number h => exact ⟨s, becomes_token (Literal.isTokenPart_of_number h), .number h⟩
  | word h =>
    have hparts : ∀ p ∈ Json.constants, ∀ c ∈ p.1, Literal.isTokenPart c = true := by decide
    exact ⟨s, becomes_token (hparts _ h), .word h⟩
  | emptyArray hgap =>
    have hending : Ending ']' _ := .plain hgap
    obtain ⟨blanks, hblanks, hs⟩ := hending.becomes (.inl rfl)
    exact ⟨_, hopenArray.append hs, .emptyArray hblanks⟩
  | array hgap hitems =>
    obtain ⟨blanks, hblanks, hgap⟩ := hgap.becomes
    obtain ⟨s', hs, hs'⟩ := hitems.becomes hstart hitem
    exact ⟨'[' :: (blanks ++ s'), hopenArray.append (hgap.append hs), .array hblanks hs'⟩
  | emptyObject hgap =>
    have hending : Ending '\x7d' _ := .plain hgap
    obtain ⟨blanks, hblanks, hs⟩ := hending.becomes (.inr rfl)
    exact ⟨_, hopenObject.append hs, .emptyObject hblanks⟩
  | object hgap hentries hmembers =>
    obtain ⟨blanks, hblanks, hgap⟩ := hgap.becomes
    obtain ⟨s', hs, hs'⟩ := hentries.becomes hitem
    exact ⟨'\x7b' :: (blanks ++ s'), hopenObject.append (hgap.append hs),
      .object hblanks hs' hmembers⟩

end

theorem startsWell_value (depth : Nat) : StartsWell (Value depth) := by
  cases depth with
  | zero => exact fun h => h.elim
  | succ depth => exact startsWell_form

theorem value_carries (depth : Nat) : Carries (Value depth) (Json.Value .strict depth) := by
  induction depth with
  | zero => exact fun _ _ h => h.elim
  | succ depth ih => exact form_carries (startsWell_value depth) ih

/-! ## Whole texts -/

/-- **Normalisation** makes JSON by its standard of relaxed JSON, no deeper and with the same
value. -/
theorem Renders.strict {depth : Nat} {text : Text} {v : Data} (h : Renders depth text v) :
    Json.Renders .strict depth (normalize text) v := by
  obtain ⟨before, s, after, rfl, hbefore, hs, hafter⟩ := h
  obtain ⟨blanks, hblanks, hbefore⟩ := hbefore.becomes
  obtain ⟨s', hs, hs'⟩ := value_carries depth _ _ hs
  obtain ⟨blanks', hblanks', hafter⟩ := hafter.becomes
  obtain ⟨front, hlex, himage⟩ := hbefore.append (hs.append hafter) [] [] .nil
  simp only [List.append_nil] at hlex
  rw [hlex.normalize_eq, himage]
  exact ⟨blanks, s', blanks', rfl, hblanks, hs', hblanks'⟩

/-- **Normalisation preserves meaning.** Whatever quotation marks, gaps and commas a text of relaxed
JSON has, it is normalised to JSON by its standard and read with the value that it renders, unless
it is nested more deeply than is read at all. -/
theorem read_normalize {depth : Nat} (hdepth : depth ≤ Json.depthLimit) {text : Text} {v : Data}
    (h : Renders depth text v) :
    Json.Renders .strict depth (normalize text) v ∧ Json.read (normalize text) = .ok v := by
  have hstrict := h.strict
  exact ⟨hstrict, (hstrict.mono Json.Dialect.strict_within hdepth).read_eq_ok⟩

/-- Strings of both kinds that hold what looks like a comment or a last comma, comments, and last
commas. -/
def relaxedText : Text := "\x7b'a\"\\'//': [1 , \",]\" /*]*/, ], // \x7d\n\"b\" : '', \x7d"

/-- What the text renders. -/
def relaxedData : Data :=
  .object [("a\"'//", .array [.int 1, .text ",]"]), ("b", .text [])]

theorem relaxedText_renders : Renders 3 relaxedText relaxedData := by
  have plain {mark c : CodePoint} (hc : c ≠ '"' ∧ c ≠ '\\' ∧ 0x20 ≤ c.val ∧ [c] ≠ [mark]) :
      Spelling mark [c] ⟨c, false⟩ := .json (.plain hc.1 hc.2.1 hc.2.2.1) hc.2.2.2
  have hspace : IsGap " " := .blank rfl .nil
  have hblanks : IsBlanks " " := by
    unfold IsBlanks
    decide
  have hdigits : Json.IsDigits "1" := by
    unfold Json.IsDigits
    decide
  have hone : Value 1 "1" (.int 1) := .number (@Json.Number.whole [] "1" false .none
    ⟨hdigits, by decide, fun _ h => absurd (List.cons.inj h).1 (by decide)⟩ (by decide))
  have hcomma : Value 1 "\",]\"" (.text ",]") := .text (@Quoted.mk '"' ",]" _ rfl
    (.cons (plain (by decide)) (.cons (plain (by decide)) .nil)))
  have hitems : Items (Value 1) "1 , \",]\" /*]*/, ]" [.int 1, .text ",]"] :=
    @Items.item _ "1" " " " " _ _ _ hone hspace hspace
      (.last hcomma (@Ending.comma ']' " /*]*/" " "
        (.blank rfl (@IsGap.block "]" [] (by decide) .nil)) hblanks))
  have harray : Value 2 "[1 , \",]\" /*]*/, ]" (.array [.int 1, .text ",]"]) :=
    @Form.array _ [] _ _ .nil hitems
  have hempty : Value 2 "''" (.text []) := .text (@Quoted.mk '\'' [] [] rfl .nil)
  have hfirst : Quoted "'a\"\\'//'" "a\"'//" := @Quoted.mk '\'' "a\"\\'//" _ rfl
    (.cons (plain (by decide)) (.cons (.quote (by decide)) (.cons .mark
      (.cons (plain (by decide)) (.cons (plain (by decide)) .nil)))))
  have hsecond : Quoted "\"b\"" "b" := @Quoted.mk '"' "b" _ rfl (.cons (plain (by decide)) .nil)
  have hgap : IsGap " // \x7d\n" := .blank rfl (@IsGap.line " \x7d" [] (by decide) .nil)
  have hentries : Entries (Value 2) _ [("a\"'//", .array [.int 1, .text ",]"]), ("b", .text [])] :=
    @Entries.member _ _ [] " // \x7d\n" _ _ _ (.mk hfirst .nil hspace harray) .nil hgap
      (.last (.mk hsecond hspace hspace hempty) (@Ending.comma '\x7d' [] " " .nil hblanks))
  have hobject : Value 3 relaxedText relaxedData :=
    @Form.object _ [] _ _ _ .nil hentries (Members.merged_iff.mpr rfl)
  exact ⟨[], _, [], (List.append_nil _).symm, .nil, hobject, .nil⟩

/-- The text is read with its value after normalisation. -/
theorem relaxedText_read :
    3 ≤ Json.depthLimit ∧ Renders 3 relaxedText relaxedData ∧
      Json.Renders .strict 3 (normalize relaxedText) relaxedData ∧
      Json.read (normalize relaxedText) = .ok relaxedData :=
  ⟨by decide, relaxedText_renders, read_normalize (by decide) relaxedText_renders⟩

end TagAudit.Relaxed
