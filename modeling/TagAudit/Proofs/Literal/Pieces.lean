import TagAudit.Literal.Normal
import TagAudit.Literal.Reader
import TagAudit.Proofs.Source.Balanced

/-!
# The pieces of a text

Normalisation goes over a text once, with a mode and accumulators. Here a text is cut into pieces
instead, and what normalisation makes of it is what it makes of the pieces, one after the other.

* `Piece`: strings, comments, commas that are dropped, and other code points; `image`: what is made
  of them.
* `Lexes`: the pieces of a text. Every text has some (`exists_lexes`).
* `Lexes.normalize_eq`: normalisation gives the image of the pieces.
-/

namespace TagAudit.Literal

/-- A piece of a text. -/
inductive Piece where
  /-- A code point outside strings and comments. -/
  | code (c : CodePoint)
  /-- A comma in front of a closing bracket. -/
  | comma
  /-- A string. -/
  | quoted (mark : CodePoint) (body : Text)
  /-- A comment that ends with its line. -/
  | line (body : Text)
  /-- A comment that ends with `*/`. -/
  | block (body : Text)
  /-- A comment at the end of the text, where the line needs no end. -/
  | openLine (body : Text)
  /-- A comment with no `*/` up to the end of the text. -/
  | openBlock (body : Text)
  /-- A double-quoted string that the end of the text cuts off. -/
  | openString (body : Text)
  /-- A single-quoted string that the end of the text cuts off. -/
  | openApostrophe (body : Text)
deriving DecidableEq

/-- The body of a string, as it is spelled between double quotes. -/
def respelled (mark : CodePoint) (body : Text) : Text :=
  if mark = '"' then body else escapeQuotes false [] (bareApostrophes [] body)

/-- What normalisation makes of a piece. -/
def Piece.image : Piece → Text
  | code c => [c]
  | comma | block _ | openLine _ | openBlock _ => []
  | quoted mark body => '"' :: (respelled mark body ++ [('"' : CodePoint)])
  | line _ => ['\n']
  | openString body => '"' :: body
  | openApostrophe body => requote body.dropLast

/-- What normalisation makes of pieces. -/
def image (pieces : List Piece) : Text := pieces.flatMap Piece.image

@[simp] theorem image_nil : image [] = [] := rfl

@[simp] theorem image_cons (p : Piece) (pieces : List Piece) :
    image (p :: pieces) = p.image ++ image pieces := rfl

@[simp] theorem image_append (front back : List Piece) :
    image (front ++ back) = image front ++ image back := List.flatMap_append

/-- A text in which no string ends with a mark. -/
def NeverEnds (mark : CodePoint) (t : Text) : Prop :=
  ∀ s rest, t = s ++ mark :: rest → ¬Source.StringBody mark s

/-- The pieces of a text. -/
inductive Lexes : Text → List Piece → Prop where
  | nil : Lexes [] []
  | code {c : CodePoint} {t : Text} {pieces : List Piece} : isQuote c = false →
    (c = '/' → ∀ d ∈ t.head?, d ≠ '/' ∧ d ≠ '*') → (c = ',' → closes t = false) →
    Lexes t pieces → Lexes (c :: t) (.code c :: pieces)
  | comma {t : Text} {pieces : List Piece} : closes t = true → Lexes t pieces →
    Lexes (',' :: t) (.comma :: pieces)
  | quoted {mark : CodePoint} {body t : Text} {pieces : List Piece} : isQuote mark = true →
    Source.StringBody mark body → Lexes t pieces →
    Lexes (mark :: (body ++ mark :: t)) (.quoted mark body :: pieces)
  | line {body t : Text} {pieces : List Piece} : (('\n' : CodePoint) ∉ body) → Lexes t pieces →
    Lexes ('/' :: '/' :: (body ++ ('\n' : CodePoint) :: t)) (.line body :: pieces)
  | block {body t : Text} {pieces : List Piece} : (¬("*/" : Text) <:+: body) → Lexes t pieces →
    Lexes ('/' :: '*' :: (body ++ ('*' : CodePoint) :: '/' :: t)) (.block body :: pieces)
  | openLine {body : Text} : (('\n' : CodePoint) ∉ body) →
    Lexes ('/' :: '/' :: body) [.openLine body]
  | openBlock {body : Text} : (¬("*/" : Text) <:+: body) →
    Lexes ('/' :: '*' :: body) [.openBlock body]
  | openString {body : Text} : NeverEnds '"' body → Lexes ('"' :: body) [.openString body]
  | openApostrophe {body : Text} : NeverEnds '\'' body →
    Lexes ('\'' :: body) [.openApostrophe body]

/-! ## One piece after the other -/

section

variable (out : Text)

theorem normalizeFrom_code {c : CodePoint} {t : Text} (hquote : isQuote c = false)
    (hslash : c = '/' → ∀ d ∈ t.head?, d ≠ '/' ∧ d ≠ '*') (hcomma : c = ',' → closes t = false) :
    normalizeFrom out .code (c :: t) = normalizeFrom (c :: out) .code t := by
  simp only [isQuote, Bool.or_eq_false_iff, decide_eq_false_iff_not] at hquote
  cases t with
  | nil => simp [normalizeFrom, hquote.1]
  | cons d t =>
    have hline : ¬(decide (c = '/') && decide (d = '/')) = true := by
      simpa using fun h => (hslash h d rfl).1
    have hblock : ¬(decide (c = '/') && decide (d = '*')) = true := by
      simpa using fun h => (hslash h d rfl).2
    have hdropped : ¬(decide (c = ',') && closes (d :: t)) = true := by
      simpa using hcomma
    rw [normalizeFrom, if_neg hquote.2, if_neg hquote.1, if_neg hline, if_neg hblock,
      if_neg hdropped]

theorem normalizeFrom_comma {t : Text} (h : closes t = true) :
    normalizeFrom out .code (',' :: t) = normalizeFrom out .code t := by
  cases t with
  | nil => cases h
  | cons d t =>
    have hdropped : (decide ((',' : CodePoint) = ',') && closes (d :: t)) = true := by simp [h]
    rw [normalizeFrom, if_neg (by decide), if_neg (by decide), if_neg (by simp), if_neg (by simp),
      if_pos hdropped]

end

/-! ## Strings -/

theorem normalizeFrom_double {body : Text} (h : Source.StringBody '"' body) (out t : Text) :
    normalizeFrom out .double (body ++ ('"' : CodePoint) :: t) =
      normalizeFrom ('"' :: (body.reverse ++ out)) .code t := by
  induction h generalizing out with
  | nil => cases t <;> rfl
  | @escape c body _ ih =>
    rw [List.cons_append, List.cons_append, normalizeFrom, if_pos rfl, ih]
    simp
  | @plain c body hquote hescape _ ih =>
    obtain ⟨d, more, hmore⟩ : ∃ d more, body ++ ('"' : CodePoint) :: t = d :: more :=
      List.exists_cons_of_ne_nil (by simp)
    rw [List.cons_append, hmore, normalizeFrom, if_neg hescape, if_neg hquote, ← hmore, ih]
    simp

theorem normalizeFrom_single {body : Text} (h : Source.StringBody '\'' body) (out done t : Text) :
    normalizeFrom out (.single done) (body ++ ('\'' : CodePoint) :: t) =
      normalizeFrom ((requote (done.reverse ++ body)).reverseAux out) .code t := by
  induction h generalizing done with
  | nil => cases t <;> simp [normalizeFrom]
  | @escape c body _ ih =>
    rw [List.cons_append, List.cons_append, normalizeFrom, if_pos rfl, ih]
    simp
  | @plain c body hquote hescape _ ih =>
    obtain ⟨d, more, hmore⟩ : ∃ d more, body ++ ('\'' : CodePoint) :: t = d :: more :=
      List.exists_cons_of_ne_nil (by simp)
    rw [List.cons_append, hmore, normalizeFrom, if_neg hescape, if_neg hquote, ← hmore, ih]
    simp

theorem NeverEnds.ne {mark c : CodePoint} {rest : Text} (h : NeverEnds mark (c :: rest)) :
    c ≠ mark := by
  rintro rfl
  exact h [] rest rfl .nil

theorem NeverEnds.plain {mark c : CodePoint} {rest : Text} (h : NeverEnds mark (c :: rest))
    (hc : c ≠ '\\') : NeverEnds mark rest := by
  rintro s more rfl hs
  exact h (c :: s) more rfl (.plain h.ne hc hs)

theorem NeverEnds.escape {mark c : CodePoint} {rest : Text}
    (h : NeverEnds mark ('\\' :: c :: rest)) : NeverEnds mark rest := by
  rintro s more rfl hs
  exact h ('\\' :: c :: s) more rfl (.escape c hs)

/-- A double-quoted string that never ends is kept as it is. -/
theorem normalizeFrom_openString (out body : Text) (h : NeverEnds '"' body) :
    normalizeFrom out .double body = out.reverse ++ body := by
  match body with
  | [] => simp [normalizeFrom]
  | [c] => simp [normalizeFrom]
  | c :: d :: rest =>
    rw [normalizeFrom]
    split
    case isTrue hc =>
      subst hc
      rw [normalizeFrom_openString _ rest h.escape]
      simp
    case isFalse hc =>
      rw [if_neg h.ne, normalizeFrom_openString _ (d :: rest) (h.plain hc)]
      simp

/-- A single-quoted string that never ends loses its last code point. -/
theorem normalizeFrom_openApostrophe (out done body : Text) (h : NeverEnds '\'' body) :
    normalizeFrom out (.single done) body =
      out.reverse ++ requote (done.reverse ++ body).dropLast := by
  match body with
  | [] => simp [normalizeFrom, List.reverseAux_eq]
  | [c] => simp [normalizeFrom, List.reverseAux_eq]
  | c :: d :: rest =>
    rw [normalizeFrom]
    split
    case isTrue hc =>
      subst hc
      rw [normalizeFrom_openApostrophe _ _ rest h.escape]
      simp
    case isFalse hc =>
      rw [if_neg h.ne, normalizeFrom_openApostrophe _ _ (d :: rest) (h.plain hc)]
      simp

/-! ## Comments -/

theorem normalizeFrom_line {body : Text} (h : ('\n' : CodePoint) ∉ body) (out t : Text) :
    normalizeFrom out .line (body ++ ('\n' : CodePoint) :: t) =
      normalizeFrom ('\n' :: out) .code t := by
  induction body with
  | nil => rw [List.nil_append, normalizeFrom, if_pos rfl]
  | cons c body ih =>
    obtain ⟨hc, hbody⟩ := List.ne_and_not_mem_of_not_mem_cons h
    rw [List.cons_append, normalizeFrom, if_neg hc.symm, ih hbody]

theorem normalizeFrom_openLine {body : Text} (h : ('\n' : CodePoint) ∉ body) (out : Text) :
    normalizeFrom out .line body = out.reverse := by
  induction body with
  | nil => simp [normalizeFrom]
  | cons c body ih =>
    obtain ⟨hc, hbody⟩ := List.ne_and_not_mem_of_not_mem_cons h
    rw [normalizeFrom, if_neg hc.symm, ih hbody]

theorem normalizeFrom_block {body : Text} (h : ¬("*/" : Text) <:+: body) (out t : Text) :
    normalizeFrom out .block (body ++ ('*' : CodePoint) :: '/' :: t) =
      normalizeFrom out .code t := by
  induction body with
  | nil =>
    rw [List.nil_append, normalizeFrom, if_pos (by decide)]
  | cons c body ih =>
    have hbody : ¬("*/" : Text) <:+: body :=
      fun hin => h (hin.trans (List.suffix_cons c body).isInfix)
    obtain ⟨d, more, hmore⟩ : ∃ d more, body ++ ('*' : CodePoint) :: '/' :: t = d :: more :=
      List.exists_cons_of_ne_nil (by simp)
    have hend : ¬(decide (c = '*') && decide (d = '/')) = true := by
      intro hcd
      obtain ⟨rfl, rfl⟩ : c = '*' ∧ d = '/' := by simpa using hcd
      cases body with
      | nil => exact absurd (List.cons.inj hmore).1 (by decide)
      | cons e body =>
        obtain rfl := (List.cons.inj hmore).1
        exact h ⟨[], body, rfl⟩
    rw [List.cons_append, hmore, normalizeFrom, if_neg hend, ← hmore, ih hbody]

theorem normalizeFrom_openBlock {body : Text} (h : ¬("*/" : Text) <:+: body) (out : Text) :
    normalizeFrom out .block body = out.reverse := by
  match body with
  | [] => simp [normalizeFrom]
  | [c] => simp [normalizeFrom]
  | c :: d :: rest =>
    have hend : ¬(decide (c = '*') && decide (d = '/')) = true := by
      intro hcd
      obtain ⟨rfl, rfl⟩ : c = '*' ∧ d = '/' := by simpa using hcd
      exact h ⟨[], rest, rfl⟩
    have hrest : ¬("*/" : Text) <:+: d :: rest :=
      fun hin => h (hin.trans (List.suffix_cons c _).isInfix)
    rw [normalizeFrom, if_neg hend, normalizeFrom_openBlock hrest]

/-! ## Whole texts -/

theorem Lexes.normalizeFrom_eq {t : Text} {pieces : List Piece} (h : Lexes t pieces) (out : Text) :
    normalizeFrom out .code t = out.reverse ++ image pieces := by
  induction h generalizing out with
  | nil => simp [normalizeFrom]
  | code hquote hslash hcomma _ ih =>
    rw [normalizeFrom_code out hquote hslash hcomma, ih]
    simp [Piece.image]
  | comma hcloses _ ih =>
    rw [normalizeFrom_comma out hcloses, ih]
    simp [Piece.image]
  | @quoted mark body t pieces hmark hbody _ ih =>
    have hne : body ++ mark :: t ≠ [] := by simp
    simp only [isQuote, Bool.or_eq_true, decide_eq_true_eq] at hmark
    obtain rfl | rfl := hmark
    · have hrequote : requote body = Piece.image (.quoted '\'' body) := rfl
      rw [normalizeFrom_apostrophe out hne, normalizeFrom_single hbody, ih, List.reverse_nil,
        List.nil_append, hrequote]
      simp [List.reverseAux_eq]
    · rw [normalizeFrom_quote out hne, normalizeFrom_double hbody, ih]
      simp [Piece.image, respelled]
  | line hbody _ ih =>
    rw [normalizeFrom, if_neg (by decide), if_neg (by decide), if_pos (by decide),
      normalizeFrom_line hbody, ih]
    simp [Piece.image]
  | block hbody _ ih =>
    rw [normalizeFrom, if_neg (by decide), if_neg (by decide), if_neg (by decide),
      if_pos (by decide), normalizeFrom_block hbody, ih]
    simp [Piece.image]
  | openLine hbody =>
    rw [normalizeFrom, if_neg (by decide), if_neg (by decide), if_pos (by decide),
      normalizeFrom_openLine hbody]
    simp [Piece.image]
  | openBlock hbody =>
    rw [normalizeFrom, if_neg (by decide), if_neg (by decide), if_neg (by decide),
      if_pos (by decide), normalizeFrom_openBlock hbody]
    simp [Piece.image]
  | @openString body hbody =>
    cases body with
    | nil => simp [normalizeFrom, Piece.image]
    | cons d body =>
      rw [normalizeFrom_quote out (by simp), normalizeFrom_openString _ _ hbody]
      simp [Piece.image]
  | @openApostrophe body hbody =>
    cases body with
    | nil => simp [normalizeFrom, Piece.image, List.reverseAux_eq]
    | cons d body =>
      rw [normalizeFrom_apostrophe out (by simp), normalizeFrom_openApostrophe _ _ _ hbody]
      simp [Piece.image]

/-- **Normalisation**, piece by piece. -/
theorem Lexes.normalize_eq {t : Text} {pieces : List Piece} (h : Lexes t pieces) :
    normalize t = image pieces := h.normalizeFrom_eq []

/-- Outside strings and comments the code points that are no slashes and commas are pieces. -/
theorem Lexes.bare {s : Text} (h : ∀ c ∈ s, isQuote c = false ∧ c ≠ '/' ∧ c ≠ ',') {t : Text}
    {pieces : List Piece} (hlex : Lexes t pieces) : Lexes (s ++ t) (s.map .code ++ pieces) := by
  induction s with
  | nil => exact hlex
  | cons c s ih =>
    obtain ⟨⟨hquote, hslash, hcomma⟩, hs⟩ := List.forall_mem_cons.mp h
    exact .code hquote (fun e => absurd e hslash) (fun e => absurd e hcomma) (ih hs)

theorem image_map_code (s : Text) : image (s.map .code) = s := by
  rw [image, List.flatMap_map]
  exact List.flatMap_singleton' s

/-- A text without quotation marks, slashes and commas is left alone. -/
theorem normalize_eq_self {t : Text} (h : ∀ c ∈ t, isQuote c = false ∧ c ≠ '/' ∧ c ≠ ',') :
    normalize t = t := by
  have hlex := Lexes.bare h .nil
  simp only [List.append_nil] at hlex
  rw [hlex.normalize_eq, image_map_code]

/-! ## Every text has pieces -/

/-- The first end of a block comment. -/
theorem exists_first_end {t : Text} (h : ("*/" : Text) <:+: t) :
    ∃ body rest, t = body ++ ('*' : CodePoint) :: '/' :: rest ∧ ¬("*/" : Text) <:+: body := by
  induction t with
  | nil => exact absurd (List.infix_nil.mp h) (by decide)
  | cons c t ih =>
    by_cases hc : ("*/" : Text) <+: c :: t
    · obtain ⟨rest, hrest⟩ := hc
      exact ⟨[], rest, hrest.symm, fun hin => absurd (List.infix_nil.mp hin) (by decide)⟩
    · have htail : ("*/" : Text) <:+: t := (List.infix_cons_iff.mp h).resolve_left hc
      obtain ⟨body, rest, rfl, hbody⟩ := ih htail
      refine ⟨c :: body, rest, rfl, fun hin => ?_⟩
      rcases List.infix_cons_iff.mp hin with hstart | hin
      · exact hc (hstart.trans (List.prefix_append _ _))
      · exact hbody hin

section

variable {rest : Text} (behind : ∀ more, more <:+ rest → ∃ pieces, Lexes more pieces)

include behind

/-- A quotation mark begins a string, or a string that the end of the text cuts off. -/
theorem exists_lexes_quote {mark : CodePoint} (hmark : isQuote mark = true) :
    ∃ pieces, Lexes (mark :: rest) pieces := by
  by_cases hends : ∃ s more, rest = s ++ mark :: more ∧ Source.StringBody mark s
  · obtain ⟨s, more, rfl, hs⟩ := hends
    obtain ⟨pieces, hpieces⟩ := behind more ⟨s ++ [mark], by simp⟩
    exact ⟨_, .quoted hmark hs hpieces⟩
  · have hnever : NeverEnds mark rest := fun s more hrest hs => hends ⟨s, more, hrest, hs⟩
    have hmark : mark = '\'' ∨ mark = '"' := by simpa [isQuote] using hmark
    rcases hmark with rfl | rfl
    · exact ⟨_, .openApostrophe hnever⟩
    · exact ⟨_, .openString hnever⟩

theorem exists_lexes_line : ∃ pieces, Lexes ('/' :: '/' :: rest) pieces := by
  by_cases hend : ('\n' : CodePoint) ∈ rest
  · obtain ⟨body, more, rfl, hbody⟩ := List.eq_append_cons_of_mem hend
    obtain ⟨pieces, hpieces⟩ := behind more ⟨body ++ [('\n' : CodePoint)], by simp⟩
    exact ⟨_, .line hbody hpieces⟩
  · exact ⟨_, .openLine hend⟩

theorem exists_lexes_block : ∃ pieces, Lexes ('/' :: '*' :: rest) pieces := by
  by_cases hend : ("*/" : Text) <:+: rest
  · obtain ⟨body, more, rfl, hbody⟩ := exists_first_end hend
    obtain ⟨pieces, hpieces⟩ := behind more ⟨body ++ [('*' : CodePoint), '/'], by simp⟩
    exact ⟨_, .block hbody hpieces⟩
  · exact ⟨_, .openBlock hend⟩

/-- What begins neither a string nor a comment is a piece, or a comma that is dropped. -/
theorem exists_lexes_code {c : CodePoint} (hquote : isQuote c = false)
    (hslash : c = '/' → ∀ d ∈ rest.head?, d ≠ '/' ∧ d ≠ '*') :
    ∃ pieces, Lexes (c :: rest) pieces := by
  obtain ⟨pieces, hpieces⟩ := behind rest (List.suffix_refl rest)
  by_cases hcomma : c = ',' ∧ closes rest = true
  · obtain ⟨rfl, hcloses⟩ := hcomma
    exact ⟨_, .comma hcloses hpieces⟩
  · exact ⟨_, .code hquote hslash (fun hc => by simpa using fun h => hcomma ⟨hc, h⟩) hpieces⟩

end

/-- **Every text** has pieces. -/
theorem exists_lexes (t : Text) : ∃ pieces, Lexes t pieces := by
  match t with
  | [] => exact ⟨_, .nil⟩
  | c :: rest =>
    have behind (more : Text) (h : more <:+ rest) : ∃ pieces, Lexes more pieces := exists_lexes more
    cases hquote : isQuote c with
    | true => exact exists_lexes_quote behind hquote
    | false =>
      by_cases hline : c = '/' ∧ rest.head? = some '/'
      · obtain ⟨rfl, hd⟩ := hline
        obtain ⟨body, rfl⟩ := List.head?_eq_some_iff.mp hd
        exact exists_lexes_line fun more h => behind more (h.trans (List.suffix_cons _ body))
      by_cases hblock : c = '/' ∧ rest.head? = some '*'
      · obtain ⟨rfl, hd⟩ := hblock
        obtain ⟨body, rfl⟩ := List.head?_eq_some_iff.mp hd
        exact exists_lexes_block fun more h => behind more (h.trans (List.suffix_cons _ body))
      refine exists_lexes_code behind hquote fun hc d hd => ⟨?_, ?_⟩
      · rintro rfl
        exact hline ⟨hc, hd⟩
      · rintro rfl
        exact hblock ⟨hc, hd⟩
termination_by t.length
decreasing_by exact Nat.lt_succ_of_le h.length_le

end TagAudit.Literal
