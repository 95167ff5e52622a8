import Mathlib.Algebra.Group.Nat.Even
import TagAudit.Proofs.Literal.Reading

/-!
# Negated literals

Minified scripts spell the truth values as `!0` and `!1`, and marks may stand in front of any
literal. In a script a literal counts as true or false by what it is: every object and every array
counts as true, empty or not, and so does infinity. The reader goes by the value that it has read
instead.

* `Counts`: what a literal counts as in a script; `Form.exists_counts`: every literal that is no
  negation counts as something.
* `Collapses`: the literals with a value that counts otherwise (`Counts.exists_value`).
* `Marks`, `ScriptMarks`: the marks that the reader and a script find in front of a literal. Lines
  end at more code points in a script, so that a comment of one may hold a mark of the other.
* `read_chain`: the value of marks in front of a literal, and when it is the one that a script has.
-/

namespace TagAudit.Literal

/-! ## What literals count as -/

/-- The code points that end a line in a script. -/
def scriptLineEnds : List CodePoint := ['\n', '\r', '\u2028', '\u2029']

/-- A blank of a script. -/
def isScriptBlank (c : CodePoint) : Bool :=
  isBlank c || c = '\x0b' || c = '\x0c' || c = '\u2028' || c = '\u2029' || c.val == 0x1680 ||
    0x2000 ≤ c.val && c.val ≤ 0x200A || c.val == 0x202F || c.val == 0x205F || c.val == 0x3000

/-- What stands between the marks of a string that is empty in a script: line ends behind
backslashes. -/
inductive IsContinued : Text → Prop where
  | nil : IsContinued []
  | lineEnd {c : CodePoint} {s : Text} : c ∈ scriptLineEnds → IsContinued s →
    IsContinued ('\\' :: c :: s)
  | twoEnds {s : Text} : IsContinued s → IsContinued ('\\' :: '\r' :: '\n' :: s)

/-- A number that is zero. -/
inductive IsZero : Data → Prop where
  | int : IsZero (.int 0)
  | float {negative : Bool} {exponent : Int} : IsZero (.float (.finite negative 0 exponent))

/-- What the words count as. -/
def scriptWords : List (Text × Bool) := [
  ("true", true), ("false", false), ("null", false), ("undefined", false), ("NaN", false),
  ("Infinity", true)]

/-- What a literal that is no negation counts as in a script. -/
inductive Counts (Item : Text → Data → Prop) : Text → Bool → Prop where
  | object {s : Text} {entries : List (Text × Data)} : Entries Item s entries →
    Counts Item ('\x7b' :: s) true
  | array {s : Text} {items : List Data} : Items Item s items → Counts Item ('[' :: s) true
  | text {mark : CodePoint} {s t : Text} {truth : Bool} : isQuote mark = true →
    StringBody mark s t → (truth = false ↔ IsContinued s) →
    Counts Item (mark :: (s ++ [mark])) truth
  | number {s : Text} {v : Data} {truth : Bool} : Number s v → (truth = false ↔ IsZero v) →
    Counts Item s truth
  | word {s : Text} {truth : Bool} : (s, truth) ∈ scriptWords → Counts Item s truth

theorem exists_truth (P : Prop) : ∃ truth : Bool, truth = false ↔ P := by
  by_cases h : P
  · exact ⟨false, iff_of_true rfl h⟩
  · exact ⟨true, iff_of_false nofun h⟩

/-- **Every literal** is a negation or counts as something. -/
theorem Form.exists_counts {Item : Text → Data → Prop} {s : Text} {v : Data} (h : Form Item s v) :
    (∃ t, s = ('!' : CodePoint) :: t) ∨ ∃ truth, Counts Item s truth := by
  cases h with
  | object h _ => exact .inr ⟨true, .object h⟩
  | array h => exact .inr ⟨true, .array h⟩
  | @text mark s t hmark hbody =>
    obtain ⟨truth, htruth⟩ := exists_truth (IsContinued s)
    exact .inr ⟨truth, .text hmark hbody htruth⟩
  | number h =>
    obtain ⟨truth, htruth⟩ := exists_truth (IsZero v)
    exact .inr ⟨truth, .number h htruth⟩
  | keyword h =>
    have hword : ∀ entry ∈ keywords, ∃ truth, (entry.1, truth) ∈ scriptWords := by decide
    obtain ⟨truth, htruth⟩ := hword _ h
    exact .inr ⟨truth, .word htruth⟩
  | negation _ _ _ => exact .inl ⟨_, rfl⟩

/-- A literal whose value counts otherwise than the literal: an empty object, an empty array,
infinity, and a string of escaped line ends that is not empty for the reader. -/
inductive Collapses : Text → Prop where
  | object {gap : Text} : IsGap gap → Collapses ('\x7b' :: (gap ++ [('\x7d' : CodePoint)]))
  | array {gap : Text} : IsGap gap → Collapses ('[' :: (gap ++ [(']' : CodePoint)]))
  | infinity : Collapses "Infinity"
  | text {mark : CodePoint} {s t : Text} : isQuote mark = true → IsContinued s →
    StringBody mark s t → t ≠ [] → Collapses (mark :: (s ++ [mark]))

/-! ## What values count as -/

theorem scriptWords_spec {s : Text} {truth : Bool} (h : (s, truth) ∈ scriptWords) :
    ∃ v, (s, v) ∈ keywords ∧ (v.isTruthy = truth ↔ s ≠ "Infinity") := by
  simp only [scriptWords, List.mem_cons, Prod.mk.injEq, List.not_mem_nil, or_false] at h
  obtain ⟨rfl, rfl⟩ | ⟨rfl, rfl⟩ | ⟨rfl, rfl⟩ | ⟨rfl, rfl⟩ | ⟨rfl, rfl⟩ | ⟨rfl, rfl⟩ := h
  all_goals exact ⟨_, by simp [keywords]; rfl, by decide⟩

/-- A literal has one value. -/
theorem value_unique {depth depth' : Nat} {s : Text} {v v' : Data} (h : Value depth s v)
    (h' : Value depth' s v') : v = v' := by
  have hread {depth : Nat} {v : Data} (h : Value depth s v) :
      readValue s.length depth s = .ok (v, []) := by
    have hread := readValue_accepts s.length depth .nil h (nofun : Stops []) (Nat.le_refl _)
    rwa [List.nil_append, List.append_nil] at hread
  -- The reader that may go deeper reads the same.
  have unique_of_le {depth depth' : Nat} {v v' : Data} (h : Value depth s v)
      (h' : Value depth' s v') (hle : depth ≤ depth') : v = v' := by
    have hgives := readValue_givesUp s.length hle s
    rw [hread h, hread h'] at hgives
    obtain hdeep | heq := hgives
    · cases hdeep
    · cases heq
      rfl
  obtain hle | hle := Nat.le_total depth depth'
  · exact unique_of_le h h' hle
  · exact (unique_of_le h' h hle).symm

theorem Number.falsy_iff {s : Text} {v : Data} (h : Number s v) : Falsy v ↔ IsZero v := by
  obtain ⟨-, -, hdenotes⟩ := h
  constructor
  · intro hfalsy
    cases hfalsy with
    | int => exact .int
    | float => exact .float
    | null | false | text | array | object => cases hdenotes
  · intro hzero
    cases hzero with
    | int => exact .int
    | float => exact .float

theorem StringBody.isContinued {mark : CodePoint} {s t : Text} (h : StringBody mark s t)
    (ht : t = []) : IsContinued s := by
  induction h with
  | nil => exact .nil
  | plain _ _ _ _ _ => cases ht
  | escape he _ ih =>
    obtain ⟨rfl, ht⟩ := List.append_eq_nil_iff.mp ht
    cases he
    exact .lineEnd (by decide) (ih ht)

/-- The value of a literal that collapses. -/
theorem Collapses.value_cases {depth : Nat} {s : Text} {v : Data} (h : Collapses s)
    (hvalue : Value depth s v) :
    v = .object [] ∨ v = .array [] ∨ s = "Infinity" ∧ v = .null ∨
      ∃ mark body t, s = mark :: (body ++ [mark]) ∧ IsContinued body ∧ t ≠ [] ∧ v = .text t := by
  have value_of {w : Data} (hw : Value 1 s w) : v = w := value_unique hvalue hw
  cases h with
  | object hgap => exact .inl (value_of (Form.object (.close hgap) (Members.merged_iff.mpr rfl)))
  | array hgap => exact .inr (.inl (value_of (Form.array (.close hgap))))
  | infinity => exact .inr (.inr (.inl ⟨rfl, value_of (Form.keyword (by simp [keywords]))⟩))
  | @text mark body t hmark hcontinued hbody ht =>
    have hv : v = .text t := value_of (Form.text hmark hbody)
    exact .inr (.inr (.inr ⟨mark, body, t, rfl, hcontinued, ht, hv⟩))

section

variable {depth : Nat} {s : Text}

theorem collapses_object_iff {entries : List (Text × Data)} (h : Entries (Value depth) s entries) :
    Collapses ('\x7b' :: s) ↔ Members.ofList entries = [] := by
  have hvalue : Value (depth + 1) ('\x7b' :: s) (.object (Members.ofList entries)) :=
    Form.object h (Members.merged_iff.mpr rfl)
  constructor
  · intro hcollapses
    simpa using hcollapses.value_cases hvalue
  · intro hempty
    have hkeys (key : Text) : key ∉ Members.keys entries := by
      rw [← Members.mem_keys_ofList, hempty]
      exact List.not_mem_nil
    cases h with
    | close hgap => exact .object hgap
    | @last _ _ _ _ _ _ key _ _ _ _ _ _ _ => exact absurd List.mem_cons_self (hkeys key)
    | @member _ _ _ _ _ _ _ key _ _ _ _ _ _ _ _ _ => exact absurd List.mem_cons_self (hkeys key)

theorem collapses_array_iff {items : List Data} (h : Items (Value depth) s items) :
    Collapses ('[' :: s) ↔ items = [] := by
  have hvalue : Value (depth + 1) ('[' :: s) (.array items) := Form.array h
  constructor
  · intro hcollapses
    simpa using hcollapses.value_cases hvalue
  · rintro rfl
    cases h with
    | close hgap => exact .array hgap

theorem collapses_text_iff {mark : CodePoint} {t : Text} (hmark : isQuote mark = true)
    (h : StringBody mark s t) : Collapses (mark :: (s ++ [mark])) ↔ IsContinued s ∧ t ≠ [] := by
  have hvalue : Value 1 (mark :: (s ++ [mark])) (.text t) := Form.text hmark h
  constructor
  · intro hcollapses
    obtain hv | hv | ⟨-, hv⟩ | ⟨mark', body, t', hs, hbody, ht, hv⟩ := hcollapses.value_cases hvalue
    · cases hv
    · cases hv
    · cases hv
    · cases hv
      obtain ⟨rfl, hs⟩ := List.cons.inj hs
      exact ⟨List.append_cancel_right hs ▸ hbody, ht⟩
  · rintro ⟨hs, ht⟩
    exact .text hmark hs h ht

theorem Number.not_collapses {v : Data} (h : Number s v) : ¬Collapses s := by
  intro hcollapses
  have hvalue : Value 1 s v := Form.number h
  obtain ⟨-, -, hdenotes⟩ := h
  obtain rfl | rfl | ⟨-, rfl⟩ | ⟨_, _, _, -, -, -, rfl⟩ := hcollapses.value_cases hvalue <;>
    cases hdenotes

theorem collapses_word_iff {v : Data} (h : (s, v) ∈ keywords) : Collapses s ↔ s = "Infinity" := by
  have hvalue : Value 1 s v := Form.keyword h
  constructor
  · intro hcollapses
    obtain rfl | rfl | ⟨hs, -⟩ | ⟨_, _, _, -, -, -, rfl⟩ := hcollapses.value_cases hvalue
    · simp [keywords] at h
    · simp [keywords] at h
    · exact hs
    · simp [keywords] at h
  · rintro rfl
    exact .infinity

/-- **A literal and its value** count as the same unless the literal collapses. -/
theorem Counts.exists_value {truth : Bool} (h : Counts (Value depth) s truth) :
    ∃ v, Value (depth + 1) s v ∧ (v.isTruthy = truth ↔ ¬Collapses s) := by
  cases h with
  | object h =>
    refine ⟨_, Form.object h (Members.merged_iff.mpr rfl), ?_⟩
    simp [Data.isTruthy, collapses_object_iff h]
  | array h =>
    refine ⟨_, Form.array h, ?_⟩
    simp [Data.isTruthy, collapses_array_iff h]
  | @text mark s t _ hmark h htruth =>
    refine ⟨.text t, Form.text hmark h, ?_⟩
    have hempty : t = [] → truth = false := fun ht => htruth.mpr (h.isContinued ht)
    rw [collapses_text_iff hmark h, ← htruth]
    cases t <;> cases truth <;> simp_all [Data.isTruthy]
  | @number s v _ h htruth =>
    refine ⟨v, Form.number h, iff_of_true ?_ h.not_collapses⟩
    rw [← h.falsy_iff, ← isTruthy_eq_false_iff] at htruth
    cases hv : v.isTruthy <;> cases truth <;> simp_all
  | word h =>
    obtain ⟨v, hv, htruth⟩ := scriptWords_spec h
    exact ⟨v, Form.keyword hv, by rw [collapses_word_iff hv, htruth]⟩

end

/-! ## Marks -/

/-- The truth value behind marks in a script. -/
def negated : Nat → Bool → Bool
  | 0, truth => truth
  | marks + 1, truth => !negated marks truth

/-- Marks in pairs change nothing. -/
theorem eq_negated_iff {marks : Nat} {truth truth' : Bool} :
    truth = negated marks truth' ↔ (Even marks ↔ truth = truth') := by
  induction marks generalizing truth with
  | zero => simp [negated]
  | succ marks ih =>
    rw [negated, ← Bool.not_eq_eq_eq_not, ih, Nat.even_add_one]
    cases truth <;> cases truth' <;> simp

theorem negated_eq_iff {marks marks' : Nat} {truth truth' : Bool} :
    negated marks truth = negated marks' truth' ↔ (Even (marks + marks') ↔ truth = truth') := by
  rw [eq_negated_iff, eq_comm, eq_negated_iff, Nat.even_add, eq_comm (a := truth)]
  by_cases Even marks <;> by_cases Even marks' <;> simp [*]

/-- Marks, with the gaps in front of them and behind them, as the reader finds them. -/
inductive Marks : Text → Nat → Prop where
  | gap {gap : Text} : IsGap gap → Marks gap 0
  | mark {gap front : Text} {marks : Nat} : IsGap gap → Marks front marks →
    Marks (gap ++ ('!' : CodePoint) :: front) (marks + 1)

/-- Marks, blanks and comments as a script finds them. -/
inductive ScriptMarks : Text → Nat → Prop where
  | nil : ScriptMarks [] 0
  | mark {rest : Text} {marks : Nat} : ScriptMarks rest marks →
    ScriptMarks ('!' :: rest) (marks + 1)
  | blank {c : CodePoint} {rest : Text} {marks : Nat} : isScriptBlank c = true →
    ScriptMarks rest marks → ScriptMarks (c :: rest) marks
  | line {body rest : Text} {c : CodePoint} {marks : Nat} : (∀ d ∈ body, d ∉ scriptLineEnds) →
    c ∈ scriptLineEnds → ScriptMarks rest marks →
    ScriptMarks ('/' :: '/' :: (body ++ c :: rest)) marks
  | block {body rest : Text} {marks : Nat} : (¬("*/" : Text) <:+: body) → ScriptMarks rest marks →
    ScriptMarks ('/' :: '*' :: (body ++ ('*' : CodePoint) :: '/' :: rest)) marks

/-- What a script finds behind its last token, where the last line needs no end. -/
inductive ScriptTail : Text → Prop where
  | gap {gap : Text} : ScriptMarks gap 0 → ScriptTail gap
  | line {gap body : Text} : ScriptMarks gap 0 → (∀ d ∈ body, d ∉ scriptLineEnds) →
    ScriptTail (gap ++ ('/' : CodePoint) :: '/' :: body)

/-- A text that is marks in front of a literal both for the reader and for a script: how many marks
the reader finds and how many a script does, the literal, and what it counts as. -/
inductive Chain : Text → Nat → Nat → Text → Bool → Prop where
  | mk {front operand tail : Text} {marks marks' depth : Nat} {truth : Bool} :
    Marks front marks → ScriptMarks front marks' → Counts (Value depth) operand truth →
    IsTail tail → ScriptTail tail → Chain (front ++ (operand ++ tail)) marks marks' operand truth

/-- What the reader makes of marks in front of a literal. -/
theorem Marks.exists_value {front s : Text} {marks depth : Nat} {v : Data} (h : Marks front marks)
    (hv : Value depth s v) :
    ∃ gap t w, front ++ s = gap ++ t ∧ IsGap gap ∧ Value (depth + marks) t w ∧
      w.isTruthy = negated marks v.isTruthy ∧
      (0 < marks → w = .bool (negated marks v.isTruthy)) := by
  induction h with
  | @gap gap hgap => exact ⟨gap, s, v, rfl, hgap, hv, rfl, nofun⟩
  | @mark gap front marks hgap _ ih =>
    obtain ⟨gap', t, w, ht, hgap', hw, htruthy, -⟩ := ih
    have hvalue : Value (depth + (marks + 1)) ('!' :: (gap' ++ t)) (.bool !w.isTruthy) :=
      Form.negation hgap' hw (eq_not_isTruthy.mpr rfl)
    rw [htruthy] at hvalue
    exact ⟨gap, _, _, by rw [List.append_assoc, List.cons_append, ht], hgap, hvalue, rfl,
      fun _ => rfl⟩

/-- **Marks in front of a literal** give a truth value if they are read. It is the one that a script
has, if the literal does not collapse and the reader finds an even number of marks more or less, or
neither. -/
theorem read_chain {text operand : Text} {v : Data} {marks marks' : Nat} {truth : Bool}
    (hread : read text = .ok v) (hchain : Chain text marks marks' operand truth)
    (hmarks : 0 < marks) :
    ∃ b, v = .bool b ∧
      (b = negated marks' truth ↔ (Even (marks + marks') ↔ ¬Collapses operand)) := by
  obtain @⟨front, _, tail, _, _, _, _, hfront, -, hcounts, htail, -⟩ := hchain
  obtain ⟨w, hw, htruth⟩ := hcounts.exists_value
  obtain ⟨gap, t, u, ht, hgap, hu, -, hbool⟩ := hfront.exists_value hw
  have hrenders : Renders _ (front ++ (operand ++ tail)) u :=
    ⟨gap, t, tail, by rw [← List.append_assoc, ht, List.append_assoc], hgap, hu, htail⟩
  have hvalue : v = u := by
    obtain hok | hdeep := hrenders.read_or_tooDeep
    · rw [hread] at hok
      exact Except.ok.inj hok
    · rw [hread] at hdeep
      cases hdeep
  refine ⟨_, hvalue.trans (hbool hmarks), ?_⟩
  rw [negated_eq_iff, htruth]

/-- Two marks, with a third one in the comment between them. -/
def markedText : Text := "!/*!*/!'a'"

theorem markedText_chain : Chain markedText 2 2 "'a'" true := by
  have hbody : ¬("*/" : Text) <:+: "!" := by decide
  have hgap : IsGap "/*!*/" := .block hbody .nil
  have hmarks : Marks "!/*!*/!" 2 := .mark .nil (.mark hgap (.gap .nil))
  have hscript : ScriptMarks "!/*!*/!" 2 := .mark (.block hbody (.mark .nil))
  have hstring : StringBody '\'' "a" "a" := .plain (by decide) (by decide) (by decide) .nil
  have hcounts : Counts (Value 0) "'a'" true :=
    .text (by decide) hstring (iff_of_false nofun nofun)
  exact .mk hmarks hscript hcounts (.gap .nil) (.gap .nil)

theorem markedText_read :
    read markedText = .ok (.bool true) ∧ Chain markedText 2 2 "'a'" true ∧ 0 < 2 ∧
      ∃ b, Data.bool true = .bool b ∧
        (b = negated 2 true ↔ (Even (2 + 2) ↔ ¬Collapses "'a'")) :=
  have hread : read markedText = .ok (.bool true) := by cbv
  ⟨hread, markedText_chain, by decide, read_chain hread markedText_chain (by decide)⟩

/-- An empty array counts as true in a script, where a mark in front of it makes false. -/
theorem emptyArray_negated :
    Chain "![]" 1 1 "[]" true ∧ negated 1 true = false ∧ read "![]" = .ok (.bool true) := by
  refine ⟨?_, rfl, by cbv⟩
  have hcounts : Counts (Value 0) "[]" true := .array (.close .nil)
  exact .mk (.mark .nil (.gap .nil)) (.mark .nil) hcounts (.gap .nil) (.gap .nil)

/-- A carriage return ends a comment for a script only, which finds two marks here. -/
example : read "!//\r!\n0" = .ok (.bool true) ∧ negated 2 false = false :=
  ⟨by cbv, rfl⟩

end TagAudit.Literal
