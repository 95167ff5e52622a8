import Mathlib.Data.List.Induction
import TagAudit.Proofs.Json.Reading
import TagAudit.Proofs.Source.Balanced

/-!
# Strict JSON objects are balanced

The end of a container is found by counting braces, and only then is the container read. For strict
JSON that loses nothing: whatever its strings hold, an object is one balanced span.

* `Body.stringBody`: strings end where a span thinks that they end.
* `Value.inside`: values stand inside a span, by induction on how deep they may be nested.
* `balanced_of_read`: a whole object.
-/

namespace TagAudit

namespace Source

theorem Inside.append {s t : Text} (hs : Inside s) (ht : Inside t) : Inside (s ++ t) := by
  induction hs with
  | nil => exact ht
  | escape c _ ih => exact .escape c ih
  | plain hc _ ih => exact .plain hc ih
  | string hmark hbody _ ih =>
    rw [List.cons_append, List.append_assoc, List.cons_append]
    exact .string hmark hbody ih
  | nested hs _ _ ih =>
    rw [List.cons_append, List.append_assoc, List.cons_append]
    exact .nested hs ih

theorem inside_of_plain {s : Text} (h : ∀ c ∈ s, IsPlain c) : Inside s := by
  induction s with
  | nil => exact .nil
  | cons c s ih =>
    exact .plain (h c List.mem_cons_self) (ih fun d hd => h d (List.mem_cons_of_mem c hd))

instance (c : CodePoint) : Decidable (IsPlain c) :=
  inferInstanceAs (Decidable (c ≠ '\\' ∧ c ≠ '"' ∧ c ≠ '\'' ∧ c ≠ '\x7b' ∧ c ≠ '\x7d'))

/-- A class without the five code points that open and close something is plain. -/
theorem isPlain_of_class {p : CodePoint → Bool}
    (hp : p '\\' = false ∧ p '"' = false ∧ p '\'' = false ∧ p '\x7b' = false ∧ p '\x7d' = false)
    {c : CodePoint} (hc : p c = true) : IsPlain c := by
  obtain ⟨h₁, h₂, h₃, h₄, h₅⟩ := hp
  refine ⟨?_, ?_, ?_, ?_, ?_⟩ <;> rintro rfl <;> simp_all

end Source

namespace Json

open Source (Inside IsPlain StringBody Balanced inside_of_plain isPlain_of_class)

/-! ## Blanks, words and numbers -/

theorem IsBlanks.inside {blanks : Text} (h : IsBlanks blanks) : Inside blanks :=
  inside_of_plain fun c hc => isPlain_of_class (p := isBlank) (by decide) (h c hc)

theorem IsDigits.inside {s : Text} (h : IsDigits s) : Inside s :=
  inside_of_plain fun c hc => isPlain_of_class (p := CodePoint.isAsciiDigit) (by decide) (h c hc)

theorem Minus.inside {s : Text} {negative : Bool} (h : Minus s negative) : Inside s := by
  cases h with
  | none => exact .nil
  | minus => exact .plain (by decide) .nil

theorem Fraction.inside {s places : Text} (h : Fraction s places) : Inside s := by
  cases h with
  | none => exact .nil
  | some hplaces _ => exact .plain (by decide) hplaces.inside

theorem Power.inside {s : Text} {power : Option Int} (h : Power s power) : Inside s := by
  cases h with
  | none => exact .nil
  | @some mark sign digits negative hmark hsign hdigits _ =>
    have hmark' : IsPlain mark := by rcases hmark with rfl | rfl <;> decide
    have hsign' : Inside sign := by
      cases hsign with
      | none => exact .nil
      | plus | minus => exact .plain (by decide) .nil
    exact .plain hmark' (hsign'.append hdigits.inside)

theorem Number.inside {s : Text} {v : Data} (h : Number s v) : Inside s := by
  cases h with
  | whole hminus hdigits _ => exact hminus.inside.append hdigits.digits.inside
  | real hminus hdigits hfraction hexponent _ =>
    exact hminus.inside.append
      (hdigits.digits.inside.append (hfraction.inside.append hexponent.inside))

theorem inside_of_mem_words {s : Text} {v : Data} (h : (s, v) ∈ words) : Inside s := by
  have hplain : ∀ p ∈ words, ∀ c ∈ p.1, IsPlain c := by decide
  exact inside_of_plain (hplain _ h)

/-! ## Strings -/

theorem hexValue?_ne {c : CodePoint} {n : Nat} (h : c.hexValue? = some n) : c ≠ '"' ∧ c ≠ '\\' := by
  have hquote : CodePoint.hexValue? '"' = none := by decide
  have hescape : CodePoint.hexValue? '\\' = none := by decide
  constructor <;> rintro rfl
  · rw [hquote] at h
    cases h
  · rw [hescape] at h
    cases h

/-- A letter ends neither the string nor an escape. -/
theorem Spelling.stringBody_append {s : Text} {l : Letter} (h : Spelling s l) {rest : Text}
    (hrest : StringBody '"' rest) : StringBody '"' (s ++ rest) := by
  cases h with
  | plain hquote hescape _ => exact .plain hquote hescape hrest
  | @escape e _ _ => exact .escape e hrest
  | @number d₁ d₂ d₃ d₄ c n₁ n₂ n₃ n₄ h₁ h₂ h₃ h₄ _ =>
    have plain {e : CodePoint} {n : Nat} (he : e.hexValue? = some n) {t : Text}
        (ht : StringBody '"' t) : StringBody '"' (e :: t) :=
      .plain (hexValue?_ne he).1 (hexValue?_ne he).2 ht
    exact .escape 'u' (plain h₁ (plain h₂ (plain h₃ (plain h₄ hrest))))

/-- **A string** ends where a span thinks that it ends. -/
theorem Body.stringBody {s : Text} {letters : List Letter} (h : Body s letters) :
    StringBody '"' s := by
  induction h with
  | nil => exact .nil
  | cons hs _ ih => exact hs.stringBody_append ih

theorem Body.inside_append {s : Text} {letters : List Letter} (h : Body s letters) {rest : Text}
    (hrest : Inside rest) : Inside ('"' :: (s ++ ('"' : CodePoint) :: rest)) :=
  .string (.inl rfl) h.stringBody hrest

/-! ## Values -/

section

variable {d : Dialect} {Item : Text → Data → Prop} (hitem : ∀ {s v}, Item s v → Inside s)

include hitem

theorem Items.inside {s : Text} {items : List Data} (h : Items Item s items) : Inside s := by
  induction h with
  | last hs hafter => exact (hitem hs).append (hafter.inside.append (.plain (by decide) .nil))
  | item hs hafter hbefore _ ih =>
    exact (hitem hs).append (hafter.inside.append (.plain (by decide) (hbefore.inside.append ih)))

theorem Entry.inside {s : Text} {e : Text × Data} (h : Entry d Item s e) : Inside s := by
  obtain ⟨hk, -, hafterKey, hbefore, hs⟩ := h
  exact hk.inside_append
    (hafterKey.inside.append (.plain (by decide) (hbefore.inside.append (hitem hs))))

/-- Members stand inside a span, up to the closing brace. -/
theorem Entries.inside {s : Text} {entries : List (Text × Data)} (h : Entries d Item s entries) :
    ∃ u, s = u ++ [('\x7d' : CodePoint)] ∧ Inside u := by
  induction h with
  | last he hafter => exact ⟨_, by simp, (he.inside hitem).append hafter.inside⟩
  | member he hafter hbefore _ ih =>
    obtain ⟨u, rfl, hu⟩ := ih
    exact ⟨_, by simp, (he.inside hitem).append
      (hafter.inside.append (.plain (c := ',') (by decide) (hbefore.inside.append hu)))⟩

/-- A value that begins with a brace is one balanced span. -/
theorem Form.balanced (hwords : ∀ p ∈ d.words, p ∈ words) {s : Text} {v : Data}
    (h : Form d Item s v) (hopen : s.head? = some ('\x7b' : CodePoint)) : Balanced s := by
  have hscalar (h : (s, v) ∈ words ∨ Number s v) : Balanced s := by
    obtain ⟨c, t, rfl, -, -, hbrace, -⟩ := scalar_exists_cons h
    cases hopen
    exact absurd rfl hbrace
  cases h with
  | text _ _ | emptyArray _ | array _ _ => exact absurd (Option.some.inj hopen) (by decide)
  | number h => exact hscalar (.inr h)
  | word h => exact hscalar (.inl (hwords _ h))
  | emptyObject hblanks => exact ⟨_, hblanks.inside, rfl⟩
  | object hblanks hentries _ =>
    obtain ⟨u, rfl, hu⟩ := hentries.inside hitem
    exact ⟨_, hblanks.inside.append hu, by simp⟩

theorem Form.inside (hwords : ∀ p ∈ d.words, p ∈ words) {s : Text} {v : Data}
    (h : Form d Item s v) : Inside s := by
  cases h with
  | text hs _ => exact hs.inside_append .nil
  | number h => exact h.inside
  | word h => exact inside_of_mem_words (hwords _ h)
  | emptyArray hblanks =>
    exact .plain (by decide) (hblanks.inside.append (.plain (by decide) .nil))
  | array hblanks hitems => exact .plain (by decide) (hblanks.inside.append (hitems.inside hitem))
  | emptyObject hblanks => exact .nested hblanks.inside .nil
  | object hblanks hentries _ =>
    obtain ⟨u, rfl, hu⟩ := hentries.inside hitem
    rw [← List.append_assoc]
    exact .nested (hblanks.inside.append hu) .nil

end

/-- **A value** stands inside a span. -/
theorem Value.inside {d : Dialect} (hwords : ∀ p ∈ d.words, p ∈ words) (depth : Nat) {s : Text}
    {v : Data} (h : Value d depth s v) : Inside s := by
  induction depth generalizing s v with
  | zero => exact h.elim
  | succ depth ih => exact Form.inside ih hwords h

/-- **A strict object** is one balanced span. -/
theorem balanced_of_read {s : Text} {v : Data} (h : read s = .ok v)
    (hopen : s.head? = some ('\x7b' : CodePoint))
    (hclose : s.getLast? = some ('\x7d' : CodePoint)) : Balanced s := by
  obtain ⟨before, t, after, rfl, hbefore, ht, hafter⟩ := read_eq_ok_iff.mp h
  -- Braces are no blanks, so there are none at the ends.
  have hbrace : isBlank '\x7b' = false ∧ isBlank '\x7d' = false := by decide
  obtain rfl : before = [] := by
    cases before with
    | nil => rfl
    | cons c before =>
      cases hopen
      exact absurd (hbefore _ List.mem_cons_self) (by simp [hbrace.1])
  obtain rfl : after = [] := by
    cases after using List.reverseRecOn with
    | nil => rfl
    | append_singleton after c =>
      obtain rfl : c = '\x7d' := by simpa [List.getLast?_append] using hclose
      exact absurd (hafter '\x7d' (by simp)) (by simp [hbrace.2])
  rw [List.nil_append, List.append_nil] at hopen ⊢
  exact Form.balanced (Value.inside (fun _ h => h) _) (fun _ h => h) ht hopen

end Json

end TagAudit
