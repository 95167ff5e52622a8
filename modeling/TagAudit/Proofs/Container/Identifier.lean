import TagAudit.Container.Identifier
import TagAudit.Proofs.Pattern.Matching

/-!
# Which identifiers are taken

The pattern of identifiers ends where a text ends, and also in front of a line end that ends it. An
identifier is stripped of blanks before it is checked, and a line end is one.

* `IsName`: `GTM-`, then capital letters and digits, and nothing else.
* `isIdentifier_iff`: the texts that the pattern takes.
* `isIdentifier_strip_iff`: without blanks at the ends, these are the names.
-/

namespace TagAudit.Container

open Pattern

/-- `GTM-`, then at least one capital letter or digit of ASCII, and nothing else. -/
def IsName (t : Text) : Prop :=
  ∃ s : Text, t = ("GTM-" : Text) ++ s ∧ s ≠ [] ∧
    ∀ c ∈ s, c.isAsciiUpper = true ∨ c.isAsciiDigit = true

theorem mem_capitalOrDigit {c : CodePoint} :
    capitalOrDigit.mem c = true ↔ c.isAsciiUpper = true ∨ c.isAsciiDigit = true := by
  simp [capitalOrDigit, CharClass.mem, ClassItem.mem, CodePoint.isAsciiUpper,
    CodePoint.isAsciiDigit]

theorem takes_identifierPattern {text t : Text} :
    Takes identifierPattern (Place.start text) t ↔
      IsName t ∧ atStop ((Place.start text).after t).rest = true := by
  unfold identifierPattern
  simp only [takes_all_cons, takes_literal]
  constructor
  · rintro ⟨_, _, rfl, ⟨rfl, -⟩, _, _, rfl, rfl, s, _, rfl, ⟨hall, hleast, -⟩, _, _, rfl,
      ⟨rfl, hstop⟩, rfl⟩
    refine ⟨⟨s, by simp, List.ne_nil_of_length_pos hleast, fun c hc => ?_⟩, ?_⟩
    · exact mem_capitalOrDigit.mp (hall c hc)
    · simp only [List.nil_append, List.append_nil, Place.after_append]
      exact hstop
  · rintro ⟨⟨s, rfl, hne, hall⟩, hstop⟩
    refine ⟨[], _, rfl, ⟨rfl, rfl⟩, _, s, rfl, rfl, s, [], by simp, ⟨fun c hc => ?_, ?_, nofun⟩,
      [], [], rfl, ⟨rfl, ?_⟩, rfl⟩
    · exact mem_capitalOrDigit.mpr (hall c hc)
    · exact List.length_pos_of_ne_nil hne
    · rwa [Place.after_append] at hstop

/-- **The check** takes names, and names with a line end behind them. -/
theorem isIdentifier_iff {t : Text} :
    isIdentifier t = true ↔ IsName t ∨ ∃ s, IsName s ∧ t = s ++ ("\n" : Text) := by
  have hat : isIdentifier t = (identifierPattern.at? (Place.start t)).isSome := rfl
  rw [hat, isSome_at?_iff]
  simp only [takes_identifierPattern]
  constructor
  · rintro ⟨s, ⟨rest, rfl⟩, hname, hstop⟩
    rw [Place.rest_after_append rfl, atStop, Bool.or_eq_true, decide_eq_true_eq,
      decide_eq_true_eq] at hstop
    rcases hstop with rfl | rfl
    · rw [List.append_nil]
      exact .inl hname
    · exact .inr ⟨s, hname, rfl⟩
  · rintro (hname | ⟨s, hname, rfl⟩)
    · refine ⟨t, List.prefix_refl t, hname, ?_⟩
      rw [Place.rest_after_append (List.append_nil t).symm]
      rfl
    · refine ⟨s, List.prefix_append _ _, hname, ?_⟩
      rw [Place.rest_after_append rfl]
      rfl

/-- A text without blanks at its ends has no line end there. -/
theorem strip_ne_concat (t s : Text) {c : CodePoint} (hc : c.isBlank = true) :
    t.strip ≠ s ++ [c] := by
  intro h
  unfold Text.strip Text.stripRight at h
  have hfirst := List.head?_dropWhile_not CodePoint.isBlank t.stripLeft.reverse
  rw [List.reverse_eq_iff.mp h, List.reverse_concat, List.head?_cons] at hfirst
  simp [hc] at hfirst

/-- **The check of a stripped text** takes names and nothing else. -/
theorem isIdentifier_strip_iff {t : Text} : isIdentifier t.strip = true ↔ IsName t.strip := by
  rw [isIdentifier_iff]
  refine or_iff_left ?_
  rintro ⟨s, -, h⟩
  exact strip_ne_concat t s (by decide) h

end TagAudit.Container
