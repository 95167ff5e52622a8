import Mathlib.Data.List.TakeDrop
import Mathlib.Data.List.TakeWhile
import TagAudit.Text.CodePoint

/-!
# Runs

The code points of one class at the front of a text, and what follows them.

* `span_run`: a run in front of something that does not continue it.
* `span_sound`: what is split off is a run, and the longest one.
* `run_unique`: a text begins with one such run only.
-/

namespace TagAudit.Text

variable {p : CodePoint → Bool}

theorem span_run {s rest : Text} (hs : ∀ c ∈ s, p c = true)
    (hrest : ∀ c ∈ rest.head?, p c = false) : (s ++ rest).span p = (s, rest) := by
  rw [List.span_eq_takeWhile_dropWhile, List.takeWhile_append_of_pos hs,
    List.dropWhile_append_of_pos hs]
  cases rest with
  | nil => simp
  | cons c rest => simp [hrest c rfl]

theorem span_sound {text s rest : Text} (h : text.span p = (s, rest)) :
    text = s ++ rest ∧ (∀ c ∈ s, p c = true) ∧ ∀ c ∈ rest.head?, p c = false := by
  rw [List.span_eq_takeWhile_dropWhile, Prod.mk.injEq] at h
  obtain ⟨rfl, rfl⟩ := h
  refine ⟨List.takeWhile_append_dropWhile.symm, fun c hc => List.mem_takeWhile_imp hc, ?_⟩
  intro c hc
  have := List.head?_dropWhile_not p text
  rw [hc] at this
  simpa using this

theorem run_unique {s s' rest rest' : Text} (h : s ++ rest = s' ++ rest')
    (hs : ∀ c ∈ s, p c = true) (hs' : ∀ c ∈ s', p c = true)
    (hrest : ∀ c ∈ rest.head?, p c = false) (hrest' : ∀ c ∈ rest'.head?, p c = false) :
    s = s' ∧ rest = rest' := by
  have hspan := span_run hs hrest
  rw [h, span_run hs' hrest', Prod.mk.injEq] at hspan
  exact ⟨hspan.1.symm, hspan.2.symm⟩

end TagAudit.Text
