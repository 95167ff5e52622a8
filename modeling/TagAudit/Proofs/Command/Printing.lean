import TagAudit.Command.Outcome
import TagAudit.Proofs.Json.CodePoints
import TagAudit.Proofs.Pattern.Replacing
import TagAudit.Proofs.Text.Utf8

/-!
# Which messages can be printed

Styles are ASCII, so that a message without them has a surrogate exactly if it had one before. Only
messages without surrogates can be printed, and the first one that cannot be ends the command.

* `encodable_line_iff`: printing takes no surrogates away.
* `ExitsIf`: a command that exits with a code on some condition and is broken off without it.
* `printing_exitsIf`: messages are printed if all of them have an encoding.
-/

namespace TagAudit.Outcome

open Pattern (Takes takes_all_cons at?_sound at?_place_of_mem_findAll mem_removeAll_iff)

/-! ## Styles -/

theorem ascii_of_takes_stylePattern {x : Pattern.Place} {t : Text} (h : Takes stylePattern x t) :
    ∀ c ∈ t, c.val < 0x80 := by
  have hclass (cls : CharClass) (hascii : cls ∈ [CharClass.single '\x1b', .single '[',
      { items := [.range 0x3B 0x3B, .range 0x3F 0x3F, .range 0x30 0x39] },
      { items := [.range 0x41 0x5A, .range 0x61 0x7A] }]) (c : CodePoint)
      (hc : cls.mem c = true) : c.val < 0x80 := by
    have hescape : (CodePoint.ofChar '\x1b').val = 0x1B := rfl
    have hbracket : (CodePoint.ofChar '[').val = 0x5B := rfl
    simp only [List.mem_cons, List.not_mem_nil, or_false] at hascii
    obtain rfl | rfl | rfl | rfl := hascii
    all_goals
      simp [CharClass.single, CharClass.mem, ClassItem.mem, hescape, hbracket] at hc
      omega
  unfold stylePattern at h
  simp only [takes_all_cons] at h
  obtain ⟨_, _, rfl, ⟨c₁, rfl, h₁⟩, _, _, rfl, ⟨c₂, rfl, h₂⟩, _, _, rfl, ⟨h₃, -, -⟩, _, _, rfl,
    ⟨c₄, rfl, h₄⟩, rfl⟩ := h
  simp only [List.forall_mem_append, List.forall_mem_singleton]
  exact ⟨hclass _ (by simp) c₁ h₁, hclass _ (by simp) c₂ h₂,
    fun c hc => hclass _ (by simp) c (h₃ c hc), hclass _ (by simp) c₄ h₄, List.forall_mem_nil _⟩

/-- Printing takes no surrogates away. -/
theorem encodable_line_iff {t : Text} : (line t).IsEncodable ↔ t.IsEncodable := by
  have hmem (c : CodePoint) (hc : c.isSurrogate = true) : c ∈ line t ↔ c ∈ t := by
    have hkept : c ∈ line t ↔ c ∈ t ++ ("\n" : Text) := by
      refine mem_removeAll_iff fun m hm hcm => ?_
      have hat := at?_place_of_mem_findAll hm
      have hascii := ascii_of_takes_stylePattern (at?_sound hat).2.2.2 c hcm
      simp only [CodePoint.isSurrogate, Bool.and_eq_true, decide_eq_true_eq] at hc
      omega
    have hbreak : c ∉ ("\n" : Text) := by
      intro h
      obtain rfl := List.mem_singleton.mp h
      cases hc
    rw [hkept, List.mem_append, or_iff_left hbreak]
  rw [Text.isEncodable_iff, Text.isEncodable_iff]
  exact forall₂_congr fun c hc => not_congr (hmem c hc)

/-! ## Endings -/

/-- A command exits with a code exactly if a condition holds, and is broken off by a fault else. -/
inductive ExitsIf (o : Outcome) (code : ExitCode) (condition : Prop) : Prop where
  | exits : condition → o.ending = .exit code.number → ExitsIf o code condition
  | broken {fault : Fault} : ¬condition → o.ending = .broken fault → ExitsIf o code condition

namespace ExitsIf

variable {o : Outcome} {code : ExitCode} {condition : Prop}

theorem of_iff {condition' : Prop} (h : ExitsIf o code condition)
    (hiff : condition ↔ condition') : ExitsIf o code condition' := propext hiff ▸ h

theorem exit_iff (h : ExitsIf o code condition) :
    o.ending = .exit code.number ↔ condition := by
  cases h with
  | exits hcondition hending => exact iff_of_true hending hcondition
  | broken hcondition hending => exact iff_of_false (by rw [hending]; nofun) hcondition

theorem exit_or_broken (h : ExitsIf o code condition) :
    o.ending = .exit code.number ∨ ∃ fault, o.ending = .broken fault := by
  cases h with
  | exits _ hending => exact .inl hending
  | broken _ hending => exact .inr ⟨_, hending⟩

end ExitsIf

/-- **Printing.** All messages have to be there and to have an encoding. -/
theorem printing_exitsIf (code : ExitCode) (done : Text) (messages : List (Except Fault Text)) :
    ExitsIf (printing code done messages) code
      (∀ message ∈ messages, ∃ t, message = .ok t ∧ t.IsEncodable) := by
  induction messages generalizing done with
  | nil => exact .exits nofun rfl
  | cons message rest ih =>
    cases message with
    | error fault =>
      refine .broken (fun h => ?_) rfl
      obtain ⟨t, ht, -⟩ := h _ List.mem_cons_self
      cases ht
    | ok t =>
      have hfirst : (∃ s, (.ok t : Except Fault Text) = .ok s ∧ s.IsEncodable) ↔ t.IsEncodable := by
        simp only [Except.ok.injEq, exists_eq_left']
      have hplain : Utf8.surrogates? (line t) = none ↔ t.IsEncodable :=
        Utf8.surrogates?_eq_none_iff.trans encodable_line_iff
      rw [printing]
      cases hline : Utf8.surrogates? (line t) with
      | some fault =>
        refine .broken (fun h => ?_) rfl
        have := hplain.mpr (hfirst.mp (h _ List.mem_cons_self))
        rw [hline] at this
        cases this
      | none =>
        refine (ih (done ++ line t)).of_iff ?_
        rw [List.forall_mem_cons, hfirst, and_iff_right (hplain.mp hline)]

end TagAudit.Outcome
