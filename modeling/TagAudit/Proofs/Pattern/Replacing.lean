import TagAudit.Proofs.Pattern.Matching

/-!
# What is left of a text without its matches

The next match is sought in the text behind a match, so that matches are cut out of a text one by
one and the rest of it stays.

* `at?_place_of_mem_findAll`: every match is the match at the place where it starts.
* `mem_removeAll_iff`: a code point that no match takes is left exactly if it was there.
-/

namespace TagAudit.Pattern

variable {p : Pattern}

/-- Every match is the match at a place of the text. -/
theorem exists_front_of_mem_findFrom {m : Match} {skip offset : Nat} {before : Option CodePoint}
    {text : Text} (hm : m ∈ p.findFrom [] skip offset before text) :
    ∃ t, t <+: text ∧ p.at? (Place.after ⟨offset, before, text⟩ t) = some m := by
  induction text generalizing skip offset before with
  | nil =>
    cases skip with
    | succ => cases hat : p.matchAt? offset before [] <;> simp [findFrom, hat] at hm
    | zero =>
      cases hat : p.matchAt? offset before [] with
      | none => simp [findFrom, hat] at hm
      | some found =>
        obtain rfl : m = found := by simpa [findFrom, hat] using hm
        exact ⟨[], List.nil_prefix, hat⟩
  | cons c rest ih =>
    have hnext : (∃ t, t <+: rest ∧ p.at? (Place.after ⟨offset + 1, some c, rest⟩ t) = some m) →
        ∃ t, t <+: c :: rest ∧ p.at? (Place.after ⟨offset, before, c :: rest⟩ t) = some m := by
      rintro ⟨t, ht, hat⟩
      exact ⟨c :: t, List.cons_prefix_cons.mpr ⟨rfl, ht⟩, hat⟩
    cases skip with
    | succ skip => exact hnext (ih hm)
    | zero =>
      rw [findFrom] at hm
      cases hat : p.matchAt? offset before (c :: rest) with
      | none =>
        rw [hat] at hm
        exact hnext (ih hm)
      | some found =>
        rw [hat] at hm
        dsimp only at hm
        rw [findFrom_append, List.mem_append] at hm
        obtain hm | hm := hm
        · obtain rfl : m = found := by simpa using hm
          exact ⟨[], List.nil_prefix, hat⟩
        · exact hnext (ih hm)

/-- The place of a text at which a match starts. -/
def Match.place (m : Match) (text : Text) : Place := (Place.start text).after (text.take m.offset)

/-- **Every match** is the match at its place. -/
theorem at?_place_of_mem_findAll {m : Match} {text : Text} (hm : m ∈ p.findAll text) :
    p.at? (m.place text) = some m := by
  obtain ⟨t, ht, hat⟩ := exists_front_of_mem_findFrom hm
  have hoffset : m.offset = t.length := by
    rw [(at?_sound hat).1, Place.offset_after]
    exact Nat.zero_add _
  rw [Match.place, hoffset, ← List.prefix_iff_eq_take.mp ht]
  exact hat

/-- A match behind what was passed is cut out, and the search goes on behind it. -/
theorem mem_replacePieces_cons {c : CodePoint} {m : Match} {ms : List Match} {start : Nat}
    {passed : Text} (taken rest : Text) (hstart : start + passed.length = m.offset)
    (htaken : m.text = taken) (hc : c ∉ taken) :
    (c ∈ (replacePieces (fun _ => []) start (passed ++ (taken ++ rest)) (m :: ms)).flatten ↔
        c ∈ passed ++ (taken ++ rest)) ↔
      (c ∈ passed ∨ c ∈ (replacePieces (fun _ => []) (m.offset + taken.length) rest ms).flatten ↔
        c ∈ passed ∨ c ∈ rest) := by
  have hbefore : m.offset - start = passed.length := by omega
  have hdrop : (passed ++ (taken ++ rest)).drop (passed.length + taken.length) = rest := by
    rw [← List.drop_drop, List.drop_left, List.drop_left]
  rw [replacePieces, htaken, hbefore, hdrop, List.take_left]
  simp [hc]

/-- What is left of a text, of which `passed` was passed without a match and `skip` code points are
still to be skipped. -/
theorem mem_replacePieces_iff {c : CodePoint} (text : Text) (skip offset start : Nat)
    (before : Option CodePoint) (passed : Text) (hpassed : skip = 0 ∨ passed = [])
    (hstart : start + passed.length = offset + skip)
    (hc : ∀ m ∈ p.findFrom [] skip offset before text, c ∉ m.text) :
    c ∈ (replacePieces (fun _ => []) start (passed ++ text.drop skip)
      (p.findFrom [] skip offset before text)).flatten ↔ c ∈ passed ++ text.drop skip := by
  induction text generalizing skip offset start before passed with
  | nil =>
    cases skip with
    | succ => cases hat : p.matchAt? offset before [] <;> simp [findFrom, hat, replacePieces]
    | zero =>
      cases hat : p.matchAt? offset before [] with
      | none => simp [findFrom, hat, replacePieces]
      | some m =>
        obtain ⟨hoffset, -, htext, -⟩ := at?_sound (x := ⟨offset, before, []⟩) hat
        have hfound : p.findFrom [] 0 offset before [] = [m] := by simp [findFrom, hat]
        have hempty : m.text = [] := List.prefix_nil.mp htext
        rw [hfound, List.drop_zero]
        refine (mem_replacePieces_cons [] [] ?_ hempty (List.not_mem_nil)).mpr ?_
        · exact hstart.trans hoffset.symm
        · simp [replacePieces]
  | cons d rest ih =>
    cases skip with
    | succ skip =>
      obtain rfl : passed = [] := hpassed.resolve_left (Nat.succ_ne_zero skip)
      rw [findFrom] at hc ⊢
      exact ih skip (offset + 1) start (some d) [] (.inr rfl) (by omega) hc
    | zero =>
      rw [findFrom] at hc ⊢
      rw [List.drop_zero]
      cases hat : p.matchAt? offset before (d :: rest) with
      | none =>
        rw [hat] at hc
        have hrest := ih 0 (offset + 1) start (some d) (passed ++ [d]) (.inl rfl)
          (by rw [List.length_append, List.length_singleton]; omega) hc
        rwa [List.append_assoc] at hrest
      | some m =>
        obtain ⟨hoffset, -, ⟨behind, hbehind⟩, -⟩ :=
          at?_sound (x := ⟨offset, before, d :: rest⟩) hat
        rw [hat] at hc
        dsimp only at hc hoffset hbehind ⊢
        rw [findFrom_append, List.reverse_singleton, List.singleton_append] at hc ⊢
        obtain ⟨hm, hothers⟩ := List.forall_mem_cons.mp hc
        have hfront : start + passed.length = m.offset := hstart.trans hoffset.symm
        rw [← hbehind]
        refine (mem_replacePieces_cons m.text behind hfront rfl hm).mpr (or_congr_right ?_)
        rw [hoffset]
        -- An empty match takes nothing, so that the next code point is passed without a match.
        cases htext : m.text with
        | nil =>
          rw [htext] at hbehind hothers
          obtain rfl : behind = d :: rest := hbehind
          exact ih 0 (offset + 1) offset (some d) [d] (.inl rfl) rfl hothers
        | cons e taken =>
          rw [htext] at hbehind hothers
          rw [List.cons_append] at hbehind
          obtain ⟨rfl, rfl⟩ := List.cons_eq_cons.mp hbehind
          have hrest := ih taken.length (offset + 1) (offset + (taken.length + 1)) (some e) []
            (.inr rfl) (by rw [List.length_nil]; omega) hothers
          rwa [List.drop_left] at hrest

/-- **What is left.** A code point that no match takes is left exactly if it was there. -/
theorem mem_removeAll_iff {c : CodePoint} {text : Text} (hc : ∀ m ∈ p.findAll text, c ∉ m.text) :
    c ∈ p.replaceAll (fun _ => []) text ↔ c ∈ text :=
  mem_replacePieces_iff text 0 0 0 none [] (.inl rfl) rfl hc

end TagAudit.Pattern
