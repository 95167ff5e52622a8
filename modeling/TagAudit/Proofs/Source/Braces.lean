import Mathlib.Data.List.DropRight
import TagAudit.Source.Span

/-!
# Opening braces

`Source.braces` finds opening braces in two ways: without a limit it walks over the text and notes
the braces that it passes, and with a limit it goes backwards from the margin and stops when it has
enough. Here what it finds is listed by offsets.

* `openings`: the offsets of the opening braces at the front of a text. `mem_rtake_iff`: which of
  them are the last ones.
* `Split.Divides`: where the search backwards stands. `Split.Divides.back` is one step of it, and
  `Split.Divides.bracesBefore_eq` the whole search.
* `braces_none`, `braces_some`: what is found, without and with a limit. `braces_bounded`: with a
  limit it is the last of what is found without.
-/

namespace TagAudit.Source

/-- The offsets of the opening braces among the first code points of a text. -/
def openings (count : Nat) (text : Text) : List Nat :=
  (List.range count).filter fun i => text[i]? = some ('\x7b' : CodePoint)

theorem mem_openings {count : Nat} {text : Text} {i : Nat} :
    i ∈ openings count text ↔ i < count ∧ text[i]? = some ('\x7b' : CodePoint) := by
  simp [openings]

theorem pairwise_openings (count : Nat) (text : Text) : (openings count text).Pairwise (· < ·) :=
  List.pairwise_lt_range.filter _

theorem openings_succ_of_brace {count : Nat} {text : Text}
    (h : text[count]? = some ('\x7b' : CodePoint)) :
    openings (count + 1) text = openings count text ++ [count] := by
  simp [openings, List.range_succ, h]

theorem openings_succ_of_not_brace {count : Nat} {text : Text}
    (h : text[count]? ≠ some ('\x7b' : CodePoint)) :
    openings (count + 1) text = openings count text := by
  simp [openings, List.range_succ, h]

/-- No brace stands behind the end of a text. -/
theorem openings_min_length (count : Nat) (text : Text) :
    openings (min count text.length) text = openings count text := by
  induction count with
  | zero => rw [Nat.zero_min]
  | succ count ih =>
    by_cases hcount : count < text.length
    · rw [Nat.min_eq_left hcount]
    · rw [openings_succ_of_not_brace (by simp [List.getElem?_eq_none (Nat.not_lt.mp hcount)]), ← ih,
        Nat.min_eq_right (by omega), Nat.min_eq_right (by omega)]

/-- Of numbers in order, the last ones are those with few behind them. -/
theorem mem_rtake_iff {items : List Nat} (h : items.Pairwise (· < ·)) {i : Nat}
    (hi : i ∈ items) (count : Nat) :
    i ∈ items.rtake count ↔ (items.filter (i < ·)).length < count := by
  obtain ⟨front, back, rfl⟩ := List.append_of_mem hi
  obtain ⟨-, hback, hfront⟩ := List.pairwise_append.mp h
  have hlater : ∀ j ∈ back, i < j := (List.pairwise_cons.mp hback).1
  have hearlier : ∀ j ∈ front, ¬i < j := fun j hj =>
    Nat.not_lt.mpr (Nat.le_of_lt (hfront j hj i List.mem_cons_self))
  have hfilter : (front ++ i :: back).filter (i < ·) = back := by
    rw [List.filter_append, List.filter_eq_nil_iff.mpr (by simpa using hearlier),
      List.filter_cons_of_neg (by simp), List.filter_eq_self.mpr (by simpa using hlater),
      List.nil_append]
  rw [hfilter, List.rtake, List.length_append, List.length_cons]
  by_cases hcount : back.length < count
  · rw [List.drop_append_of_le_length (by omega)]
    simp [hcount]
  · -- All that is kept stands behind `i`.
    obtain ⟨k, hk⟩ : ∃ k, front.length + (back.length + 1) - count = front.length + (k + 1) :=
      ⟨back.length - count, by omega⟩
    rw [hk, List.drop_length_add_append, List.drop_succ_cons]
    simp only [hcount, iff_false]
    exact fun hmem => Nat.lt_irrefl i (hlater i (List.mem_of_mem_drop hmem))

/-! ## From the front -/

/-- **The braces that are noted**, behind those noted before. -/
theorem bracesFrom_eq (start count : Nat) (done : List (Nat × Text)) (text : Text) :
    bracesFrom start done count text =
      done.reverse ++ (openings count text).map fun i => (start + i, text.drop i) := by
  induction count generalizing start done text with
  | zero => simp [bracesFrom, openings]
  | succ count ih =>
    cases text with
    | nil => simp [bracesFrom, openings]
    | cons c rest =>
      -- Behind the first code point every offset is one less.
      have htail : (openings count rest).map (fun i => (start + 1 + i, rest.drop i)) =
          ((openings count rest).map Nat.succ).map fun i => (start + i, (c :: rest).drop i) := by
        simp [Function.comp_def, Nat.add_assoc, Nat.add_comm 1]
      rw [bracesFrom, ih, htail, openings, openings, List.range_succ_eq_map, List.filter_cons,
        List.filter_map]
      by_cases hc : c = '\x7b' <;> simp [hc, Function.comp_def]

theorem braces_none (text : Text) (margin : Int) :
    braces text none margin =
      (openings (text.length - margin).toNat text).map fun i => (i, text.drop i) := by
  simp [braces, bracesFrom_eq]

/-! ## Backwards -/

/-- A split divides a text: its parts make up the whole, and its offset is where they meet. -/
structure Split.Divides (p : Split) (text : Text) : Prop where
  whole : p.before.reverse ++ p.here = text
  offset_eq : p.offset = p.before.length

namespace Split.Divides

variable {text : Text} {p : Split}

theorem here_eq (h : p.Divides text) : p.here = text.drop p.offset := by
  rw [← h.whole, List.drop_left' (by rw [List.length_reverse, h.offset_eq])]

/-- **A step back.** Either there is no brace in the first part, or the search arrives at the last
one and the others are those in front of it. -/
theorem back (h : p.Divides text) :
    (braceBefore? p.offset p.before p.here = none ∧ openings p.offset text = []) ∨
      ∃ q : Split, braceBefore? p.offset p.before p.here = some q ∧ q.Divides text ∧
        openings p.offset text = openings q.offset text ++ [q.offset] := by
  obtain ⟨offset, before, here⟩ := p
  induction before generalizing offset here with
  | nil =>
    obtain rfl : offset = 0 := h.offset_eq
    exact .inl ⟨rfl, rfl⟩
  | cons c before ih =>
    obtain rfl : offset = before.length + 1 := h.offset_eq
    -- One code point further back the parts still make up the text.
    have hnext : Split.Divides ⟨before.length, before, c :: here⟩ text :=
      ⟨by simpa using h.whole, rfl⟩
    have hfound : text[before.length]? = some c := by
      rw [← List.head?_drop, ← hnext.here_eq, List.head?_cons]
    by_cases hc : c = '\x7b'
    · exact .inr ⟨_, by simp [braceBefore?, hc], hnext, openings_succ_of_brace (hc ▸ hfound)⟩
    · have hnot : text[before.length]? ≠ some '\x7b' := by simpa [hfound] using hc
      simpa only [braceBefore?, if_neg hc, openings_succ_of_not_brace hnot] using ih _ _ hnext

/-- **The search backwards** finds the last braces of the first part. -/
theorem bracesBefore_eq (h : p.Divides text) (limit : Nat) (found : List (Nat × Text)) :
    bracesBefore found limit p =
      ((openings p.offset text).rtake limit).map (fun i => (i, text.drop i)) ++ found := by
  induction limit generalizing p found with
  | zero => simp [bracesBefore]
  | succ limit ih =>
    obtain ⟨hnone, hopenings⟩ | ⟨q, hsome, hq, hopenings⟩ := h.back
    · simp [bracesBefore, hnone, hopenings]
    · calc
        bracesBefore found (limit + 1) p
          = bracesBefore ((q.offset, q.here) :: found) limit q := by rw [bracesBefore, hsome]
        _ = ((openings q.offset text).rtake limit).map (fun i => (i, text.drop i)) ++
              (q.offset, q.here) :: found := ih hq _
        _ = ((openings p.offset text).rtake (limit + 1)).map (fun i => (i, text.drop i)) ++
            found := by
          rw [hopenings, List.rtake_concat_succ, hq.here_eq]
          simp

end Split.Divides

theorem splitAt_divides (text : Text) (offset : Nat) : (splitAt text offset).Divides text :=
  ⟨by simp [splitAt], by simp [splitAt]⟩

theorem braces_some (text : Text) (limit margin : Int) :
    braces text (some limit) margin =
      ((openings (text.length - margin).toNat text).rtake limit.toNat).map
        fun i => (i, text.drop i) := by
  have hsplit := splitAt_divides text (text.length - margin).toNat
  simpa [braces, splitAt, openings_min_length] using hsplit.bracesBefore_eq limit.toNat []

/-! ## What is found -/

theorem mem_braces_none {text here : Text} {margin : Int} {i : Nat} :
    (i, here) ∈ braces text none margin ↔
      (i : Int) < max 0 (text.length - margin) ∧ text[i]? = some ('\x7b' : CodePoint) ∧
        here = text.drop i := by
  rw [braces_none, List.mem_map]
  simp only [mem_openings, Prod.mk.injEq]
  constructor
  · rintro ⟨_, ⟨hlt, hbrace⟩, rfl, rfl⟩
    exact ⟨by omega, hbrace, rfl⟩
  · rintro ⟨hlt, hbrace, rfl⟩
    exact ⟨i, ⟨by omega, hbrace⟩, rfl, rfl⟩

theorem pairwise_braces_none (text : Text) (margin : Int) :
    ((braces text none margin).map (·.1)).Pairwise (· < ·) := by
  have hoffsets : (braces text none margin).map (·.1) =
      openings (text.length - margin).toNat text := by
    simp [braces_none, Function.comp_def]
  rw [hoffsets]
  exact pairwise_openings _ _

/-- What is found with a limit stands at the end of what is found without one. -/
theorem braces_suffix (text : Text) (limit margin : Int) :
    braces text (some limit) margin <:+ braces text none margin := by
  rw [braces_none, braces_some]
  exact (List.drop_suffix _ _).map _

theorem length_braces_some (text : Text) (limit margin : Int) :
    ((braces text (some limit) margin).length : Int) =
      max 0 (min limit (braces text none margin).length) := by
  rw [braces_none, braces_some, List.length_map, List.length_map, List.rtake, List.length_drop]
  omega

/-- Each brace is found with the text from there on. -/
theorem mem_braces {text here : Text} {limit : Option Int} {margin : Int} {i : Nat}
    (h : (i, here) ∈ braces text limit margin) : here = text.drop i := by
  have hall : (i, here) ∈ braces text none margin := by
    cases limit with
    | none => exact h
    | some limit => exact (braces_suffix text limit margin).mem h
  exact (mem_braces_none.mp hall).2.2

/-- **The bounded search agrees with the full one.** Without a limit the opening braces in front of
the margin are found, and only these, each once and in order. With a limit the last of them are
found, in the same order, as many as there are and as the limit allows; a negative limit allows
none. -/
theorem braces_bounded (text : Text) (limit margin : Int) :
    (∀ i here, (i, here) ∈ braces text none margin ↔
      (i : Int) < max 0 (text.length - margin) ∧ text[i]? = some ('\x7b' : CodePoint) ∧
        here = text.drop i) ∧
    ((braces text none margin).map (·.1)).Pairwise (· < ·) ∧
    braces text (some limit) margin <:+ braces text none margin ∧
    ((braces text (some limit) margin).length : Int) =
      max 0 (min limit (braces text none margin).length) :=
  ⟨fun _ _ => mem_braces_none, pairwise_braces_none text margin, braces_suffix text limit margin,
    length_braces_some text limit margin⟩

/-- The margin leaves out the last of three braces, and the limit the first. -/
example : (braces "\x7ba\x7d\x7bb\x7d\x7bc\x7d" none 3).map (·.1) = [0, 3] ∧
    (braces "\x7ba\x7d\x7bb\x7d\x7bc\x7d" (some 1) 3).map (·.1) = [3] := by
  decide

end TagAudit.Source
