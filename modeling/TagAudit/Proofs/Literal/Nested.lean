import TagAudit.Proofs.Literal.Key

/-!
# Reading arrays and objects

The loops over items and members, for any reader `item` of the items. If `item` accepts what the
grammar accepts, so do the loops.

* `Accepts`, `Yields`: the two halves of what is known of a reader.
* `Items.readItems_append`, `readItems_sound`: arrays.
* `Entries.readMembers_append`, `readMembers_sound`: objects.
-/

namespace TagAudit.Literal

open Outcome (ok_bind bind_eq_ok)

section

variable (Item : Text → Data → Prop) (item : Text → Except Failure (Data × Text))

/-- `item` reads every item of at most `bound` code points, behind a gap and in front of something
that cannot continue it. -/
def Accepts (bound : Nat) : Prop :=
  ∀ {g s rest : Text} {v : Data}, IsGap g → Item s v → Stops rest → s.length ≤ bound →
    item (g ++ (s ++ rest)) = .ok (v, rest)

/-- What `item` reads is an item behind a gap. -/
def Yields : Prop :=
  ∀ {text rest : Text} {v : Data}, item text = .ok (v, rest) →
    ∃ g s, text = g ++ (s ++ rest) ∧ IsGap g ∧ Item s v

/-- No item begins with a stop. -/
def StartsWell : Prop := ∀ {s : Text} {v : Data}, Item s v → ∃ c t, s = c :: t ∧ c ∉ stops

end

variable {Item : Text → Data → Prop} {item : Text → Except Failure (Data × Text)}

theorem next_separator {g : Text} (hg : IsGap g) {c : CodePoint}
    (hc : isBlank c = false ∧ c ≠ '/') (rest : Text) : next (g ++ c :: rest) = .ok (c, rest) :=
  next_append hg hc.1 hc.2 rest

theorem next_start {g : Text} (hg : IsGap g) {c : CodePoint} (hc : c ∉ stops) (rest : Text) :
    next (g ++ c :: rest) = .ok (c, rest) :=
  next_append hg (isBlank_of_not_mem_stops hc) (ne_of_not_mem_stops hc (by decide)) rest

/-! ## Arrays -/

section

variable (steps : Nat) (done : List Data) (rest : Text)

theorem readItems_close {g : Text} (hg : IsGap g) :
    readItems item (steps + 1) done (g ++ (']' : CodePoint) :: rest) =
      .ok (.array done.reverse, rest) := by
  rw [readItems, next_separator hg (by decide)]
  rfl

theorem readItems_hole {g : Text} (hg : IsGap g) :
    readItems item (steps + 1) done (g ++ (',' : CodePoint) :: rest) =
      readItems item steps (.null :: done) rest := by
  rw [readItems, next_separator hg (by decide)]
  rfl

/-- One item and the separator behind it. -/
theorem readItems_item {bound : Nat} (hstart : StartsWell Item) (hitem : Accepts Item item bound)
    {g s after : Text} {v : Data} (hg : IsGap g) (hs : Item s v) (hlen : s.length ≤ bound)
    (hafter : IsGap after) {c : CodePoint} (hc : c = ',' ∨ c = ']') :
    readItems item (steps + 1) done (g ++ (s ++ (after ++ c :: rest))) =
      if c = ',' then readItems item steps (v :: done) rest
      else .ok (.array (v :: done).reverse, rest) := by
  obtain ⟨d, t, rfl, hd⟩ := hstart hs
  have hstop : c ∈ stops := by obtain rfl | rfl := hc <;> decide
  have hsep : isBlank c = false ∧ c ≠ '/' := by obtain rfl | rfl := hc <;> decide
  have hread := hitem .nil hs (hafter.stops (.cons hstop rest)) hlen
  rw [List.nil_append, List.cons_append] at hread
  rw [List.cons_append, readItems, next_start hg hd]
  simp only [ok_bind]
  rw [if_neg (ne_of_not_mem_stops hd (by decide)), if_neg (ne_of_not_mem_stops hd (by decide)),
    hread]
  simp only [ok_bind, next_separator hafter hsep]
  obtain rfl | rfl := hc <;> rfl

end

/-- **An array in front**, behind its opening bracket. -/
theorem Items.readItems_append {bound : Nat} (hstart : StartsWell Item)
    (hitem : Accepts Item item bound) {s : Text} {items : List Data} (h : Items Item s items)
    {steps : Nat} (hsteps : s.length ≤ steps) (hbound : steps ≤ bound) (done : List Data)
    (rest : Text) :
    readItems item steps done (s ++ rest) = .ok (.array (done.reverse ++ items), rest) := by
  induction h generalizing steps done with
  | @close g hg =>
    simp only [List.length_append, List.length_cons] at hsteps
    obtain ⟨steps, rfl⟩ : ∃ k, steps = k + 1 := ⟨steps - 1, by omega⟩
    rw [List.append_assoc, List.cons_append, readItems_close _ _ _ hg]
    simp
  | @hole g after items hg _ ih =>
    simp only [List.length_append, List.length_cons] at hsteps
    obtain ⟨steps, rfl⟩ : ∃ k, steps = k + 1 := ⟨steps - 1, by omega⟩
    rw [List.append_assoc, List.cons_append, readItems_hole _ _ _ hg, ih (by omega) (by omega)]
    simp
  | @last g s after v hg hs hafter =>
    simp only [List.length_append, List.length_cons] at hsteps
    obtain ⟨steps, rfl⟩ : ∃ k, steps = k + 1 := ⟨steps - 1, by omega⟩
    rw [List.append_assoc, List.append_assoc, List.append_assoc, List.cons_append,
      readItems_item _ _ _ hstart hitem hg hs (by omega) hafter (.inr rfl)]
    simp
  | @item g s after more v items hg hs hafter _ ih =>
    simp only [List.length_append, List.length_cons] at hsteps
    obtain ⟨steps, rfl⟩ : ∃ k, steps = k + 1 := ⟨steps - 1, by omega⟩
    rw [List.append_assoc, List.append_assoc, List.append_assoc, List.cons_append,
      readItems_item _ _ _ hstart hitem hg hs (by omega) hafter (.inl rfl), if_pos rfl,
      ih (by omega) (by omega)]
    simp

/-- **What is read** is an array, without its opening bracket. -/
theorem readItems_sound (hitem : Yields Item item) {steps : Nat} {done : List Data}
    {text rest : Text} {v : Data} (h : readItems item steps done text = .ok (v, rest)) :
    ∃ s items, text = s ++ rest ∧ Items Item s items ∧ v = .array (done.reverse ++ items) := by
  induction steps generalizing done text with
  | zero => cases h
  | succ steps ih =>
    rw [readItems, bind_eq_ok] at h
    obtain ⟨⟨c, after⟩, hnext, h⟩ := h
    obtain ⟨g, rfl, hg⟩ := next_sound hnext
    simp only at h
    split at h
    case isTrue hc =>
      subst hc
      cases h
      exact ⟨_, [], by simp, .close hg, by simp⟩
    case isFalse =>
      split at h
      case isTrue hc =>
        subst hc
        obtain ⟨s, items, rfl, hitems, rfl⟩ := ih h
        exact ⟨_, _, by simp, .hole hg hitems, by simp⟩
      case isFalse =>
        rw [bind_eq_ok] at h
        obtain ⟨⟨value, after⟩, hread, h⟩ := h
        simp only [bind_eq_ok] at h
        obtain ⟨⟨d, tail⟩, hnext, h⟩ := h
        obtain ⟨g', s, htext, hg', hs⟩ := hitem hread
        obtain ⟨g'', rfl, hg''⟩ := next_sound hnext
        rw [htext, ← List.append_assoc]
        simp only at h
        split at h
        case isTrue hd =>
          subst hd
          obtain ⟨t, items, rfl, hitems, rfl⟩ := ih h
          exact ⟨_, _, by simp, .item (hg.append hg') hs hg'' hitems, by simp⟩
        case isFalse =>
          split at h
          case isFalse => cases h
          case isTrue hd =>
            subst hd
            cases h
            exact ⟨_, _, by simp, .last (hg.append hg') hs hg'', by simp⟩

/-! ## Objects -/

section

variable (steps : Nat) (done : List (Text × Data)) (rest : Text)

theorem readMembers_close {g : Text} (hg : IsGap g) :
    readMembers item (steps + 1) done (g ++ ('\x7d' : CodePoint) :: rest) =
      .ok (.object (Members.ofList done.reverse), rest) := by
  rw [readMembers, next_separator hg (by decide)]
  rfl

/-- One member and the separator behind it. -/
theorem readMembers_member {bound : Nat} (hitem : Accepts Item item bound)
    {g k afterKey before s after key : Text} {v : Data} (hg : IsGap g) (hk : Key k key)
    (hafterKey : IsGap afterKey) (hbefore : IsGap before) (hs : Item s v)
    (hlen : s.length ≤ bound) (hafter : IsGap after) {c : CodePoint} (hc : c = ',' ∨ c = '\x7d') :
    readMembers item (steps + 1) done (g ++ (k ++ (afterKey ++ (':' : CodePoint) :: (before ++
        (s ++ (after ++ c :: rest)))))) =
      if c = ',' then readMembers item steps ((key, v) :: done) rest
      else .ok (.object (Members.ofList ((key, v) :: done).reverse), rest) := by
  obtain ⟨d, t, rfl, hd⟩ := hk.exists_cons
  have hstop : c ∈ stops := by obtain rfl | rfl := hc <;> decide
  have hsep : isBlank c = false ∧ c ≠ '/' := by obtain rfl | rfl := hc <;> decide
  have hread := hitem hbefore hs (hafter.stops (.cons hstop rest)) hlen
  have hkey := hk.readKey_append
    (hafterKey.stops (.cons (c := ':') (by decide) (before ++ (s ++ (after ++ c :: rest)))))
  rw [List.cons_append, readMembers, next_start hg hd]
  simp only [ok_bind]
  rw [if_neg (ne_of_not_mem_stops hd (by decide)), hkey]
  simp only [ok_bind, next_separator hafterKey (c := ':') (by decide)]
  rw [if_neg (by decide), hread]
  simp only [ok_bind, next_separator hafter hsep]
  obtain rfl | rfl := hc <;> rfl

end

/-- **An object in front**, behind its opening brace. -/
theorem Entries.readMembers_append {bound : Nat} (hitem : Accepts Item item bound) {s : Text}
    {entries : List (Text × Data)} (h : Entries Item s entries) {steps : Nat}
    (hsteps : s.length ≤ steps) (hbound : steps ≤ bound) (done : List (Text × Data))
    (rest : Text) :
    readMembers item steps done (s ++ rest) =
      .ok (.object (Members.ofList (done.reverse ++ entries)), rest) := by
  induction h generalizing steps done with
  | @close g hg =>
    simp only [List.length_append, List.length_cons] at hsteps
    obtain ⟨steps, rfl⟩ : ∃ k, steps = k + 1 := ⟨steps - 1, by omega⟩
    rw [List.append_assoc, List.cons_append, readMembers_close _ _ _ hg]
    simp
  | @last g k afterKey before s after key v hg hk hafterKey hbefore hs hafter =>
    simp only [List.length_append, List.length_cons] at hsteps
    obtain ⟨steps, rfl⟩ : ∃ k, steps = k + 1 := ⟨steps - 1, by omega⟩
    have hstep := readMembers_member steps done rest hitem hg hk hafterKey hbefore hs (by omega)
      hafter (.inr rfl)
    simp only [List.append_assoc, List.cons_append, List.nil_append]
    rw [hstep]
    simp
  | @member g k afterKey before s after more key v entries hg hk hafterKey hbefore hs hafter _ ih =>
    simp only [List.length_append, List.length_cons] at hsteps
    obtain ⟨steps, rfl⟩ : ∃ k, steps = k + 1 := ⟨steps - 1, by omega⟩
    have hstep := readMembers_member steps done (more ++ rest) hitem hg hk hafterKey hbefore hs
      (by omega) hafter (.inl rfl)
    simp only [List.append_assoc, List.cons_append]
    rw [hstep, if_pos rfl, ih (by omega) (by omega)]
    simp

/-- **What is read** is an object, without its opening brace. -/
theorem readMembers_sound (hitem : Yields Item item) {steps : Nat} {done : List (Text × Data)}
    {text rest : Text} {v : Data} (h : readMembers item steps done text = .ok (v, rest)) :
    ∃ s entries, text = s ++ rest ∧ Entries Item s entries ∧
      v = .object (Members.ofList (done.reverse ++ entries)) := by
  induction steps generalizing done text with
  | zero => cases h
  | succ steps ih =>
    rw [readMembers, bind_eq_ok] at h
    obtain ⟨⟨c, after⟩, hnext, h⟩ := h
    obtain ⟨g, rfl, hg⟩ := next_sound hnext
    simp only at h
    split at h
    case isTrue hc =>
      subst hc
      cases h
      exact ⟨_, [], by simp, .close hg, by simp⟩
    case isFalse =>
      rw [bind_eq_ok] at h
      obtain ⟨⟨key, afterKey⟩, hreadKey, h⟩ := h
      simp only [bind_eq_ok] at h
      obtain ⟨⟨colon, afterColon⟩, hcolon, h⟩ := h
      obtain ⟨k, hk, hkey⟩ := readKey_sound hreadKey
      obtain ⟨g₁, rfl, hg₁⟩ := next_sound hcolon
      rw [hk]
      simp only at h
      split at h
      case isTrue => cases h
      case isFalse hc =>
        obtain rfl := not_not.mp hc
        rw [bind_eq_ok] at h
        obtain ⟨⟨value, after⟩, hread, h⟩ := h
        simp only [bind_eq_ok] at h
        obtain ⟨⟨d, tail⟩, hnext, h⟩ := h
        obtain ⟨g₂, s, rfl, hg₂, hs⟩ := hitem hread
        obtain ⟨g₃, rfl, hg₃⟩ := next_sound hnext
        simp only at h
        split at h
        case isTrue hd =>
          subst hd
          obtain ⟨t, entries, rfl, hentries, rfl⟩ := ih h
          exact ⟨_, _, by simp, .member hg hkey hg₁ hg₂ hs hg₃ hentries, by simp⟩
        case isFalse =>
          split at h
          case isFalse => cases h
          case isTrue hd =>
            subst hd
            cases h
            exact ⟨_, _, by simp, .last hg hkey hg₁ hg₂ hs hg₃, by simp⟩

end TagAudit.Literal
