import TagAudit.Proofs.Data.Members
import TagAudit.Proofs.Json.Letters
import TagAudit.Proofs.Json.Number

/-!
# Reading JSON

The reader accepts the texts of its dialect and gives the value that they spell.

* `Accepts`, `Yields`: the two halves of what is known of a reader of items.
* `Items.readItems_append`, `readItems_sound`: arrays.
* `Entries.readMembers_append`, `readMembers_sound`: objects.
* `readValue_accepts`, `readValue_yields`: one value, by induction on how deep it may be nested.
* `readWithin_eq_ok_iff`, `read_eq_ok_iff`: a whole text.
-/

namespace TagAudit.Json

open Outcome (ok_bind bind_eq_ok)

/-! ## Blanks -/

theorem skipBlanks_append {blanks rest : Text} (h : IsBlanks blanks)
    (hrest : ∀ c ∈ rest.head?, isBlank c = false) : skipBlanks (blanks ++ rest) = rest := by
  rw [skipBlanks, List.dropWhile_append_of_pos h]
  cases rest with
  | nil => rfl
  | cons c rest => simp [hrest c rfl]

theorem skipBlanks_cons {blanks : Text} (h : IsBlanks blanks) {c : CodePoint}
    (hc : isBlank c = false) (rest : Text) : skipBlanks (blanks ++ c :: rest) = c :: rest := by
  refine skipBlanks_append h ?_
  rintro _ ⟨⟩
  exact hc

theorem skipBlanks_sound (text : Text) :
    ∃ blanks, text = blanks ++ skipBlanks text ∧ IsBlanks blanks :=
  ⟨text.takeWhile isBlank, List.takeWhile_append_dropWhile.symm,
    fun _ hc => List.mem_takeWhile_imp hc⟩

theorem skipBlanks_eq_cons {text rest : Text} {c : CodePoint} (h : skipBlanks text = c :: rest) :
    ∃ blanks, text = blanks ++ c :: rest ∧ IsBlanks blanks := by
  obtain ⟨blanks, htext, hblanks⟩ := skipBlanks_sound text
  exact ⟨blanks, h ▸ htext, hblanks⟩

/-! ## Words and numbers -/

/-- A number begins with a digit, behind a minus or not. -/
theorem Number.exists_digit {s : Text} {v : Data} (h : Number s v) :
    ∃ minus negative d t, s = minus ++ d :: t ∧ Minus minus negative ∧ d.isAsciiDigit = true := by
  have hdigit {digits : Text} (hdigits : IsWhole digits) :
      ∃ d t, digits = d :: t ∧ d.isAsciiDigit = true := by
    obtain ⟨d, t, rfl⟩ := List.exists_cons_of_ne_nil hdigits.ne_nil
    exact ⟨d, t, rfl, hdigits.digits d List.mem_cons_self⟩
  cases h with
  | whole hminus hdigits _ | real hminus hdigits _ _ _ =>
    obtain ⟨d, t, rfl, hd⟩ := hdigit hdigits
    exact ⟨_, _, d, _, rfl, hminus, hd⟩

/-- Words begin with no digit and no minus in front of one. -/
theorem find?_words_eq_none {minus : Text} {negative : Bool} (hminus : Minus minus negative)
    {d : CodePoint} (hd : d.isAsciiDigit = true) (t : Text) :
    words.find? (fun (word, _) => word.isPrefixOf (minus ++ d :: t)) = none := by
  have hfirst : ∀ p ∈ words, ∀ c ∈ p.1.head?, c.isAsciiDigit = false := by decide
  have hsecond : ∀ p ∈ words, ∀ c ∈ p.1.tail.head?, c.isAsciiDigit = false := by decide
  have hlong : ∀ p ∈ words, 2 ≤ p.1.length := by decide
  rw [List.find?_eq_none]
  rintro ⟨word, v⟩ hmem hprefix
  have hprefix' : word <+: minus ++ d :: t := List.isPrefixOf_iff_prefix.mp hprefix
  obtain ⟨c, e, word, rfl⟩ : ∃ c e rest, word = c :: e :: rest := by
    have := hlong _ hmem
    match word, this with
    | c :: e :: rest, _ => exact ⟨c, e, rest, rfl⟩
  have hc := hfirst _ hmem c rfl
  have he := hsecond _ hmem e rfl
  cases hminus with
  | none =>
    obtain ⟨rfl, -⟩ := List.cons_prefix_cons.mp hprefix'
    rw [hd] at hc
    cases hc
  | minus =>
    obtain ⟨-, hprefix'⟩ := List.cons_prefix_cons.mp hprefix'
    obtain ⟨rfl, -⟩ := List.cons_prefix_cons.mp hprefix'
    rw [hd] at he
    cases he

theorem Number.readScalar_append {s rest : Text} {v : Data} (h : Number s v) (hrest : Ends rest) :
    readScalar (s ++ rest) = .ok (v, rest) := by
  obtain ⟨minus, negative, d, t, hs, hminus, hd⟩ := h.exists_digit
  have hnone := find?_words_eq_none hminus hd (t ++ rest)
  rw [← List.cons_append, ← List.append_assoc, ← hs] at hnone
  unfold readScalar
  rw [hnone]
  exact h.readNumber_append hrest

theorem readScalar_word {s : Text} {v : Data} (h : (s, v) ∈ words) (rest : Text) :
    readScalar (s ++ rest) = .ok (v, rest) := by
  simp only [words, List.mem_cons, Prod.mk.injEq, List.not_mem_nil, or_false] at h
  obtain ⟨rfl, rfl⟩ | ⟨rfl, rfl⟩ | ⟨rfl, rfl⟩ | ⟨rfl, rfl⟩ | ⟨rfl, rfl⟩ | ⟨rfl, rfl⟩ := h
  all_goals rfl

theorem readScalar_sound {text rest : Text} {v : Data} (h : readScalar text = .ok (v, rest)) :
    ∃ s, text = s ++ rest ∧ ((s, v) ∈ words ∨ Number s v) := by
  unfold readScalar at h
  split at h
  case h_1 word value hfind =>
    cases h
    have hprefix : word <+: text :=
      List.isPrefixOf_iff_prefix.mp (by simpa using List.find?_some hfind)
    exact ⟨word, (List.prefix_iff_eq_append.mp hprefix).symm,
      .inl (List.mem_of_find?_eq_some hfind)⟩
  case h_2 =>
    obtain ⟨s, rfl, hs⟩ := readNumber_sound h
    exact ⟨s, rfl, .inr hs⟩

/-! ## Readers of items -/

section

variable (Item : Text → Data → Prop) (item : Text → Except Failure (Data × Text))

/-- `item` reads every item of at most `bound` code points, in front of something that ends it. -/
def Accepts (bound : Nat) : Prop :=
  ∀ {s rest : Text} {v : Data}, Item s v → Ends rest → s.length ≤ bound →
    item (s ++ rest) = .ok (v, rest)

/-- What `item` reads is an item. -/
def Yields : Prop :=
  ∀ {text rest : Text} {v : Data}, item text = .ok (v, rest) → ∃ s, text = s ++ rest ∧ Item s v

/-- What a value may begin with: no stop, and no byte order mark. -/
def IsStart (c : CodePoint) : Prop := c ∉ stops ∧ c.val ≠ 0xFEFF

instance (c : CodePoint) : Decidable (IsStart c) :=
  inferInstanceAs (Decidable (c ∉ stops ∧ c.val ≠ 0xFEFF))

/-- Items begin as values may begin. -/
def StartsWell : Prop := ∀ {s : Text} {v : Data}, Item s v → ∃ c t, s = c :: t ∧ IsStart c

end

theorem IsStart.isBlank {c : CodePoint} (hc : IsStart c) : isBlank c = false := by
  rw [Bool.eq_false_iff]
  exact fun h => hc.1 (mem_stops_of_isBlank h)

theorem IsStart.ne {c e : CodePoint} (hc : IsStart c) (he : e ∈ stops) : c ≠ e := by
  rintro rfl
  exact hc.1 he

variable {d : Dialect} {Item : Text → Data → Prop} {item : Text → Except Failure (Data × Text)}

/-! ## Arrays -/

theorem Items.exists_cons (hstart : StartsWell Item) {s : Text} {items : List Data}
    (h : Items Item s items) : ∃ c t, s = c :: t ∧ IsStart c := by
  cases h with
  | last hs _ | item hs _ _ _ =>
    obtain ⟨c, t, rfl, hc⟩ := hstart hs
    exact ⟨c, _, rfl, hc⟩

/-- One item and the separator behind it. -/
theorem readItems_item {bound : Nat} (hitem : Accepts Item item bound) (steps : Nat)
    (done : List Data) {s after : Text} {v : Data} (hs : Item s v) (hlen : s.length ≤ bound)
    (hafter : IsBlanks after) {c : CodePoint} (hc : c = ',' ∨ c = ']') (rest : Text) :
    readItems item (steps + 1) done (s ++ (after ++ c :: rest)) =
      if c = ']' then .ok (.array (v :: done).reverse, rest)
      else readItems item steps (v :: done) (skipBlanks rest) := by
  have hstop : c ∈ stops := by obtain rfl | rfl := hc <;> decide
  have hblank : isBlank c = false := by obtain rfl | rfl := hc <;> decide
  rw [readItems, hitem hs (hafter.ends (.cons hstop rest)) hlen, ok_bind]
  simp only [skipBlanks_cons hafter hblank]
  obtain rfl | rfl := hc <;> rfl

/-- **An array in front**, behind its opening bracket. -/
theorem Items.readItems_append {bound : Nat} (hstart : StartsWell Item)
    (hitem : Accepts Item item bound) {s : Text} {items : List Data} (h : Items Item s items)
    {steps : Nat} (hsteps : s.length ≤ steps) (hbound : steps ≤ bound) (done : List Data)
    (rest : Text) :
    readItems item steps done (s ++ rest) = .ok (.array (done.reverse ++ items), rest) := by
  induction h generalizing steps done with
  | @last s after v hs hafter =>
    simp only [List.length_append, List.length_cons] at hsteps
    obtain ⟨steps, rfl⟩ : ∃ k, steps = k + 1 := ⟨steps - 1, by omega⟩
    rw [List.append_assoc, List.append_assoc, List.cons_append,
      readItems_item hitem _ _ hs (by omega) hafter (.inr rfl), if_pos rfl]
    simp
  | @item s after before more v items hs hafter hbefore hmore ih =>
    simp only [List.length_append, List.length_cons] at hsteps
    obtain ⟨steps, rfl⟩ : ∃ k, steps = k + 1 := ⟨steps - 1, by omega⟩
    have hskip : skipBlanks (before ++ (more ++ rest)) = more ++ rest := by
      obtain ⟨c, t, rfl, hc⟩ := hmore.exists_cons hstart
      exact skipBlanks_cons hbefore hc.isBlank _
    rw [List.append_assoc, List.append_assoc, List.cons_append, List.append_assoc,
      readItems_item hitem _ _ hs (by omega) hafter (.inl rfl), if_neg (by decide), hskip,
      ih (by omega) (by omega)]
    simp

/-- **What is read** is an array, without its opening bracket. -/
theorem readItems_sound (hitem : Yields Item item) {steps : Nat} {done : List Data}
    {text rest : Text} {v : Data} (h : readItems item steps done text = .ok (v, rest)) :
    ∃ s items, text = s ++ rest ∧ Items Item s items ∧ v = .array (done.reverse ++ items) := by
  induction steps generalizing done text with
  | zero => cases h
  | succ steps ih =>
    rw [readItems, bind_eq_ok] at h
    obtain ⟨⟨value, unread⟩, hread, h⟩ := h
    obtain ⟨s, rfl, hs⟩ := hitem hread
    simp only at h
    split at h
    case h_2 => cases h
    case h_1 c more hmore =>
      obtain ⟨after, rfl, hafter⟩ := skipBlanks_eq_cons hmore
      split_ifs at h with hclose hcomma
      · subst hclose
        cases h
        exact ⟨_, _, by simp, .last hs hafter, by simp⟩
      · subst hcomma
        obtain ⟨before, hbefore, hblanks⟩ := skipBlanks_sound more
        obtain ⟨t, items, ht, hitems, rfl⟩ := ih h
        rw [hbefore, ht]
        exact ⟨_, _, by simp, .item hs hafter hblanks hitems, by simp⟩

/-! ## Objects -/

theorem Entries.exists_cons {s : Text} {entries : List (Text × Data)}
    (h : Entries d Item s entries) : ∃ t, s = ('"' : CodePoint) :: t := by
  cases h with
  | last he _ | member he _ _ _ =>
    cases he
    exact ⟨_, rfl⟩

/-- One member and the separator behind it. -/
theorem Entry.readMembers_append {bound : Nat} (hstart : StartsWell Item)
    (hitem : Accepts Item item bound) (steps : Nat) (done : List (Text × Data)) {s after : Text}
    {e : Text × Data} (he : Entry .extended Item s e) (hlen : s.length ≤ bound)
    (hafter : IsBlanks after) {c : CodePoint} (hc : c = ',' ∨ c = '\x7d') (rest : Text) :
    readMembers item (steps + 1) done (s ++ (after ++ c :: rest)) =
      if c = '\x7d' then .ok (.object (Members.ofList (e :: done).reverse), rest)
      else readMembers item steps (e :: done) (skipBlanks rest) := by
  have hstop : c ∈ stops := by obtain rfl | rfl := hc <;> decide
  have hblank : isBlank c = false := by obtain rfl | rfl := hc <;> decide
  cases he with
  | @mk k afterKey before s key letters v hk hkey hafterKey hbefore hs =>
    obtain rfl : key = joined letters := hkey
    simp only [List.length_append, List.length_cons] at hlen
    have hvalue :
        skipBlanks (before ++ (s ++ (after ++ c :: rest))) = s ++ (after ++ c :: rest) := by
      obtain ⟨f, t, rfl, hf⟩ := hstart hs
      exact skipBlanks_cons hbefore hf.isBlank _
    have hcolon := skipBlanks_cons hafterKey (c := ':') (by decide)
      (before ++ (s ++ (after ++ c :: rest)))
    simp only [List.cons_append, List.append_assoc]
    rw [readMembers]
    simp only [ne_eq, not_true_eq_false, if_false, hk.readString_append, ok_bind, hcolon, hvalue,
      hitem hs (hafter.ends (.cons hstop rest)) (by omega), skipBlanks_cons hafter hblank]
    obtain rfl | rfl := hc <;> rfl

/-- **An object in front**, behind its opening brace. -/
theorem Entries.readMembers_append {bound : Nat} (hstart : StartsWell Item)
    (hitem : Accepts Item item bound) {s : Text} {entries : List (Text × Data)}
    (h : Entries .extended Item s entries) {steps : Nat} (hsteps : s.length ≤ steps)
    (hbound : steps ≤ bound) (done : List (Text × Data)) (rest : Text) :
    readMembers item steps done (s ++ rest) =
      .ok (.object (Members.ofList (done.reverse ++ entries)), rest) := by
  induction h generalizing steps done with
  | @last s after e he hafter =>
    simp only [List.length_append, List.length_cons] at hsteps
    obtain ⟨steps, rfl⟩ : ∃ k, steps = k + 1 := ⟨steps - 1, by omega⟩
    rw [List.append_assoc, List.append_assoc, List.cons_append,
      he.readMembers_append hstart hitem _ _ (by omega) hafter (.inr rfl), if_pos rfl]
    simp
  | @member s after before more e entries he hafter hbefore hmore ih =>
    simp only [List.length_append, List.length_cons] at hsteps
    obtain ⟨steps, rfl⟩ : ∃ k, steps = k + 1 := ⟨steps - 1, by omega⟩
    have hskip : skipBlanks (before ++ (more ++ rest)) = more ++ rest := by
      obtain ⟨t, rfl⟩ := hmore.exists_cons
      exact skipBlanks_cons hbefore (by decide) _
    rw [List.append_assoc, List.append_assoc, List.cons_append, List.append_assoc,
      he.readMembers_append hstart hitem _ _ (by omega) hafter (.inl rfl), if_neg (by decide),
      hskip, ih (by omega) (by omega)]
    simp

/-- **What is read** is an object, without its opening brace. -/
theorem readMembers_sound (hitem : Yields Item item) {steps : Nat} {done : List (Text × Data)}
    {text rest : Text} {v : Data} (h : readMembers item steps done text = .ok (v, rest)) :
    ∃ s entries, text = s ++ rest ∧ Entries .extended Item s entries ∧
      v = .object (Members.ofList (done.reverse ++ entries)) := by
  induction steps generalizing done text with
  | zero => cases h
  | succ steps ih =>
    unfold readMembers at h
    split at h
    case h_1 => cases h
    case h_2 quote body =>
      split at h
      case isTrue => cases h
      case isFalse hquote =>
        obtain rfl := not_not.mp hquote
        rw [bind_eq_ok] at h
        obtain ⟨⟨key, unread⟩, hkey, h⟩ := h
        obtain ⟨k, letters, rfl, hk, rfl⟩ := readString_sound hkey
        simp only at h
        split at h
        case h_1 => cases h
        case h_2 colon afterColon hcolon =>
          obtain ⟨afterKey, rfl, hafterKey⟩ := skipBlanks_eq_cons hcolon
          split at h
          case isTrue => cases h
          case isFalse hc =>
            obtain rfl := not_not.mp hc
            rw [bind_eq_ok] at h
            obtain ⟨⟨value, unread⟩, hread, h⟩ := h
            obtain ⟨before, hbefore, hblanks⟩ := skipBlanks_sound afterColon
            obtain ⟨s, hs, hvalue⟩ := hitem hread
            have he : Entry .extended Item _ (joined letters, value) :=
              .mk hk rfl hafterKey hblanks hvalue
            simp only at h
            split at h
            case h_2 => cases h
            case h_1 c more hmore =>
              obtain ⟨after, rfl, hafter⟩ := skipBlanks_eq_cons hmore
              rw [hbefore, hs]
              split_ifs at h with hclose hcomma
              · subst hclose
                cases h
                exact ⟨_, _, by simp, .last he hafter, by simp⟩
              · subst hcomma
                obtain ⟨front, hfront, hblanks'⟩ := skipBlanks_sound more
                obtain ⟨t, entries, ht, hentries, rfl⟩ := ih h
                rw [hfront, ht]
                exact ⟨_, _, by simp, .member he hafter hblanks' hentries, by simp⟩

/-! ## One value -/

theorem word_startsWell : ∀ p ∈ words, ∀ c ∈ p.1.head?,
    IsStart c ∧ c ≠ '"' ∧ c ≠ '\x7b' ∧ c ≠ '[' := by
  decide

/-- A word or a number begins with no stop, no mark and no bracket. -/
theorem scalar_exists_cons {s : Text} {v : Data} (h : (s, v) ∈ words ∨ Number s v) :
    ∃ c t, s = c :: t ∧ IsStart c ∧ c ≠ '"' ∧ c ≠ '\x7b' ∧ c ≠ '[' := by
  rcases h with h | h
  · have hne : ∀ p ∈ words, p.1 ≠ [] := by decide
    obtain ⟨c, t, rfl⟩ := List.exists_cons_of_ne_nil (hne _ h)
    exact ⟨c, t, rfl, word_startsWell _ h c rfl⟩
  · obtain ⟨minus, negative, c, t, rfl, hminus, hc⟩ := h.exists_digit
    cases hminus with
    | minus => exact ⟨_, _, rfl, by decide⟩
    | none =>
      have hne {e : CodePoint} (he : e.isAsciiDigit = false) : c ≠ e := by
        rintro rfl
        rw [hc] at he
        cases he
      have hstops : ∀ e ∈ stops, e.isAsciiDigit = false := by decide
      have hstart : IsStart c := by
        refine ⟨fun hmem => hne (hstops c hmem) rfl, fun hval => ?_⟩
        simp [CodePoint.isAsciiDigit, hval] at hc
      exact ⟨c, t, rfl, hstart, hne rfl, hne rfl, hne rfl⟩

theorem startsWell_form (hwords : ∀ p ∈ d.words, p ∈ words) : StartsWell (Form d Item) := by
  intro s v h
  cases h with
  | text _ _ | emptyArray _ | array _ _ | emptyObject _ | object _ _ _ =>
    exact ⟨_, _, rfl, by decide⟩
  | number h =>
    obtain ⟨c, t, rfl, hc, -⟩ := scalar_exists_cons (.inr h)
    exact ⟨c, t, rfl, hc⟩
  | word h =>
    obtain ⟨c, t, rfl, hc, -⟩ := scalar_exists_cons (.inl (hwords _ h))
    exact ⟨c, t, rfl, hc⟩

theorem startsWell_value (hwords : ∀ p ∈ d.words, p ∈ words) (depth : Nat) :
    StartsWell (Value d depth) := by
  cases depth with
  | zero => exact fun h => h.elim
  | succ depth => exact startsWell_form hwords

/-- What begins with no mark and no bracket is read as a word or a number. -/
theorem readValue_scalar (steps depth : Nat) {c : CodePoint}
    (hc : c ≠ '"' ∧ c ≠ '\x7b' ∧ c ≠ '[') (rest : Text) :
    readValue steps (depth + 1) (c :: rest) = readScalar (c :: rest) := by
  rw [readValue]
  simp only [if_neg hc.1, if_neg hc.2.1, if_neg hc.2.2]

theorem readValue_bracket (steps depth : Nat) {blanks : Text} (h : IsBlanks blanks) {c : CodePoint}
    (hc : isBlank c = false) (rest : Text) :
    readValue steps (depth + 1) ('[' :: (blanks ++ c :: rest)) =
      if c = ']' then .ok (.array [], rest)
      else readItems (readValue steps depth) steps [] (c :: rest) := by
  rw [readValue]
  simp only [if_neg (by decide : ¬('[' : CodePoint) = '"'),
    if_neg (by decide : ¬('[' : CodePoint) = '\x7b'), if_true, skipBlanks_cons h hc]

theorem readValue_brace (steps depth : Nat) {blanks : Text} (h : IsBlanks blanks) {c : CodePoint}
    (hc : isBlank c = false) (rest : Text) :
    readValue steps (depth + 1) ('\x7b' :: (blanks ++ c :: rest)) =
      if c = '\x7d' then .ok (.object [], rest)
      else readMembers (readValue steps depth) steps [] (c :: rest) := by
  rw [readValue]
  simp only [if_neg (by decide : ¬('\x7b' : CodePoint) = '"'), if_true, skipBlanks_cons h hc]

/-- **A value in front** of something that ends it is read. -/
theorem readValue_accepts (steps depth : Nat) :
    Accepts (Value .extended depth) (readValue steps depth) steps := by
  induction depth with
  | zero => exact fun h => h.elim
  | succ depth ih =>
    have hstart : StartsWell (Value .extended depth) := startsWell_value (fun _ h => h) depth
    intro s rest v hs hrest hlen
    have scalar {s : Text} (h : (s, v) ∈ words ∨ Number s v)
        (hread : readScalar (s ++ rest) = .ok (v, rest)) :
        readValue steps (depth + 1) (s ++ rest) = .ok (v, rest) := by
      obtain ⟨c, t, rfl, -, hc⟩ := scalar_exists_cons h
      exact (readValue_scalar steps depth hc _).trans hread
    cases hs with
    | number h => exact scalar (.inr h) (h.readScalar_append hrest)
    | word h => exact scalar (.inl h) (readScalar_word h rest)
    | @text s t letters hs ht =>
      obtain rfl : t = joined letters := ht
      rw [List.cons_append, List.append_assoc, readValue]
      simp only [if_true, List.cons_append, List.nil_append, hs.readString_append, ok_bind]
      rfl
    | @emptyArray blanks hblanks =>
      rw [List.cons_append, List.append_assoc, List.cons_append,
        readValue_bracket _ _ hblanks (by decide), if_pos rfl]
      rfl
    | @array blanks s items hblanks hitems =>
      simp only [List.length_cons, List.length_append] at hlen
      have hsteps : (blanks ++ s).length ≤ steps := by
        rw [List.length_append]
        omega
      have hread := hitems.readItems_append hstart ih
        (Nat.le_trans (by simp) hsteps) (Nat.le_refl steps) [] rest
      obtain ⟨c, t, rfl, hc⟩ := hitems.exists_cons hstart
      rw [List.cons_append, List.append_assoc, List.cons_append,
        readValue_bracket _ _ hblanks hc.isBlank,
        if_neg (hc.ne (by decide))]
      exact hread
    | @emptyObject blanks hblanks =>
      rw [List.cons_append, List.append_assoc, List.cons_append,
        readValue_brace _ _ hblanks (by decide), if_pos rfl]
      rfl
    | @object blanks s entries members hblanks hentries hmembers =>
      obtain rfl := Members.merged_iff.mp hmembers
      simp only [List.length_cons, List.length_append] at hlen
      have hsteps : (blanks ++ s).length ≤ steps := by
        rw [List.length_append]
        omega
      have hread := hentries.readMembers_append hstart ih
        (Nat.le_trans (by simp) hsteps) (Nat.le_refl steps) [] rest
      obtain ⟨t, rfl⟩ := hentries.exists_cons
      rw [List.cons_append, List.append_assoc, List.cons_append,
        readValue_brace _ _ hblanks (by decide), if_neg (by decide)]
      exact hread

/-- **What is read** is a value. -/
theorem readValue_yields (steps depth : Nat) :
    Yields (Value .extended depth) (readValue steps depth) := by
  induction depth with
  | zero => exact fun h => by cases h
  | succ depth ih =>
    intro text rest v h
    cases text with
    | nil => cases h
    | cons c text =>
      rw [readValue] at h
      simp only at h
      split at h
      case isTrue hc =>
        subst hc
        obtain ⟨⟨t, after⟩, hread, h⟩ := bind_eq_ok.mp h
        cases h
        obtain ⟨s, letters, rfl, hs, rfl⟩ := readString_sound hread
        exact ⟨_, by simp, .text hs rfl⟩
      split at h
      case isTrue hc =>
        subst hc
        split at h
        case h_2 => cases h
        case h_1 e more hmore =>
          obtain ⟨blanks, rfl, hblanks⟩ := skipBlanks_eq_cons hmore
          split at h
          case isTrue he =>
            subst he
            cases h
            exact ⟨_, by simp, .emptyObject hblanks⟩
          case isFalse =>
            obtain ⟨s, entries, hs, hentries, rfl⟩ := readMembers_sound ih h
            rw [hs]
            exact ⟨_, by simp, .object hblanks hentries (Members.merged_iff.mpr rfl)⟩
      split at h
      case isTrue hc =>
        subst hc
        split at h
        case h_2 => cases h
        case h_1 e more hmore =>
          obtain ⟨blanks, rfl, hblanks⟩ := skipBlanks_eq_cons hmore
          split at h
          case isTrue he =>
            subst he
            cases h
            exact ⟨_, by simp, .emptyArray hblanks⟩
          case isFalse =>
            obtain ⟨s, items, hs, hitems, rfl⟩ := readItems_sound ih h
            rw [hs]
            exact ⟨_, by simp, .array hblanks hitems⟩
      case isFalse =>
        obtain ⟨s, hs, hscalar⟩ := readScalar_sound h
        exact ⟨s, hs, hscalar.elim (fun h => .word h) .number⟩

/-! ## Whole texts -/

theorem Renders.readWithin_eq_ok {limit : Nat} {text : Text} {v : Data}
    (h : Renders .extended limit text v) : readWithin limit text = .ok v := by
  obtain ⟨before, s, after, rfl, hbefore, hs, hafter⟩ := h
  have hread := readValue_accepts ((before ++ (s ++ after)).length + 1) limit hs
    (List.append_nil after ▸ hafter.ends .nil) (by simp; omega)
  have hstart := startsWell_value (d := .extended) (fun _ h => h) limit hs
  have hend : skipBlanks after = [] := List.dropWhile_eq_nil_iff.mpr hafter
  obtain ⟨c, t, rfl, hc⟩ := hstart
  have hskip : skipBlanks (before ++ (c :: t ++ after)) = c :: t ++ after :=
    skipBlanks_cons hbefore hc.isBlank _
  -- A byte order mark is no blank, and no value begins with it.
  have hmark : ((before ++ (c :: t ++ after)).head?.any fun c => c.val == 0xFEFF) = false := by
    cases before with
    | nil => simpa using hc.2
    | cons b before =>
      have hb : b.val ≠ 0xFEFF := by
        rcases isBlank_iff.mp (hbefore b List.mem_cons_self) with rfl | rfl | rfl | rfl <;> decide
      simpa using hb
  unfold readWithin
  rw [hmark, hskip, hread]
  simp only [Bool.false_eq_true, if_false, ok_bind, hend]

/-- **The reader and the grammar.** A text is read with a value exactly if it renders the value in
the extended dialect. -/
theorem readWithin_eq_ok_iff {limit : Nat} {text : Text} {v : Data} :
    readWithin limit text = .ok v ↔ Renders .extended limit text v := by
  refine ⟨fun h => ?_, Renders.readWithin_eq_ok⟩
  unfold readWithin at h
  split at h
  case isTrue => cases h
  case isFalse =>
    obtain ⟨⟨value, rest⟩, hvalue, h⟩ := bind_eq_ok.mp h
    obtain ⟨before, htext, hbefore⟩ := skipBlanks_sound text
    obtain ⟨s, hs, hform⟩ := readValue_yields _ _ hvalue
    obtain ⟨after, hrest, hafter⟩ := skipBlanks_sound rest
    simp only at h
    split at h
    case h_2 => cases h
    case h_1 hend =>
      cases h
      rw [hend, List.append_nil] at hrest
      exact ⟨before, s, after, by rw [← hrest, ← hs, ← htext], hbefore, hform, hafter⟩

theorem Renders.read_eq_ok {text : Text} {v : Data} (h : Renders .extended depthLimit text v) :
    read text = .ok v := h.readWithin_eq_ok

theorem read_eq_ok_iff {text : Text} {v : Data} :
    read text = .ok v ↔ Renders .extended depthLimit text v := readWithin_eq_ok_iff

end TagAudit.Json
