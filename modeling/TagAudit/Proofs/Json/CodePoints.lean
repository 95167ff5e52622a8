import TagAudit.Proofs.Json.Printing

/-!
# The code points of written JSON

Apart from line breaks between items, the printer has printable ASCII of its own, and the other code
points are those of the texts and keys that it writes.

* `Data.texts`: the texts and keys in a value.
* `ascii_float`, `ascii_hex`: numbers are written in ASCII, whatever their form.
* `forall_writeAt`: what holds of printable ASCII and of written texts holds of a written value.
* `newline_notMem_write`, `noSurrogate_write`: no line breaks and no surrogates.
* `noSurrogate_writeAscii`: a style that writes ASCII has no surrogates, whatever the texts are.
-/

namespace TagAudit

mutual

/-- The texts in a value, with the keys of its objects. -/
def Data.texts : Data → List Text
  | .text t => [t]
  | .array items => textsOfItems items
  | .object members => textsOfMembers members
  | _ => []
termination_by structural d => d

/-- The texts in the items of an array. -/
def Data.textsOfItems : List Data → List Text
  | [] => []
  | item :: items => item.texts ++ textsOfItems items
termination_by structural items => items

/-- The texts in the members of an object. -/
def Data.textsOfMembers : List (Text × Data) → List Text
  | [] => []
  | (key, value) :: members => key :: (value.texts ++ textsOfMembers members)
termination_by structural members => members

end

namespace Data

theorem textsOfItems_eq (items : List Data) : textsOfItems items = items.flatMap texts := by
  induction items with
  | nil => rfl
  | cons item items ih => rw [textsOfItems, ih, List.flatMap_cons]

theorem textsOfMembers_eq (members : Members Data) :
    textsOfMembers members = members.flatMap fun m => m.1 :: m.2.texts := by
  induction members with
  | nil => rfl
  | cons m members ih => rw [textsOfMembers, ih, List.flatMap_cons, List.cons_append]

theorem mem_texts_array {items : List Data} {t : Text} :
    t ∈ (Data.array items).texts ↔ ∃ item ∈ items, t ∈ item.texts := by
  rw [texts, textsOfItems_eq, List.mem_flatMap]

theorem mem_texts_object {members : Members Data} {t : Text} :
    t ∈ (Data.object members).texts ↔ ∃ m ∈ members, t = m.1 ∨ t ∈ m.2.texts := by
  rw [texts, textsOfMembers_eq, List.mem_flatMap]
  simp only [List.mem_cons]

end Data

namespace Json

open Outcome

/-- Printable ASCII. -/
def IsAscii (c : CodePoint) : Prop := 0x20 ≤ c.val ∧ c.val < 0x7F

instance (c : CodePoint) : Decidable (IsAscii c) := inferInstanceAs (Decidable (_ ∧ _))

theorem IsAscii.noSurrogate {c : CodePoint} (h : IsAscii c) : c.isSurrogate = false := by
  have hlt : ¬0xD800 ≤ c.val := by
    have := h.2
    omega
  simp [CodePoint.isSurrogate, hlt]

/-- A property of all code points that a style puts between texts. -/
structure Covers (P : CodePoint → Prop) (style : Style) : Prop where
  ascii : ∀ c, IsAscii c → P c
  comma : ∀ c ∈ style.comma, IsAscii c
  colon : ∀ c ∈ style.colon, IsAscii c
  newline : style.multiline = true → P '\n'

variable {P : CodePoint → Prop} {style : Style}

/-! ## Numbers -/

theorem ascii_of_isAsciiDigit {c : CodePoint} (h : c.isAsciiDigit = true) : IsAscii c := by
  rw [CodePoint.isAsciiDigit, Bool.and_eq_true, decide_eq_true_eq, decide_eq_true_eq] at h
  exact ⟨by omega, by omega⟩

theorem ascii_ofNat (n : Nat) : ∀ c ∈ Text.ofNat n, IsAscii c :=
  fun c hc => ascii_of_isAsciiDigit ((isWhole_ofNat n).digits c hc)

theorem ascii_ofInt (n : Int) : ∀ c ∈ Text.ofInt n, IsAscii c := by
  have hsign : ∀ c ∈ (if n < 0 then "-" else "" : Text), IsAscii c := by
    split <;> decide
  exact List.forall_mem_append.mpr ⟨hsign, ascii_ofNat _⟩

theorem ascii_writeInteger {n : Int} {t : Text} (h : writeInteger n = .ok t) :
    ∀ c ∈ t, IsAscii c := by
  obtain rfl : Text.ofInt n = t := by
    unfold writeInteger at h
    split at h
    · exact Except.ok.inj h
    · cases h
  exact ascii_ofInt n

theorem forall_replicate {P : CodePoint → Prop} {t : Text} (ht : ∀ c ∈ t, P c) (n : Nat) :
    ∀ c ∈ Text.replicate n t, P c := by
  intro c hc
  obtain ⟨part, hpart, hmem⟩ := List.mem_flatten.mp hc
  rw [List.eq_of_mem_replicate hpart] at hmem
  exact ht c hmem

theorem ascii_exponentText (e : Int) : ∀ c ∈ Binary64.exponentText e, IsAscii c := by
  have hsign : ∀ c ∈ (if e < 0 then "-" else "+" : Text), IsAscii c := by
    split <;> decide
  have hdigits := ascii_ofNat e.natAbs
  unfold Binary64.exponentText
  refine List.forall_mem_append.mpr ⟨hsign, ?_⟩
  split
  · exact List.forall_mem_append.mpr ⟨by decide, hdigits⟩
  · exact hdigits

theorem ascii_decimal (d : Binary64.Decimal) : ∀ c ∈ d.text, IsAscii c := by
  have hdigits := ascii_ofNat d.digits
  have htake (n : Nat) : ∀ c ∈ (Text.ofNat d.digits).take n, IsAscii c :=
    fun c hc => hdigits c (List.mem_of_mem_take hc)
  have hdrop (n : Nat) : ∀ c ∈ (Text.ofNat d.digits).drop n, IsAscii c :=
    fun c hc => hdigits c (List.mem_of_mem_drop hc)
  have hzeros (n : Nat) := forall_replicate (P := IsAscii) (t := ("0" : Text)) (by decide) n
  have hpoint : ∀ c ∈ ("." : Text), IsAscii c := by decide
  unfold Binary64.Decimal.text
  dsimp only
  split_ifs
  all_goals simp only [List.forall_mem_append]
  · exact ⟨⟨⟨htake 1, hpoint, hdrop 1⟩, by decide⟩, ascii_exponentText _⟩
  · exact ⟨⟨⟨htake 1, nofun⟩, by decide⟩, ascii_exponentText _⟩
  · exact ⟨⟨by decide, hzeros _⟩, hdigits⟩
  · exact ⟨⟨htake _, hpoint⟩, hdrop _⟩
  · exact ⟨⟨hdigits, hzeros _⟩, by decide⟩

theorem ascii_float (x : Binary64) : ∀ c ∈ x.text, IsAscii c := by
  cases x with
  | nan => decide
  | infinite negative => cases negative <;> decide
  | finite negative m e =>
    have hsign : ∀ c ∈ (if negative then "-" else "" : Text), IsAscii c := by
      split <;> decide
    refine List.forall_mem_append.mpr ⟨hsign, ?_⟩
    split
    · decide
    · exact ascii_decimal _

theorem ascii_writeFloat (x : Binary64) : ∀ c ∈ writeFloat x, IsAscii c := by
  cases x with
  | nan => decide
  | infinite negative => cases negative <;> decide
  | finite negative m e => exact ascii_float (.finite negative m e)

theorem ascii_hex (width n : Nat) : ∀ c ∈ Text.hex width n, IsAscii c := by
  have hdigit : ∀ d < 16, IsAscii (.ofChar d.digitChar) := by decide
  have hdigits (n : Nat) : ∀ c ∈ (Nat.toDigits 16 n).map CodePoint.ofChar, IsAscii c := by
    induction n using Nat.strong_induction_on with
    | h n ih =>
      by_cases hbase : n < 16
      · rw [Nat.toDigits_of_lt_base hbase]
        exact List.forall_mem_singleton.mpr (hdigit n hbase)
      · have hbase := Nat.not_lt.mp hbase
        rw [Nat.toDigits_of_base_le (by decide) hbase, List.map_append]
        have hlast := hdigit (n % 16) (Nat.mod_lt n (by decide))
        exact List.forall_mem_append.mpr
          ⟨ih (n / 16) (by omega), List.forall_mem_singleton.mpr hlast⟩
  refine List.forall_mem_append.mpr ⟨fun c hc => ?_, hdigits n⟩
  rw [List.eq_of_mem_replicate hc]
  decide

theorem ascii_unitEscape (n : Nat) : ∀ c ∈ unitEscape n, IsAscii c :=
  List.forall_mem_append.mpr ⟨by decide, ascii_hex 4 n⟩

/-! ## Parts -/

theorem Covers.forall_ascii (h : Covers P style) {t : Text} (ht : ∀ c ∈ t, IsAscii c) :
    ∀ c ∈ t, P c := fun c hc => h.ascii c (ht c hc)

/-- A code point that is no control is written in ASCII or as it is. -/
theorem Covers.forall_escape (h : Covers P style) {c : CodePoint} (hc : 0x20 ≤ c.val → P c) :
    ∀ d ∈ escape false c, P d := by
  by_cases hcontrol : c.val < 0x20
  case neg =>
    simp only [escape, Bool.false_and, Bool.false_eq_true, if_false, if_neg hcontrol]
    split_ifs
    case neg => exact List.forall_mem_singleton.mpr (hc (Nat.not_lt.mp hcontrol))
    all_goals exact h.forall_ascii (by decide)
  case pos =>
    simp only [escape, if_pos hcontrol]
    have hnumber := h.forall_ascii (ascii_unitEscape c.val)
    split_ifs
    case neg => exact hnumber
    all_goals exact h.forall_ascii (by decide)

theorem Covers.forall_writeString (h : Covers P style) {t : Text}
    (ht : ∀ c ∈ t, 0x20 ≤ c.val → P c) : ∀ d ∈ writeString false t, P d := by
  have hmark : P '"' := h.ascii _ (by decide)
  intro d hd
  rw [writeString, List.mem_append, List.mem_cons, List.mem_flatMap, List.mem_singleton] at hd
  obtain (rfl | ⟨c, hc, hd⟩) | rfl := hd
  · exact hmark
  · exact h.forall_escape (ht c hc) d hd
  · exact hmark

theorem Covers.forall_margin (h : Covers P style) (hmultiline : style.multiline = true) (n : Nat) :
    ∀ c ∈ ('\n' : CodePoint) :: Text.replicate n "  ", P c := by
  have hblanks := forall_replicate (P := P) (h.forall_ascii (t := ("  " : Text)) (by decide)) n
  exact List.forall_mem_cons.mpr ⟨h.newline hmultiline, hblanks⟩

theorem Covers.forall_bracket (h : Covers P style) (level : Nat) {opening closing : CodePoint}
    (hopening : P opening) (hclosing : P closing) {parts : List Text}
    (hparts : ∀ part ∈ parts, ∀ c ∈ part, P c) :
    ∀ c ∈ bracket style level opening closing parts, P c := by
  have hcomma := h.forall_ascii h.comma
  unfold bracket
  split
  · simp [hopening, hclosing]
  split
  case isTrue hmultiline =>
    have hmargin := h.forall_margin hmultiline
    have hjoin := Text.forall_join (List.forall_mem_append.mpr ⟨hcomma, hmargin (level + 1)⟩) hparts
    dsimp only
    rw [List.forall_mem_append, List.forall_mem_append, List.forall_mem_append,
      List.forall_mem_cons, List.forall_mem_singleton]
    exact ⟨⟨⟨⟨hopening, hmargin (level + 1)⟩, hjoin⟩, hmargin level⟩, hclosing⟩
  case isFalse =>
    have hjoin := Text.forall_join hcomma hparts
    rw [List.cons_append, List.forall_mem_cons, List.forall_mem_append, List.forall_mem_singleton]
    exact ⟨hopening, hjoin, hclosing⟩

/-! ## Values -/

mutual

/-- **Values.** What holds of printable ASCII and of every written text holds of a written value. -/
theorem Covers.forall_writeAt (h : Covers P style) (level : Nat) : ∀ (v : Data),
    (∀ s ∈ v.texts, ∀ c ∈ writeString style.ascii s, P c) →
    ∀ t, writeAt style level v = .ok t → ∀ c ∈ t, P c
  | .null => by
    rintro - _ ⟨⟩
    exact h.forall_ascii (by decide)
  | .bool true => by
    rintro - _ ⟨⟩
    exact h.forall_ascii (by decide)
  | .bool false => by
    rintro - _ ⟨⟩
    exact h.forall_ascii (by decide)
  | .int _ => fun _ _ ht => h.forall_ascii (ascii_writeInteger ht)
  | .float x => by
    rintro - _ ⟨⟩
    exact h.forall_ascii (ascii_writeFloat x)
  | .text s => by
    rintro htexts _ ⟨⟩
    exact htexts s (List.mem_singleton_self s)
  | .array items => by
    intro htexts t ht
    obtain ⟨-, -, ht⟩ := bind_eq_ok.mp ht
    obtain ⟨parts, hparts, ht⟩ := bind_eq_ok.mp ht
    cases ht
    exact h.forall_bracket level (h.ascii _ (by decide)) (h.ascii _ (by decide))
      (h.forall_writeItems (level + 1) items htexts parts hparts)
  | .object members => by
    intro htexts t ht
    obtain ⟨-, -, ht⟩ := bind_eq_ok.mp ht
    obtain ⟨parts, hparts, ht⟩ := bind_eq_ok.mp ht
    cases ht
    exact h.forall_bracket level (h.ascii _ (by decide)) (h.ascii _ (by decide))
      (h.forall_writeMembers (level + 1) members htexts parts hparts)

theorem Covers.forall_writeItems (h : Covers P style) (level : Nat) : ∀ (items : List Data),
    (∀ s ∈ Data.textsOfItems items, ∀ c ∈ writeString style.ascii s, P c) →
    ∀ parts, writeItems style level items = .ok parts → ∀ part ∈ parts, ∀ c ∈ part, P c
  | [] => by
    rintro - _ ⟨⟩
    exact nofun
  | item :: items => by
    intro htexts parts hparts
    obtain ⟨first, hfirst, hparts⟩ := bind_eq_ok.mp hparts
    obtain ⟨others, hothers, hparts⟩ := bind_eq_ok.mp hparts
    cases hparts
    rw [Data.textsOfItems, List.forall_mem_append] at htexts
    exact List.forall_mem_cons.mpr ⟨h.forall_writeAt level item htexts.1 first hfirst,
      h.forall_writeItems level items htexts.2 others hothers⟩

theorem Covers.forall_writeMembers (h : Covers P style) (level : Nat) : ∀ (members : Members Data),
    (∀ s ∈ Data.textsOfMembers members, ∀ c ∈ writeString style.ascii s, P c) →
    ∀ parts, writeMembers style level members = .ok parts → ∀ part ∈ parts, ∀ c ∈ part, P c
  | [] => by
    rintro - _ ⟨⟩
    exact nofun
  | (key, value) :: members => by
    intro htexts parts hparts
    obtain ⟨first, hfirst, hparts⟩ := bind_eq_ok.mp hparts
    obtain ⟨others, hothers, hparts⟩ := bind_eq_ok.mp hparts
    cases hparts
    rw [Data.textsOfMembers, List.forall_mem_cons, List.forall_mem_append] at htexts
    have hvalue := h.forall_writeAt level value htexts.2.1 first hfirst
    have hrest := h.forall_writeMembers level members htexts.2.2 others hothers
    simp only [List.forall_mem_cons, List.forall_mem_append]
    exact ⟨⟨⟨htexts.1, h.forall_ascii h.colon⟩, hvalue⟩, hrest⟩

end

theorem Covers.limited (h : Covers P style) : Covers P style.limited :=
  ⟨h.ascii, h.comma, h.colon, h.newline⟩

theorem covers_line (P : CodePoint → Prop) (h : ∀ c, IsAscii c → P c) : Covers P (.line false) :=
  ⟨h, by decide, by decide, nofun⟩

theorem covers_indented (P : CodePoint → Prop) (h : ∀ c, IsAscii c → P c) (hnewline : P '\n') :
    Covers P (.indented false) :=
  ⟨h, by decide, by decide, fun _ => hnewline⟩

/-- Nothing that is written on one line breaks it. -/
theorem newline_notMem_write {v : Data} {t : Text}
    (ht : write (Style.line false).limited v = .ok t) : ('\n' : CodePoint) ∉ t := by
  have hline : Covers (· ≠ '\n') (.line false) :=
    covers_line _ fun c hc => by rintro rfl; revert hc; decide
  have hcovers := hline.limited
  have hcontrol (c : CodePoint) (hc : 0x20 ≤ c.val) : c ≠ '\n' := by
    rintro rfl
    revert hc
    decide
  have htexts : ∀ s ∈ v.texts, ∀ c ∈ writeString false s, c ≠ '\n' :=
    fun s _ => hcovers.forall_writeString fun c _ => hcontrol c
  exact fun hmem => hcovers.forall_writeAt 0 v htexts t ht _ hmem rfl

/-- Without surrogates in its texts, a value is written without surrogates. -/
theorem noSurrogate_write {style : Style} (h : Covers (·.isSurrogate = false) style)
    (hplain : style.ascii = false) {v : Data}
    (htexts : ∀ t ∈ v.texts, ∀ c ∈ t, c.isSurrogate = false) {t : Text}
    (ht : write style v = .ok t) : ∀ c ∈ t, c.isSurrogate = false := by
  refine h.forall_writeAt 0 v (fun s hs => ?_) t ht
  rw [hplain]
  exact h.forall_writeString fun c hc _ => htexts s hs c hc

/-! ## Escapes for all but ASCII -/

theorem ascii_escape (c : CodePoint) : ∀ d ∈ escape true c, IsAscii d := by
  have hunits (m n : Nat) : ∀ d ∈ unitEscape m ++ unitEscape n, IsAscii d :=
    List.forall_mem_append.mpr ⟨ascii_unitEscape m, ascii_unitEscape n⟩
  simp only [escape, Bool.true_and, decide_eq_true_eq]
  split_ifs
  all_goals first
    | decide
    | exact ascii_unitEscape _
    | exact hunits _ _
    | exact List.forall_mem_singleton.mpr ⟨by omega, by omega⟩

theorem ascii_writeString (t : Text) : ∀ c ∈ writeString true t, IsAscii c := by
  intro c hc
  rw [writeString, List.mem_append, List.mem_cons, List.mem_flatMap, List.mem_singleton] at hc
  obtain (rfl | ⟨d, -, hc⟩) | rfl := hc
  · decide
  · exact ascii_escape d c hc
  · decide

/-- Escapes leave no surrogates, whatever the texts are. -/
theorem noSurrogate_writeAscii {v : Data} {t : Text} (ht : write (.indented true) v = .ok t) :
    ∀ c ∈ t, c.isSurrogate = false := by
  have hcovers : Covers (·.isSurrogate = false) (.indented true) :=
    ⟨fun _ => IsAscii.noSurrogate, by decide, by decide, fun _ => by decide⟩
  exact hcovers.forall_writeAt 0 v (fun s _ c hc => (ascii_writeString s c hc).noSurrogate) t ht

end Json

end TagAudit
