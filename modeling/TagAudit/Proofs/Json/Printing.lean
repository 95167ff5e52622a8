import TagAudit.Json.Printer
import TagAudit.Proofs.Data.Written
import TagAudit.Proofs.Literal.Strict

/-!
# What the printer writes

A value without floats, without integers that are too long and without repeated keys is written as a
text of the grammar that spells this very value. No code point but a control is written by its
number, so that surrogates stand for themselves and are never taken for the halves of a pair.

* `Data.Lossless`, `Data.nesting`: the values that come back, and how deep they are nested;
  `nesting_le` compares that with the arrays and objects alone.
* `Style.Plain`: the styles in which they are written.
* `number_of_writeInteger`, `exists_body`: numbers and strings.
* `value_of_writeAt`, `renders_of_write`: values and whole texts.
* `readWithin_of_write`: what is written is read again.
-/

namespace TagAudit

/-- A value that JSON gives back: it holds no float, no integer that is too long to be written, and
no object with a key twice. -/
inductive Data.Lossless : Data → Prop where
  | null : Lossless .null
  | bool (b : Bool) : Lossless (.bool b)
  | int {n : Int} : n.natAbs < tenPow Fault.digitLimit → Lossless (.int n)
  | text (t : Text) : Lossless (.text t)
  | array {items : List Data} : (∀ item ∈ items, Lossless item) → Lossless (.array items)
  | object {members : Members Data} : members.keys.Nodup → (∀ m ∈ members, Lossless m.2) →
    Lossless (.object members)

namespace Data

theorem lossless_int {n : Int} : (Data.int n).Lossless ↔ n.natAbs < tenPow Fault.digitLimit :=
  ⟨fun | .int h => h, .int⟩

theorem lossless_array {items : List Data} :
    (Data.array items).Lossless ↔ ∀ item ∈ items, item.Lossless :=
  ⟨fun | .array h => h, .array⟩

theorem lossless_object {members : Members Data} :
    (Data.object members).Lossless ↔ members.keys.Nodup ∧ ∀ m ∈ members, m.2.Lossless :=
  ⟨fun | .object hnodup h => ⟨hnodup, h⟩, fun h => .object h.1 h.2⟩

mutual

/-- Whether a value comes back can be decided. -/
def decideLossless : (d : Data) → Decidable d.Lossless
  | .null => isTrue .null
  | .bool b => isTrue (.bool b)
  | .int _ => decidable_of_iff _ lossless_int.symm
  | .float _ => isFalse nofun
  | .text t => isTrue (.text t)
  | .array items =>
    have := decideItems items
    decidable_of_iff _ lossless_array.symm
  | .object members =>
    have := decideMembers members
    decidable_of_iff _ lossless_object.symm
termination_by structural d => d

/-- The same for all items of an array. -/
def decideItems : (items : List Data) → Decidable (∀ item ∈ items, item.Lossless)
  | [] => isTrue nofun
  | item :: items =>
    have := decideLossless item
    have := decideItems items
    decidable_of_iff _ List.forall_mem_cons.symm
termination_by structural items => items

/-- The same for the values of all members of an object. -/
def decideMembers : (members : List (Text × Data)) → Decidable (∀ m ∈ members, m.2.Lossless)
  | [] => isTrue nofun
  | (_, value) :: members =>
    have := decideLossless value
    have := decideMembers members
    decidable_of_iff _ List.forall_mem_cons.symm
termination_by structural members => members

end

instance (d : Data) : Decidable d.Lossless := decideLossless d

end Data

mutual

/-- How deep a value is nested, itself included. -/
def Data.nesting : Data → Nat
  | .array items => nestingItems items + 1
  | .object members => nestingMembers members + 1
  | _ => 1
termination_by structural d => d

/-- How deep the items of an array are nested. -/
def Data.nestingItems : List Data → Nat
  | [] => 0
  | item :: items => max item.nesting (nestingItems items)
termination_by structural items => items

/-- How deep the members of an object are nested. -/
def Data.nestingMembers : List (Text × Data) → Nat
  | [] => 0
  | (_, value) :: members => max value.nesting (nestingMembers members)
termination_by structural members => members

end

namespace Data

theorem nesting_pos (d : Data) : 0 < d.nesting := by
  cases d <;> simp [nesting]

theorem nesting_item {items : List Data} {item : Data} (h : item ∈ items) :
    item.nesting < (Data.array items).nesting := by
  rw [nesting, Nat.lt_succ_iff]
  induction items with
  | nil => cases h
  | cons first items ih =>
    rw [nestingItems]
    rcases List.mem_cons.mp h with rfl | h
    · exact Nat.le_max_left ..
    · exact Nat.le_trans (ih h) (Nat.le_max_right ..)

theorem nesting_member {members : Members Data} {m : Text × Data} (h : m ∈ members) :
    m.2.nesting < (Data.object members).nesting := by
  rw [nesting, Nat.lt_succ_iff]
  induction members with
  | nil => cases h
  | cons first members ih =>
    rw [nestingMembers]
    rcases List.mem_cons.mp h with rfl | h
    · exact Nat.le_max_left ..
    · exact Nat.le_trans (ih h) (Nat.le_max_right ..)

mutual

/-- What is innermost may be neither an array nor an object. -/
theorem nesting_le : ∀ d : Data, d.nesting ≤ d.depth + 1
  | .null | .bool _ | .int _ | .float _ | .text _ => Nat.le_refl 1
  | .array items => Nat.succ_le_succ (nestingItems_le items)
  | .object members => Nat.succ_le_succ (nestingMembers_le members)

theorem nestingItems_le : ∀ items : List Data, nestingItems items ≤ depthItems items + 1
  | [] => Nat.zero_le _
  | item :: items => by
    have hitem := nesting_le item
    have hitems := nestingItems_le items
    rw [nestingItems, depthItems]
    omega

theorem nestingMembers_le : ∀ members : List (Text × Data),
    nestingMembers members ≤ depthMembers members + 1
  | [] => Nat.zero_le _
  | (_, value) :: members => by
    have hvalue := nesting_le value
    have hmembers := nestingMembers_le members
    rw [nestingMembers, depthMembers]
    omega

end

/-- A value that comes back can be written. -/
theorem Lossless.not_holdsLong {d : Data} (h : d.Lossless) : ¬d.HoldsLong := by
  induction h with
  | null | bool | text =>
    intro hlong
    cases hlong
  | int hn =>
    intro hlong
    cases hlong with
    | int hle => exact Nat.not_le.mpr hn hle
  | array _ ih => exact not_holdsLong_array.mpr ih
  | object _ _ ih => exact not_holdsLong_object.mpr ih

end Data

namespace Json

open Literal (digitValues signed)
open Outcome

/-! ## Numbers -/

theorem toDigits_head {n : Nat} (hn : 0 < n) : (Nat.toDigits 10 n).head? ≠ some '0' := by
  induction n using Nat.strong_induction_on with
  | h n ih =>
    by_cases hbase : n < 10
    · rw [Nat.toDigits_of_lt_base hbase]
      simpa [Nat.digitChar_eq_zero] using hn.ne'
    · have hbase := Nat.not_lt.mp hbase
      have hhead := ih (n / 10) (by omega) (Nat.div_pos hbase (by decide))
      rw [Nat.toDigits_of_base_le (by decide) hbase, List.head?_append]
      obtain ⟨c, digits, hdigits⟩ := List.exists_cons_of_ne_nil (Nat.toDigits_ne_nil (n := n / 10))
      rw [hdigits] at hhead ⊢
      exact hhead

theorem ofNat_eq (n : Nat) : Text.ofNat n = (Nat.toDigits 10 n).map CodePoint.ofChar := by
  rw [← Nat.toList_repr]
  rfl

theorem isAsciiDigit_ofChar {c : Char} (h : c.isDigit = true) :
    (CodePoint.ofChar c).isAsciiDigit = true := by
  simp only [Char.isDigit, Bool.and_eq_true, decide_eq_true_eq, ge_iff_le,
    UInt32.le_iff_toNat_le] at h
  exact Bool.and_eq_true_iff.mpr ⟨decide_eq_true h.1, decide_eq_true h.2⟩

theorem isWhole_ofNat (n : Nat) : IsWhole (Text.ofNat n) where
  digits c hc := by
    rw [ofNat_eq] at hc
    obtain ⟨d, hd, rfl⟩ := List.mem_map.mp hc
    exact isAsciiDigit_ofChar (Nat.isDigit_of_mem_toDigits (by decide) (by decide) hd)
  ne_nil h := by
    rw [ofNat_eq, List.map_eq_nil_iff] at h
    exact Nat.toDigits_ne_nil h
  zero rest h := by
    rw [ofNat_eq] at h
    obtain ⟨c, digits, hdigits, hc, rfl⟩ := List.map_eq_cons_iff.mp h
    obtain rfl : c = '0' := CodePoint.ofChar_injective hc
    obtain rfl : n = 0 := by
      by_contra hn
      exact toDigits_head (Nat.pos_of_ne_zero hn) (by rw [hdigits]; rfl)
    cases hdigits
    rfl

theorem toNat_ofNat (n : Nat) : Numeral.toNat 10 (digitValues (Text.ofNat n)) = n := by
  have hvalues := digitValues_eq (isWhole_ofNat n).digits
  have hread := Nat.ofDigitChars_toDigits (b := 10) (n := n) (by decide) (by decide)
  rw [hvalues, ofNat_eq, List.map_map, Numeral.toNat, List.foldl_map]
  rw [Nat.ofDigitChars] at hread
  simpa [Nat.mul_comm, CodePoint.ofChar] using hread

theorem length_ofNat {n limit : Nat} (hlimit : 0 < limit) (h : n < tenPow limit) :
    (Text.ofNat n).length ≤ limit := by
  rw [ofNat_eq, List.length_map]
  exact (Nat.length_toDigits_le_iff (by decide) hlimit).mpr h

/-- **Integers** are written as numbers. -/
theorem number_of_writeInteger {n : Int} {t : Text} (h : writeInteger n = .ok t) :
    Number t (.int n) := by
  have hn : n.natAbs < tenPow Fault.digitLimit := by
    by_contra hn
    rw [writeInteger, if_neg hn] at h
    cases h
  rw [writeInteger, if_pos hn] at h
  cases h
  have whole {minus : Text} {negative : Bool} (hminus : Minus minus negative) :
      Number (minus ++ Text.ofNat n.natAbs) (.int (signed negative n.natAbs)) := by
    have := Number.whole hminus (isWhole_ofNat n.natAbs) (length_ofNat (by decide) hn)
    rwa [toNat_ofNat] at this
  unfold Text.ofInt
  split
  case isTrue hneg =>
    have hsigned : signed true n.natAbs = n := by
      change -(n.natAbs : Int) = n
      omega
    have := whole .minus
    rwa [hsigned] at this
  case isFalse hneg =>
    have hsigned : signed false n.natAbs = n := by
      change (n.natAbs : Int) = n
      omega
    have := whole .none
    rwa [hsigned] at this

/-! ## Strings -/

theorem hexCode?_control :
    ∀ n < 0x20, Literal.hexCode? (Text.hex 4 n) = some (CodePoint.ofNat n) := by
  decide

theorem length_hex_control : ∀ n < 0x20, (Text.hex 4 n).length = 4 := by
  decide

/-- A control is written by its number. -/
theorem spelling_unitEscape {c : CodePoint} (h : c.val < 0x20) :
    Spelling (unitEscape c.val) ⟨c, true⟩ := by
  have hcode : CodePoint.ofNat c.val = c := CodePoint.ext (CodePoint.val_ofNat c.lt)
  obtain ⟨d₁, d₂, d₃, d₄, hhex⟩ : ∃ d₁ d₂ d₃ d₄, Text.hex 4 c.val = [d₁, d₂, d₃, d₄] := by
    have hlength := length_hex_control c.val h
    match hdigits : Text.hex 4 c.val, hlength with
    | [d₁, d₂, d₃, d₄], _ => exact ⟨d₁, d₂, d₃, d₄, rfl⟩
  have hfour : fourHex? d₁ d₂ d₃ d₄ = some c := by
    rw [fourHex?_eq_hexCode?, ← hhex, hexCode?_control c.val h, hcode]
  rw [unitEscape, hhex]
  exact fourHex?_eq_some.mp hfour

/-- A code point is written as one letter, and by its number only if it is a control. -/
theorem exists_spelling (c : CodePoint) :
    ∃ numbered, Spelling (escape false c) ⟨c, numbered⟩ ∧ (numbered = true → c.val < 0x20) := by
  have named {e : CodePoint} (h : (e, c) ∈ escapes) :
      ∃ numbered, Spelling ['\\', e] ⟨c, numbered⟩ ∧ (numbered = true → c.val < 0x20) :=
    ⟨false, .escape h, nofun⟩
  simp only [escape, Bool.false_and, Bool.false_eq_true, if_false]
  split_ifs with hquote hslash hline hreturn htab hfeed hback hcontrol
  · exact named (by rw [hquote]; decide)
  · exact named (by rw [hslash]; decide)
  · exact named (by rw [hline]; decide)
  · exact named (by rw [hreturn]; decide)
  · exact named (by rw [htab]; decide)
  · exact named (by rw [hfeed]; decide)
  · exact named (by rw [hback]; decide)
  · exact ⟨true, spelling_unitEscape hcontrol, fun _ => hcontrol⟩
  · exact ⟨false, .plain hquote hslash (Nat.not_lt.mp hcontrol), nofun⟩

/-- **Strings** are written letter by letter, and no two letters are the halves of a pair. -/
theorem exists_body (t : Text) :
    ∃ letters, Body (t.flatMap (escape false)) letters ∧ Dialect.unpaired.Denotes letters t := by
  have hbody : ∃ letters, Body (t.flatMap (escape false)) letters ∧ apart letters = t ∧
      ∀ l ∈ letters, l.numbered = true → l.code.val < 0x20 := by
    induction t with
    | nil => exact ⟨[], .nil, rfl, nofun⟩
    | cons c t ih =>
      obtain ⟨letters, hbody, hapart, hcontrols⟩ := ih
      obtain ⟨numbered, hspelling, hcontrol⟩ := exists_spelling c
      exact ⟨_, .cons hspelling hbody, congrArg (c :: ·) hapart,
        List.forall_mem_cons.mpr ⟨hcontrol, hcontrols⟩⟩
  obtain ⟨letters, hbody, hapart, hcontrols⟩ := hbody
  have hunpaired : Unpaired letters := by
    rintro front high low back rfl
    by_contra hpair
    rw [Bool.not_eq_false, Letter.pairsWith, Bool.and_eq_true, Bool.and_eq_true] at hpair
    obtain ⟨⟨hnumbered, hhigh⟩, -⟩ := hpair
    have hcontrol := hcontrols high (by simp) hnumbered
    have hle : 0xD800 ≤ high.code.val := by
      rw [CodePoint.isHighSurrogate, Bool.and_eq_true] at hhigh
      exact of_decide_eq_true hhigh.1
    omega
  exact ⟨letters, hbody, hapart.symm.trans (joined_eq_apart hunpaired).symm, hunpaired⟩

/-! ## Layout -/

/-- A style that only puts blanks behind commas and colons, and writes all code points as they
are. -/
structure Style.Plain (style : Style) : Prop where
  ascii : style.ascii = false
  comma : ∃ blanks : Text, style.comma = (',' : CodePoint) :: blanks ∧ IsBlanks blanks
  colon : ∃ blanks : Text, style.colon = (':' : CodePoint) :: blanks ∧ IsBlanks blanks

theorem IsBlanks.nil : IsBlanks [] := nofun

theorem isBlanks_blank : IsBlanks [' '] := List.forall_mem_singleton.mpr (by decide)

theorem Style.compact_plain : Style.compact.Plain :=
  ⟨rfl, ⟨[], rfl, .nil⟩, ⟨[], rfl, .nil⟩⟩

theorem Style.Plain.limited {style : Style} (h : style.Plain) : style.limited.Plain :=
  ⟨h.ascii, h.comma, h.colon⟩

theorem Style.line_plain : (Style.line false).Plain :=
  ⟨rfl, ⟨[' '], rfl, isBlanks_blank⟩, ⟨[' '], rfl, isBlanks_blank⟩⟩

theorem Style.indented_plain : (Style.indented false).Plain :=
  ⟨rfl, ⟨[], rfl, .nil⟩, ⟨[' '], rfl, isBlanks_blank⟩⟩

theorem isBlanks_margin (n : Nat) : IsBlanks (('\n' : CodePoint) :: Text.replicate n "  ") := by
  refine List.forall_mem_cons.mpr ⟨by decide, fun c hc => ?_⟩
  obtain ⟨t, ht, hc⟩ := List.mem_flatten.mp hc
  obtain rfl := List.eq_of_mem_replicate ht
  have hblanks : ∀ c ∈ ("  " : Text), isBlank c = true := by decide
  exact hblanks c hc

/-- Parts stand between their brackets with a comma between neighbours, and blanks besides. -/
theorem bracket_eq {style : Style} (h : style.Plain) (level : Nat) (opening closing : CodePoint)
    {parts : List Text} (hne : parts ≠ []) :
    ∃ before gap after : Text, IsBlanks before ∧ IsBlanks gap ∧ IsBlanks after ∧
      bracket style level opening closing parts =
        opening :: (before ++ (Text.join (',' :: gap) parts ++ (after ++ [closing]))) := by
  obtain ⟨blanks, hcomma, hblanks⟩ := h.comma
  have hparts : parts.isEmpty = false := by simpa using hne
  unfold bracket
  rw [hparts, hcomma]
  cases style.multiline with
  | false => exact ⟨[], blanks, [], .nil, hblanks, .nil, by simp⟩
  | true =>
    have hgap (c : CodePoint) (hc : c ∈ blanks ++ _) : isBlank c = true :=
      (List.mem_append.mp hc).elim (hblanks c) (isBlanks_margin (level + 1) c)
    exact ⟨_, _, _, isBlanks_margin (level + 1), hgap, isBlanks_margin level, by simp⟩

section

variable {d : Dialect} {Item : Text → Data → Prop} {gap after : Text}

theorem Items.join (hgap : IsBlanks gap) (hafter : IsBlanks after) {items : List Data}
    {parts : List Text} (h : List.Forall₂ (fun item part => Item part item) items parts)
    (hne : items ≠ []) :
    Items Item (Text.join (',' :: gap) parts ++ (after ++ [(']' : CodePoint)])) items := by
  induction h with
  | nil => exact absurd rfl hne
  | @cons item part items parts hitem hitems ih =>
    cases hitems with
    | nil => simpa [Text.join] using Items.last hitem hafter
    | cons hnext hrest =>
      have hrest := ih (List.cons_ne_nil _ _)
      rw [Text.join, List.intercalate_cons_cons]
      simpa [Text.join] using Items.item hitem .nil hgap hrest

theorem Entries.join (hgap : IsBlanks gap) (hafter : IsBlanks after) {entries : List (Text × Data)}
    {parts : List Text} (h : List.Forall₂ (fun entry part => Entry d Item part entry) entries parts)
    (hne : entries ≠ []) :
    Entries d Item (Text.join (',' :: gap) parts ++ (after ++ [('\x7d' : CodePoint)])) entries := by
  induction h with
  | nil => exact absurd rfl hne
  | @cons entry part entries parts hentry hentries ih =>
    cases hentries with
    | nil => simpa [Text.join] using Entries.last hentry hafter
    | cons hnext hrest =>
      have hrest := ih (List.cons_ne_nil _ _)
      rw [Text.join, List.intercalate_cons_cons]
      simpa [Text.join] using Entries.member hentry .nil hgap hrest

end

/-! ## Values -/

theorem writeItems_eq (style : Style) (level : Nat) (items : List Data) :
    writeItems style level items = items.mapM (writeAt style level) := by
  induction items with
  | nil => rfl
  | cons item items ih => rw [writeItems, ih, List.mapM_cons]

/-- What a member is written as. -/
def writeMember (style : Style) (level : Nat) (m : Text × Data) : Except Fault Text := do
  return writeString style.ascii m.1 ++ style.colon ++ (← writeAt style level m.2)

theorem writeMembers_eq (style : Style) (level : Nat) (members : Members Data) :
    writeMembers style level members = members.mapM (writeMember style level) := by
  induction members with
  | nil => rfl
  | cons m members ih =>
    rw [writeMembers, ih, List.mapM_cons, writeMember, bind_assoc]
    rfl

/-- A member is written as an entry. -/
theorem entry_of_writeMember {style : Style} (hstyle : style.Plain) {Item : Text → Data → Prop}
    {level : Nat} {m : Text × Data} {part : Text}
    (hitem : ∀ {s : Text}, writeAt style level m.2 = .ok s → Item s m.2)
    (h : writeMember style level m = .ok part) : Entry .unpaired Item part m := by
  obtain ⟨s, hs, h⟩ := bind_eq_ok.mp h
  cases h
  obtain ⟨blanks, hcolon, hblanks⟩ := hstyle.colon
  obtain ⟨letters, hbody, hdenotes⟩ := exists_body m.1
  have := Entry.mk hbody hdenotes .nil hblanks (hitem hs)
  rw [hcolon, hstyle.ascii]
  simpa [writeString] using this

/-- **Values** are written as the grammar spells them. -/
theorem value_of_writeAt {style : Style} (hstyle : style.Plain) {v : Data} (h : v.Lossless)
    {depth level : Nat} (hdepth : v.nesting ≤ depth) {t : Text}
    (ht : writeAt style level v = .ok t) : Value .unpaired depth t v := by
  induction depth generalizing v level t with
  | zero => exact absurd hdepth (Nat.not_le.mpr v.nesting_pos)
  | succ depth ih =>
    cases h with
    | null =>
      cases ht
      exact Form.word (by simp [Dialect.unpaired, constants])
    | bool b =>
      cases b
      all_goals
        cases ht
        exact Form.word (by simp [Dialect.unpaired, constants])
    | int => exact Form.number (number_of_writeInteger ht)
    | text s =>
      cases ht
      obtain ⟨letters, hbody, hdenotes⟩ := exists_body s
      rw [writeString, hstyle.ascii]
      exact Form.text hbody hdenotes
    | @array items hitems =>
      obtain ⟨-, -, ht⟩ := bind_eq_ok.mp ht
      obtain ⟨parts, hparts, ht⟩ := bind_eq_ok.mp ht
      cases ht
      rw [writeItems_eq] at hparts
      have hspelled : List.Forall₂ (fun item part => Value .unpaired depth part item) items parts :=
        forall₂_of_mapM hparts fun item h _ => ih (hitems item h)
          (Nat.lt_succ_iff.mp (Nat.lt_of_lt_of_le (Data.nesting_item h) hdepth))
      cases hspelled with
      | nil => exact Form.emptyArray .nil
      | cons hfirst hrest =>
        obtain ⟨before, gap, after, hbefore, hgap, hafter, hbracket⟩ :=
          bracket_eq hstyle level '[' ']' (List.cons_ne_nil _ _)
        rw [hbracket]
        exact Form.array hbefore
          (Items.join hgap hafter (.cons hfirst hrest) (List.cons_ne_nil _ _))
    | @object members hnodup hmembers =>
      obtain ⟨-, -, ht⟩ := bind_eq_ok.mp ht
      obtain ⟨parts, hparts, ht⟩ := bind_eq_ok.mp ht
      cases ht
      rw [writeMembers_eq] at hparts
      have hspelled : List.Forall₂
          (fun m part => Entry .unpaired (Value .unpaired depth) part m) members parts :=
        forall₂_of_mapM hparts fun m h _ => entry_of_writeMember hstyle (ih (hmembers m h)
          (Nat.lt_succ_iff.mp (Nat.lt_of_lt_of_le (Data.nesting_member h) hdepth)))
      cases hspelled with
      | nil => exact Form.emptyObject .nil
      | cons hfirst hrest =>
        obtain ⟨before, gap, after, hbefore, hgap, hafter, hbracket⟩ :=
          bracket_eq hstyle level '\x7b' '\x7d' (List.cons_ne_nil _ _)
        rw [hbracket]
        exact Form.object hbefore
          (Entries.join hgap hafter (.cons hfirst hrest) (List.cons_ne_nil _ _))
          (Members.merged_self hnodup)

/-- **Texts.** What is written of a value spells this value. -/
theorem renders_of_write {style : Style} (hstyle : style.Plain) {v : Data} (h : v.Lossless)
    {t : Text} (ht : write style v = .ok t) : Renders .unpaired v.nesting t v :=
  ⟨[], t, [], by simp, .nil, value_of_writeAt hstyle h (Nat.le_refl _) ht, .nil⟩

/-- **A round trip.** What is written is read again, by a reader that goes deep enough. -/
theorem readWithin_of_write {style : Style} (hstyle : style.Plain) {v : Data} (h : v.Lossless)
    {t : Text} (ht : write style v = .ok t) {limit : Nat} (hlimit : v.nesting ≤ limit) :
    readWithin limit t = .ok v := by
  have hstrict := (renders_of_write hstyle h ht).mono Dialect.unpaired_within (Nat.le_refl _)
  exact (hstrict.mono Dialect.strict_within hlimit).readWithin_eq_ok

/-- What is written within the limit on nesting is read again. -/
theorem read_of_writeLimited {style : Style} (hstyle : style.Plain) {v : Data} (h : v.Lossless)
    {t : Text} (ht : write style.limited v = .ok t) : read t = .ok v := by
  have hdepth := (exists_writeLimited_iff.mp ⟨t, ht⟩).2
  refine readWithin_of_write hstyle.limited h ht (Nat.le_trans v.nesting_le ?_)
  exact Nat.succ_le_succ hdepth

end Json

end TagAudit
