import TagAudit.Proofs.Data.Written
import TagAudit.Proofs.Json.CodePoints
import TagAudit.Yaml.Writer

/-!
# The code points of written YAML

Documents are written in printable ASCII and line breaks. A text with anything else in it is put
between double quotes, where escapes stand for what is special.

* `NoSpecial`: a text in which nothing is special.
* `noSpecial_plain`, `noSpecial_singleQuoted`, `noSpecial_doubleQuoted`: the styles of a scalar, the
  last one for any text.
* `yields_write`: a document is written unless it holds a number that is too long, and nothing that
  is written is special.
-/

namespace TagAudit.Yaml

open Data (HoldsLong not_holdsLong_int not_holdsLong_array not_holdsLong_object)
open Json (IsAscii)
open Outcome

/-- Printable ASCII and line breaks only. -/
def NoSpecial (t : Text) : Prop := ∀ c ∈ t, isSpecial c = false

instance (t : Text) : Decidable (NoSpecial t) := inferInstanceAs (Decidable (∀ c ∈ t, _))

theorem isSpecial_eq_false_iff {c : CodePoint} :
    isSpecial c = false ↔ c = '\n' ∨ 0x20 ≤ c.val ∧ c.val ≤ 0x7E := by
  simp only [isSpecial, isBreak, Bool.not_eq_false', Bool.or_eq_true, Bool.and_eq_true,
    decide_eq_true_eq]

theorem noSpecial_of_ascii {t : Text} (h : ∀ c ∈ t, IsAscii c) : NoSpecial t := by
  intro c hc
  have := h c hc
  exact isSpecial_eq_false_iff.mpr (.inr ⟨this.1, Nat.le_of_lt_succ this.2⟩)

namespace NoSpecial

theorem noSurrogate {t : Text} (h : NoSpecial t) : ∀ c ∈ t, c.isSurrogate = false := by
  intro c hc
  obtain rfl | hascii := isSpecial_eq_false_iff.mp (h c hc)
  · decide
  · exact IsAscii.noSurrogate ⟨hascii.1, Nat.lt_succ_of_le hascii.2⟩

theorem append {s t : Text} (hs : NoSpecial s) (ht : NoSpecial t) : NoSpecial (s ++ t) :=
  List.forall_mem_append.mpr ⟨hs, ht⟩

theorem cons {c : CodePoint} {t : Text} (hc : isSpecial c = false) (ht : NoSpecial t) :
    NoSpecial (c :: t) := List.forall_mem_cons.mpr ⟨hc, ht⟩

theorem flatten {parts : List Text} (h : ∀ part ∈ parts, NoSpecial part) :
    NoSpecial parts.flatten := by
  intro c hc
  obtain ⟨part, hpart, hc⟩ := List.mem_flatten.mp hc
  exact h part hpart c hc

end NoSpecial

theorem noSpecial_replicate {c : CodePoint} (hc : isSpecial c = false) (n : Nat) :
    NoSpecial (List.replicate n c) := by
  intro d hd
  rw [List.eq_of_mem_replicate hd]
  exact hc

theorem noSpecial_newLine (margin : Nat) : NoSpecial (newLine margin) :=
  .cons (by decide) (noSpecial_replicate (by decide) margin)

/-! ## Words -/

theorem forall_words {P : CodePoint → Prop} {t : Text} (ht : ∀ c ∈ t, P c) :
    ∀ e ∈ words t, ∀ c ∈ e.2, P c := by
  have hgo (blanks : Nat) (word : Text) (done : List (Nat × Text)) (hword : ∀ c ∈ word, P c)
      (hdone : ∀ e ∈ done, ∀ c ∈ e.2, P c) : ∀ e ∈ words.go blanks word done t, ∀ c ∈ e.2, P c := by
    have hreverse {word : Text} (hword : ∀ c ∈ word, P c) : ∀ c ∈ word.reverse, P c :=
      fun c hc => hword c (List.mem_reverse.mp hc)
    induction t generalizing blanks word done with
    | nil =>
      rw [words.go]
      intro e he
      exact List.forall_mem_cons.mpr ⟨hreverse hword, hdone⟩ e (List.mem_reverse.mp he)
    | cons c rest ih =>
      obtain ⟨hc, hrest⟩ := List.forall_mem_cons.mp ht
      rw [words.go]
      split_ifs
      · exact ih hrest _ _ _ nofun hdone
      · exact ih hrest _ _ _ nofun (List.forall_mem_cons.mpr ⟨hreverse hword, hdone⟩)
      · exact ih hrest _ _ _ (List.forall_mem_cons.mpr ⟨hc, hword⟩) hdone
  exact hgo 0 [] [] nofun nofun

theorem noSpecial_fold {p : Place} {column : Nat} {first : Bool} {ws : List (Nat × Text)}
    (h : ∀ e ∈ ws, NoSpecial e.2) : ∀ part ∈ fold p column first ws, NoSpecial part := by
  induction ws generalizing column first with
  | nil => exact nofun
  | cons e rest ih =>
    obtain ⟨hword, hrest⟩ := List.forall_mem_cons.mp h
    rw [fold]
    split
    · simp only [List.forall_mem_cons]
      exact ⟨noSpecial_newLine _, hword, ih hrest⟩
    · have hblanks := noSpecial_replicate (c := (' ' : CodePoint)) (by decide) e.1
      simp only [List.forall_mem_cons]
      exact ⟨hblanks, hword, ih hrest⟩

/-! ## Styles -/

theorem noSpecial_plain (p : Place) {t : Text} (ht : NoSpecial t) : NoSpecial (plain p t) :=
  .flatten (noSpecial_fold (forall_words ht))

theorem noSpecial_doubleQuotes {t : Text} (ht : NoSpecial t) : NoSpecial (doubleQuotes t) := by
  intro c hc
  obtain ⟨d, hd, hc⟩ := List.mem_flatMap.mp hc
  obtain rfl : c = d := by
    split at hc <;> simpa using hc
  exact ht c hd

theorem noSpecial_singleQuotedLine (p : Place) (column : Nat) {line : Text} (h : NoSpecial line) :
    NoSpecial (singleQuotedLine p column line) := by
  refine .flatten (noSpecial_fold fun e he => ?_)
  obtain ⟨word, hword, rfl⟩ := List.mem_map.mp he
  exact noSpecial_doubleQuotes (forall_words h word hword)

theorem noSpecial_singleQuotedRest (p : Place) {breaks : Nat} {lines : List Text}
    (h : ∀ line ∈ lines, NoSpecial line) :
    ∀ part ∈ singleQuotedRest p breaks lines, NoSpecial part := by
  induction lines generalizing breaks with
  | nil => exact nofun
  | cons line rest ih =>
    obtain ⟨hline, hrest⟩ := List.forall_mem_cons.mp h
    rw [singleQuotedRest]
    split
    · exact ih hrest
    · have hbreaks := noSpecial_replicate (c := ('\n' : CodePoint)) (by decide) breaks
      simp only [List.forall_mem_cons]
      exact ⟨hbreaks, noSpecial_newLine _, noSpecial_singleQuotedLine p _ hline, ih hrest⟩

theorem forall_splitOn {P : CodePoint → Prop} (separator : CodePoint) {t : Text}
    (ht : ∀ c ∈ t, P c) : ∀ piece ∈ Text.splitOn separator t, ∀ c ∈ piece, P c := by
  have hgo (piece : Text) (pieces : List Text) (hpiece : ∀ c ∈ piece, P c)
      (hpieces : ∀ other ∈ pieces, ∀ c ∈ other, P c) :
      ∀ other ∈ Text.splitOn.go separator piece pieces t, ∀ c ∈ other, P c := by
    have hnext {piece : Text} {pieces : List Text} (hpiece : ∀ c ∈ piece, P c)
        (hpieces : ∀ other ∈ pieces, ∀ c ∈ other, P c) :
        ∀ other ∈ piece.reverse :: pieces, ∀ c ∈ other, P c :=
      List.forall_mem_cons.mpr ⟨fun c hc => hpiece c (List.mem_reverse.mp hc), hpieces⟩
    induction t generalizing piece pieces with
    | nil =>
      rw [Text.splitOn.go]
      exact fun s hs => hnext hpiece hpieces s (List.mem_reverse.mp hs)
    | cons c rest ih =>
      obtain ⟨hc, hrest⟩ := List.forall_mem_cons.mp ht
      rw [Text.splitOn.go]
      split
      · exact ih hrest _ _ (List.forall_mem_nil _) (hnext hpiece hpieces)
      · exact ih hrest _ _ (List.forall_mem_cons.mpr ⟨hc, hpiece⟩) hpieces
  exact hgo [] [] (List.forall_mem_nil _) (List.forall_mem_nil _)

theorem noSpecial_singleQuoted (p : Place) {t : Text} (ht : NoSpecial t) :
    NoSpecial (singleQuoted p t) := by
  have hlines := forall_splitOn '\n' ht
  unfold singleQuoted
  split
  · decide
  · rename_i line rest hsplit
    rw [hsplit] at hlines
    obtain ⟨hline, hrest⟩ := List.forall_mem_cons.mp hlines
    have hfirst := NoSpecial.cons (c := ('\'' : CodePoint)) (by decide)
      (noSpecial_singleQuotedLine p (p.column + 1) hline)
    exact (hfirst.append (.flatten (noSpecial_singleQuotedRest p hrest))).append (by decide)

/-- The digits of an escape in capital letters. -/
theorem noSpecial_capitals (width n : Nat) : NoSpecial ((Text.hex width n).map fun d =>
    if d.isAsciiLower then CodePoint.ofNat (d.val - 0x20) else d) := by
  refine noSpecial_of_ascii fun d hd => ?_
  obtain ⟨e, he, rfl⟩ := List.mem_map.mp hd
  have hascii := Json.ascii_hex width n e he
  split
  case isTrue hlower =>
    simp only [CodePoint.isAsciiLower, Bool.and_eq_true, decide_eq_true_eq] at hlower
    rw [IsAscii, CodePoint.val_ofNat (by omega)]
    omega
  case isFalse => exact hascii

/-- An escape is written in ASCII, and what needs none is ASCII. -/
theorem noSpecial_escape? (c : CodePoint) : NoSpecial ((escape? c).getD [c]) := by
  let p (o : Option Text) : Prop := NoSpecial (o.getD [c])
  have hshort (letter : Char) (h : isSpecial letter = false) : p (some ['\\', letter]) :=
    .cons (by decide) (.cons h nofun)
  have hlong (mark : Text) (h : NoSpecial mark) (width : Nat) :
      p (some (mark ++ (Text.hex width c.val).map fun d =>
        if d.isAsciiLower then CodePoint.ofNat (d.val - 0x20) else d)) :=
    h.append (noSpecial_capitals width c.val)
  change p (escape? c)
  unfold escape?
  refine iteInduction (fun _ => hshort _ (by decide)) fun _ => ?_
  refine iteInduction (fun _ => hshort _ (by decide)) fun _ => ?_
  refine iteInduction (fun hascii => ?_) fun _ => ?_
  · rw [Bool.and_eq_true, decide_eq_true_eq, decide_eq_true_eq] at hascii
    exact .cons (isSpecial_eq_false_iff.mpr (.inr hascii)) nofun
  iterate 13 refine iteInduction (fun _ => hshort _ (by decide)) fun _ => ?_
  refine iteInduction (fun _ => hlong _ (by decide) 2) fun _ => ?_
  exact iteInduction (fun _ => hlong _ (by decide) 4) fun _ => hlong _ (by decide) 8

theorem noSpecial_doubleQuotedRest (p : Place) (t : Text) (column : Nat) (first fresh : Bool) :
    ∀ part ∈ doubleQuotedRest p column first fresh t, NoSpecial part := by
  induction t generalizing column first fresh with
  | nil => exact nofun
  | cons c rest ih =>
    let good (parts : List Text) : Prop := ∀ part ∈ parts, NoSpecial part
    have hcons {part : Text} {parts : List Text} (hpart : NoSpecial part) (hparts : good parts) :
        good (part :: parts) := List.forall_mem_cons.mpr ⟨hpart, hparts⟩
    have hbreak (next : Option CodePoint) : NoSpecial (('\\' : CodePoint) :: newLine p.margin ++
        (if next = some (' ' : CodePoint) then ['\\'] else [] : Text)) := by
      refine .append (.cons (by decide) (noSpecial_newLine _)) ?_
      split <;> decide
    have hc := noSpecial_escape? c
    change good (doubleQuotedRest p column first fresh (c :: rest))
    rw [doubleQuotedRest]
    cases hescape : escape? c with
    | none =>
      rw [hescape] at hc
      exact iteInduction (fun _ => hcons (hbreak _) (hcons hc (ih _ _ _)))
        fun _ => hcons hc (ih _ _ _)
    | some e =>
      rw [hescape] at hc
      exact iteInduction (fun _ => hcons hc (hcons (hbreak _) (ih _ _ _)))
        fun _ => hcons hc (ih _ _ _)

theorem noSpecial_doubleQuoted (p : Place) (t : Text) : NoSpecial (doubleQuoted p t) := by
  have hrest := NoSpecial.flatten (noSpecial_doubleQuotedRest p t (p.column + 1) true true)
  exact (NoSpecial.cons (by decide) hrest).append (by decide)

theorem noSpecial_of_any {t : Text} (h : (!t.any isSpecial) = true) : NoSpecial t := by
  intro c hc
  rw [Bool.not_eq_true', List.any_eq_false] at h
  exact Bool.eq_false_iff.mpr (h c hc)

theorem Style.of_eq_plain {inKey : Bool} {t : Text} (h : Style.of inKey t = .plain) :
    NoSpecial t := by
  have hplain : mayBePlain t = true := by
    unfold Style.of at h
    split_ifs at h
    assumption
  simp only [mayBePlain, Bool.and_eq_true] at hplain
  exact noSpecial_of_any (by tauto)

theorem Style.of_eq_singleQuoted {inKey : Bool} {t : Text} (h : Style.of inKey t = .singleQuoted) :
    NoSpecial t := by
  have hquoted : mayBeSingleQuoted t = true := by
    unfold Style.of at h
    split_ifs at h with _ hquoted
    exact (Bool.and_eq_true_iff.mp hquoted).1
  simp only [mayBeSingleQuoted, Bool.and_eq_true] at hquoted
  exact noSpecial_of_any hquoted.1.1

/-- **Texts.** The style of a text writes nothing special. -/
theorem noSpecial_writeText (inKey : Bool) (p : Place) (t : Text) :
    NoSpecial (writeText inKey p t) := by
  unfold writeText
  split
  case h_1 h => exact noSpecial_plain p (Style.of_eq_plain h)
  case h_2 h => exact noSpecial_singleQuoted p (Style.of_eq_singleQuoted h)
  case h_3 => exact noSpecial_doubleQuoted p t

/-! ## Numbers -/

theorem yields_writeInteger (n : Int) :
    Yields (Data.int n).HoldsLong NoSpecial (writeInteger n) := by
  have hwritten := not_holdsLong_int (n := n)
  cases h : writeInteger n with
  | error fault =>
    rw [h] at hwritten
    exact .error (not_not.mp fun hshort => nomatch (hwritten.mp hshort).choose_spec)
  | ok t => exact .ok (hwritten.mpr ⟨t, h⟩) (noSpecial_of_ascii (Json.ascii_writeInteger h))

theorem mem_of_splitOnce?_go {needle front t before after : Text}
    (h : Text.splitOnce?.go needle front t = some (before, after)) :
    (∀ c ∈ before, c ∈ front ∨ c ∈ t) ∧ ∀ c ∈ after, c ∈ t := by
  induction t generalizing front with
  | nil =>
    rw [Text.splitOnce?.go] at h
    split at h
    · cases h
      exact ⟨fun c hc => .inl (List.mem_reverse.mp hc), nofun⟩
    · cases h
  | cons d rest ih =>
    rw [Text.splitOnce?.go] at h
    split at h
    · cases h
      exact ⟨fun c hc => .inl (List.mem_reverse.mp hc), fun c hc => List.mem_of_mem_drop hc⟩
    · obtain ⟨hbefore, hafter⟩ := ih h
      refine ⟨fun c hc => ?_, fun c hc => List.mem_cons_of_mem d (hafter c hc)⟩
      have := hbefore c hc
      rw [List.mem_cons] at this ⊢
      tauto

theorem noSpecial_writeFloat (x : Binary64) : NoSpecial (writeFloat x) := by
  cases x with
  | nan => decide
  | infinite negative => cases negative <;> decide
  | finite negative m e =>
    have htext := noSpecial_of_ascii (Json.ascii_float (.finite negative m e))
    unfold writeFloat
    dsimp only
    split
    · exact htext
    split
    · rename_i digits exponent hsplit
      obtain ⟨hbefore, hafter⟩ := mem_of_splitOnce?_go hsplit
      have hdigits : NoSpecial digits := fun c hc => htext c ((hbefore c hc).resolve_left nofun)
      have hexponent : NoSpecial exponent := fun c hc => htext c (hafter c hc)
      exact (hdigits.append (by decide)).append hexponent
    · exact htext

/-! ## Values -/

/-- Values that take lines of their own. -/
def IsBlock : Data → Prop
  | .array (_ :: _) | .object (_ :: _) => True
  | _ => False

theorem writeInline_block (p : Place) {d : Data} (h : IsBlock d) : writeInline p d = .ok none := by
  cases d with
  | array items => cases items with
    | nil => cases h
    | cons => rfl
  | object members => cases members with
    | nil => cases h
    | cons => rfl
  | _ => cases h

theorem yields_writeInline (p : Place) {d : Data} (h : ¬IsBlock d) :
    Yields d.HoldsLong (fun o => ∃ t, o = some t ∧ NoSpecial t) (writeInline p d) := by
  cases d with
  | null => exact .ok (by rintro ⟨⟩) ⟨_, rfl, by decide⟩
  | bool b => cases b <;> exact .ok (by rintro ⟨⟩) ⟨_, rfl, by decide⟩
  | int n =>
    rw [writeInline]
    exact (yields_writeInteger n).map fun t ht => ⟨t, rfl, ht⟩
  | float x => exact .ok (by rintro ⟨⟩) ⟨_, rfl, noSpecial_writeFloat x⟩
  | text t => exact .ok (by rintro ⟨⟩) ⟨_, rfl, noSpecial_writeText false p t⟩
  | array items => cases items with
    | nil => exact .ok (not_holdsLong_array.mpr (List.forall_mem_nil _)) ⟨_, rfl, by decide⟩
    | cons => exact absurd trivial h
  | object members => cases members with
    | nil => exact .ok (not_holdsLong_object.mpr (List.forall_mem_nil _)) ⟨_, rfl, by decide⟩
    | cons => exact absurd trivial h

theorem noSpecial_join {separator : Text} (hseparator : NoSpecial separator) {parts : List Text}
    (h : ∀ part ∈ parts, NoSpecial part) : NoSpecial (Text.join separator parts) :=
  Text.forall_join hseparator h

theorem holdsLong_array_cons {item : Data} {items : List Data} :
    (Data.array (item :: items)).HoldsLong ↔ item.HoldsLong ∨ (Data.array items).HoldsLong := by
  rw [← not_iff_not, not_or, not_holdsLong_array, not_holdsLong_array, List.forall_mem_cons]

theorem holdsLong_object_cons {key : Text} {value : Data} {members : List (Text × Data)} :
    (Data.object ((key, value) :: members)).HoldsLong ↔
      value.HoldsLong ∨ (Data.object members).HoldsLong := by
  rw [← not_iff_not, not_or, not_holdsLong_object, not_holdsLong_object, List.forall_mem_cons]

mutual

/-- **Mappings** are written unless they hold a number that is too long, and nothing special is
written. -/
theorem yields_writeMembers (margin : Nat) : ∀ members : List (Text × Data),
    Yields (Data.object members).HoldsLong (∀ part ∈ ·, NoSpecial part)
      (writeMembers margin members)
  | [] => .ok (not_holdsLong_object.mpr (List.forall_mem_nil _)) nofun
  | (key, value) :: rest => by
    have hbelow := yields_writeBelow margin value
    have hbeside := yields_writeBeside (margin + 2) value
    have hothers := yields_writeMembers margin rest
    have hnext (entry : Text) (hentry : NoSpecial entry) :
        Yields (Data.object rest).HoldsLong (∀ part ∈ ·, NoSpecial part)
          (do return entry :: (← writeMembers margin rest)) :=
      hothers.returns fun _ hparts => List.forall_mem_cons.mpr ⟨hentry, hparts⟩
    refine Yields.of_iff ?_ holdsLong_object_cons.symm
    rw [writeMembers]
    split
    case isTrue =>
      have hkey := (noSpecial_writeText true ⟨margin, margin + 2, false⟩ key).append
        (show NoSpecial (":" : Text) by decide)
      dsimp only
      by_cases hblock : IsBlock value
      · rw [writeInline_block _ hblock, ok_bind]
        exact (hbelow hblock).bind fun t ht => hnext _ (hkey.append ht)
      · refine (yields_writeInline _ hblock).bind ?_
        rintro _ ⟨t, rfl, ht⟩
        exact hnext _ (hkey.append (.cons (by decide) ht))
    case isFalse =>
      have hkey := (((show NoSpecial ("? " : Text) by decide).append
        (noSpecial_writeText false ⟨margin + 2, margin + 2, true⟩ key)).append
          (noSpecial_newLine margin)).append (show NoSpecial (": " : Text) by decide)
      exact hbeside.bind fun t ht => hnext _ (hkey.append ht)

theorem yields_writeBelow (margin : Nat) : ∀ d : Data, IsBlock d →
    Yields d.HoldsLong NoSpecial (writeBelow margin d)
  | .array items => fun _ => (yields_writeItems margin items).returns fun _ hparts =>
      (noSpecial_newLine _).append (noSpecial_join (noSpecial_newLine _) hparts)
  | .object members => fun _ => (yields_writeMembers (margin + 2) members).returns fun _ hparts =>
      (noSpecial_newLine _).append (noSpecial_join (noSpecial_newLine _) hparts)
  | .null | .bool _ | .int _ | .float _ | .text _ => nofun

theorem yields_writeBeside (margin : Nat) : ∀ d : Data,
    Yields d.HoldsLong NoSpecial (writeBeside margin d)
  | .array (item :: items) => (yields_writeItems margin (item :: items)).returns fun _ hparts =>
      noSpecial_join (noSpecial_newLine _) hparts
  | .object (entry :: members) => (yields_writeMembers margin (entry :: members)).returns
      fun _ hparts => noSpecial_join (noSpecial_newLine _) hparts
  | .array [] | .object [] | .null | .bool _ | .int _ | .float _ | .text _ => by
    refine (yields_writeInline ⟨margin, margin, true⟩ (by nofun)).returns ?_
    rintro _ ⟨t, rfl, ht⟩
    exact ht

theorem yields_writeItems (margin : Nat) : ∀ items : List Data,
    Yields (Data.array items).HoldsLong (∀ part ∈ ·, NoSpecial part) (writeItems margin items)
  | [] => .ok (not_holdsLong_array.mpr (List.forall_mem_nil _)) nofun
  | item :: rest => by
    have hfirst := yields_writeBeside (margin + 2) item
    have hothers := yields_writeItems margin rest
    refine Yields.of_iff ?_ holdsLong_array_cons.symm
    rw [writeItems]
    refine hfirst.bind fun t ht => hothers.returns fun others hothers => ?_
    exact List.forall_mem_cons.mpr ⟨.append (by decide) ht, hothers⟩

end

/-- **Documents.** -/
theorem yields_write (members : Members Data) :
    Yields (Data.object members).HoldsLong NoSpecial (write members) := by
  cases members with
  | nil => exact .ok (not_holdsLong_object.mpr (List.forall_mem_nil _)) (by decide)
  | cons m rest =>
    refine (yields_writeMembers 0 (m :: rest)).returns fun parts hparts => ?_
    exact (noSpecial_join (by decide) hparts).append (by decide)

end TagAudit.Yaml
