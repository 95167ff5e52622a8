import Mathlib
import TagAudit.Proofs.Container.References
import TagAudit.Proofs.Json.Printing
import TagAudit.Proofs.Json.Reading

/-!
# Records of maps

A raw tag or variable is a map with some twenty fields, and any value may stand under any key. Of
the values that JSON spells, a record uses every one, with one exception: a priority that is a float
and not finite.

* `Json.not_holdsLong_of_read`: no integer of a JSON text is too long to be written.
* `exists_firstName_cons_iff`: a cascade of names goes as far as it has to.
* `exists_decodeTag_iff`, `exists_decodeVariable`: when the record of a map comes out.
* `decode_map`: both for the maps that JSON spells, with the priority of the tag.
-/

namespace TagAudit

open Data (HoldsLong not_holdsLong_int not_holdsLong_array not_holdsLong_object)
open Outcome (bind_eq_ok ok_bind)

/-! ## Integers of JSON texts -/

theorem Numeral.toNat_lt {digits : List Nat} (h : ∀ d ∈ digits, d < 10) :
    Numeral.toNat 10 digits < tenPow digits.length := by
  induction digits using List.reverseRecOn with
  | nil => exact tenPow_pos 0
  | append_singleton digits d ih =>
    rw [List.forall_mem_append] at h
    have hdigits := ih h.1
    have hd := h.2 d List.mem_cons_self
    have hstep : Numeral.toNat 10 (digits ++ [d]) = Numeral.toNat 10 digits * 10 + d := by
      simp [Numeral.toNat]
    rw [hstep, List.length_append, List.length_singleton, tenPow_succ]
    omega

theorem tenPow_le {m n : Nat} (h : m ≤ n) : tenPow m ≤ tenPow n :=
  Nat.pow_le_pow_right (by decide) h

namespace Json

open Literal (digitValues signed)

theorem natAbs_signed (negative : Bool) (n : Nat) : (signed negative n).natAbs = n := by
  cases negative <;> simp [signed]

/-- A number has no more digits than can be written. -/
theorem Number.not_holdsLong {s : Text} {v : Data} (h : Number s v) : ¬v.HoldsLong := by
  cases h with
  | real => rintro ⟨⟩
  | @whole _ digits _ _ hdigits hshort =>
    have hlt : ∀ d ∈ digitValues digits, d < 10 := by
      rw [digitValues_eq hdigits.digits]
      intro d hd
      obtain ⟨c, hc, rfl⟩ := List.mem_map.mp hd
      have := hdigits.digits c hc
      simp only [CodePoint.isAsciiDigit, Bool.and_eq_true, decide_eq_true_eq] at this
      omega
    rintro ⟨hlong⟩
    rw [natAbs_signed] at hlong
    have hvalue := Numeral.toNat_lt hlt
    rw [length_digitValues] at hvalue
    exact absurd (hlong.trans_lt hvalue) (Nat.not_lt.mpr (tenPow_le hshort))

theorem Items.forall_mem {Item : Text → Data → Prop} {P : Data → Prop}
    (hitem : ∀ s v, Item s v → P v) {s : Text} {items : List Data} (h : Items Item s items) :
    ∀ v ∈ items, P v := by
  induction h with
  | last hs _ => simpa using hitem _ _ hs
  | item hs _ _ _ ih => exact List.forall_mem_cons.mpr ⟨hitem _ _ hs, ih⟩

theorem Entries.forall_mem {d : Dialect} {Item : Text → Data → Prop} {P : Data → Prop}
    (hitem : ∀ s v, Item s v → P v) {s : Text} {entries : List (Text × Data)}
    (h : Entries d Item s entries) : ∀ e ∈ entries, P e.2 := by
  have hentry {s : Text} {e : Text × Data} : Entry d Item s e → P e.2
    | .mk _ _ _ _ hs => hitem _ _ hs
  induction h with
  | last he _ => simpa using hentry he
  | member he _ _ _ ih => exact List.forall_mem_cons.mpr ⟨hentry he, ih⟩

theorem not_holdsLong_word {s : Text} {v : Data} (h : (s, v) ∈ words) : ¬v.HoldsLong := by
  simp only [words, List.mem_cons, Prod.mk.injEq, List.not_mem_nil, or_false] at h
  obtain ⟨-, rfl⟩ | ⟨-, rfl⟩ | ⟨-, rfl⟩ | ⟨-, rfl⟩ | ⟨-, rfl⟩ | ⟨-, rfl⟩ := h <;> rintro ⟨⟩

theorem Value.not_holdsLong {depth : Nat} {s : Text} {v : Data}
    (h : Value .extended depth s v) : ¬v.HoldsLong := by
  induction depth generalizing s v with
  | zero => exact h.elim
  | succ depth ih =>
    cases h with
    | text => rintro ⟨⟩
    | emptyArray _ => exact not_holdsLong_array.mpr (List.forall_mem_nil _)
    | emptyObject _ => exact not_holdsLong_object.mpr (List.forall_mem_nil _)
    | number h => exact h.not_holdsLong
    | word h => exact not_holdsLong_word h
    | array _ h =>
      exact not_holdsLong_array.mpr (h.forall_mem (P := fun v => ¬v.HoldsLong) fun _ _ => ih)
    | object _ h hmembers =>
      rw [not_holdsLong_object]
      intro m hm
      rw [Members.merged_iff.mp hmembers] at hm
      exact h.forall_mem (P := fun v => ¬v.HoldsLong) (fun _ _ => ih) m
        (Members.mem_of_mem_ofList hm)

/-- **No integer of a JSON text is too long to be written.** -/
theorem not_holdsLong_of_read {text : Text} {v : Data} (h : read text = .ok v) :
    ¬v.HoldsLong := by
  obtain ⟨_, _, _, _, _, hvalue, _⟩ := read_eq_ok_iff.mp h
  exact Value.not_holdsLong hvalue

end Json

/-! ## Texts of numbers -/

theorem Text.ofInt_ne_nil (n : Int) : Text.ofInt n ≠ [] :=
  List.append_ne_nil_of_right_ne_nil _ (Json.isWhole_ofNat _).ne_nil

theorem Binary64.Decimal.text_ne_nil (d : Binary64.Decimal) : d.text ≠ [] := by
  have hdigits : Text.ofNat d.digits ≠ [] := (Json.isWhole_ofNat _).ne_nil
  have hpoint : ("." : Text) ≠ [] := by decide
  unfold Binary64.Decimal.text
  simp only
  split_ifs <;> simp [hdigits, hpoint]

theorem Binary64.text_ne_nil (x : Binary64) : x.text ≠ [] := by
  unfold Binary64.text
  split
  · decide
  · decide
  · decide
  · refine List.append_ne_nil_of_right_ne_nil _ ?_
    split
    · decide
    · exact Decimal.text_ne_nil _

namespace Container

/-! ## Names -/

/-- What a member of a map holds is short if the map is. -/
theorem not_holdsLong_get? {members : Members Data} (h : ¬(Data.object members).HoldsLong)
    {key : Text} {value : Data} (hvalue : members.get? key = some value) : ¬value.HoldsLong :=
  not_holdsLong_object.mp h _ (Members.mem_of_get? hvalue)

theorem not_holdsLong_getD {members : Members Data} (h : ¬(Data.object members).HoldsLong)
    (key : Text) : ¬(Data.getD members key).HoldsLong := by
  rw [Data.getD]
  cases hvalue : members.get? key with
  | none => rintro ⟨⟩
  | some value => exact not_holdsLong_get? h hvalue

/-- A cascade of names goes on where a source gives none. -/
theorem exists_firstName_cons_iff {source : Unit → Except Fault (Option Text)}
    {rest : List (Unit → Except Fault (Option Text))} {default : Text} :
    (∃ name, firstName (source :: rest) default = .ok name) ↔
      ∃ found, source () = .ok found ∧
        (found.getD [] = [] → ∃ name, firstName rest default = .ok name) := by
  rw [firstName]
  cases source () with
  | error fault => exact iff_of_false nofun nofun
  | ok found =>
    simp only [ok_bind, Except.ok.injEq, exists_eq_left']
    cases found with
    | none => simp
    | some name =>
      simp only [List.isEmpty_iff, Option.getD_some]
      split
      case isTrue h => simp [h]
      case isFalse h => simp [h, pure, Except.pure]

/-- No value spells an empty name. -/
theorem nameText?_ne_nil {d : Data} {name : Text} (h : nameText? d = .ok (some name)) :
    name ≠ [] := by
  cases d with
  | text t =>
    simp only [nameText?, Except.ok.injEq] at h
    split at h
    case isTrue => cases h
    case isFalse hblank =>
      cases h
      rintro rfl
      exact hblank rfl
  | int n =>
    rw [nameText?, Outcome.map_eq_ok] at h
    obtain ⟨t, ht, hname⟩ := h
    rw [← Option.some.inj hname]
    unfold writeInteger at ht
    split at ht <;> cases ht
    exact Text.ofInt_ne_nil n
  | float x =>
    cases h
    exact x.text_ne_nil
  | _ => cases h

theorem exists_explicitName {members : Members Data} (h : ¬(Data.object members).HoldsLong) :
    ∃ found, explicitName (.object members) = .ok found :=
  exists_nameText?_of_not_holdsLong (not_holdsLong_getD h "name")

theorem exists_metadataName {members : Members Data} (h : ¬(Data.object members).HoldsLong) :
    ∃ found, metadataName (.object members) = .ok found := by
  have hgo (items : List Data) (hitems : ∀ item ∈ items, ¬item.HoldsLong) :
      ∃ found, metadataName.go items = .ok found := by
    induction items with
    | nil => exact ⟨_, rfl⟩
    | cons item items ih =>
      cases items with
      | nil => exact ⟨_, rfl⟩
      | cons value rest =>
        rw [metadataName.go]
        split
        · exact exists_nameText?_of_not_holdsLong (hitems value (by simp))
        · exact ih fun v hv => hitems v (List.mem_cons_of_mem _ hv)
  rw [metadataName]
  split
  · next items hitems =>
    exact hgo items (not_holdsLong_array.mp (not_holdsLong_get? h hitems))
  · exact ⟨_, rfl⟩

theorem explicitName_ne_nil {members : Members Data} {name : Text}
    (h : explicitName (.object members) = .ok (some name)) : name ≠ [] := nameText?_ne_nil h

theorem metadataName_ne_nil {record : Data} {name : Text}
    (h : metadataName record = .ok (some name)) : name ≠ [] := by
  have hgo (items : List Data) (h : metadataName.go items = .ok (some name)) : name ≠ [] := by
    induction items with
    | nil => cases h
    | cons item items ih =>
      cases items with
      | nil => cases h
      | cons value rest =>
        rw [metadataName.go] at h
        split at h
        · exact nameText?_ne_nil h
        · exact ih h
  unfold metadataName at h
  split at h
  · exact hgo _ h
  · cases h

theorem exists_parameterName {members : Members Data} (h : ¬(Data.object members).HoldsLong) :
    ∃ found, parameterName (.object members) = .ok found := by
  have hgo (keys : List Text) : ∃ found, parameterName.go members keys = .ok found := by
    induction keys with
    | nil => exact ⟨_, rfl⟩
    | cons key keys ih =>
      obtain ⟨found, hfound⟩ := exists_nameText?_of_not_holdsLong (not_holdsLong_getD h key)
      rw [parameterName.go, hfound, ok_bind]
      cases found with
      | none => exact ih
      | some name =>
        simp only
        split
        · exact ih
        · exact ⟨_, rfl⟩
  exact hgo tagNameKeys

theorem exists_variableParameterName {members : Members Data}
    (h : ¬(Data.object members).HoldsLong) :
    ∃ found, variableParameterName (.object members) = .ok found := by
  have hby (function : Text) :
      ∃ found, variableParameterName.byFunction members function = .ok found := by
    unfold variableParameterName.byFunction
    split_ifs
    · exact exists_nameText?_of_not_holdsLong (not_holdsLong_getD h _)
    · exact exists_nameText?_of_not_holdsLong (not_holdsLong_getD h _)
    · exact ⟨_, rfl⟩
  obtain ⟨found, hfound⟩ := exists_nameText?_of_not_holdsLong (not_holdsLong_getD h "vtp_name")
  rw [variableParameterName, hfound, ok_bind]
  cases found with
  | none => exact hby _
  | some name =>
    simp only
    split
    · exact hby _
    · exact ⟨_, rfl⟩

/-- The name at the head of an entry is missing where that is an integer too long to be written. -/
def EntryIsLong (entities : Members Data) (position : Nat) : Prop :=
  ∃ n rest, entities.get? (Text.ofNat position) = some (.array (.int n :: rest)) ∧
    (Data.int n).HoldsLong

theorem exists_entryName_iff {entities : Members Data} {position : Nat} :
    (∃ found, entryName (entities.get? (Text.ofNat position)) = .ok found) ↔
      ¬EntryIsLong entities position := by
  unfold EntryIsLong
  cases entities.get? (Text.ofNat position) with
  | none => exact iff_of_true ⟨_, rfl⟩ (by rintro ⟨_, _, ⟨⟩, -⟩)
  | some entry =>
    cases entry with
    | array items =>
      cases items with
      | nil => exact iff_of_true ⟨_, rfl⟩ (by rintro ⟨_, _, ⟨⟩, -⟩)
      | cons head rest =>
        cases head with
        | int n =>
          have hname : (∃ found, entryName (some (.array (.int n :: rest))) = .ok found) ↔
              ¬(Data.int n).HoldsLong :=
            Outcome.exists_map_eq_ok.trans not_holdsLong_int.symm
          rw [hname]
          refine not_congr ⟨fun hlong => ⟨n, rest, rfl, hlong⟩, ?_⟩
          rintro ⟨_, _, ⟨⟩, hlong⟩
          exact hlong
        | _ => exact iff_of_true ⟨_, rfl⟩ (by rintro ⟨_, _, ⟨⟩, -⟩)
    | _ => exact iff_of_true ⟨_, rfl⟩ (by rintro ⟨_, _, ⟨⟩, -⟩)

/-- **The name of a tag** comes out unless the cascade reaches an entry without a name. -/
theorem exists_tagName_iff {members : Members Data} (h : ¬(Data.object members).HoldsLong)
    {position : Nat} {entities : Members Data} (default : Text) :
    (∃ name, tagName (.object members) position entities default = .ok name) ↔
      (explicitName (.object members) = .ok none → metadataName (.object members) = .ok none →
        ¬EntryIsLong entities position) := by
  obtain ⟨explicit, hexplicit⟩ := exists_explicitName h
  obtain ⟨metadata, hmetadata⟩ := exists_metadataName h
  obtain ⟨parameter, hparameter⟩ := exists_parameterName h
  have hnone {found : Option Text} (hname : ∀ name, found = some name → name ≠ []) :
      found.getD [] = [] ↔ found = none := by
    cases found with
    | none => simp
    | some name => simpa using hname name rfl
  have hlast : ∃ name, firstName [fun _ => parameterName (.object members)] default = .ok name :=
    exists_firstName_cons_iff.mpr ⟨parameter, hparameter, fun _ => ⟨_, rfl⟩⟩
  rw [tagName, exists_firstName_cons_iff, exists_firstName_cons_iff, exists_firstName_cons_iff,
    ← exists_entryName_iff]
  simp only [hexplicit, hmetadata, Except.ok.injEq, exists_eq_left', hlast, implies_true, and_true]
  rw [hnone fun name hname => explicitName_ne_nil (hname ▸ hexplicit),
    hnone fun name hname => metadataName_ne_nil (hname ▸ hmetadata)]

theorem exists_variableName {members : Members Data} (h : ¬(Data.object members).HoldsLong)
    (default : Text) : ∃ name, variableName (.object members) default = .ok name := by
  obtain ⟨first, hfirst⟩ := exists_explicitName h
  obtain ⟨second, hsecond⟩ := exists_metadataName h
  obtain ⟨third, hthird⟩ := exists_variableParameterName h
  rw [variableName, exists_firstName_cons_iff, exists_firstName_cons_iff,
    exists_firstName_cons_iff]
  exact ⟨first, hfirst, fun _ => ⟨second, hsecond, fun _ => ⟨third, hthird, fun _ => ⟨_, rfl⟩⟩⟩⟩

/-! ## Tags -/

/-- A float without a whole part. -/
inductive IsEndless : Data → Prop where
  | infinite (negative : Bool) : IsEndless (.float (.infinite negative))
  | nan : IsEndless (.float .nan)

/-- The integer that a value can be read as. -/
def wholeOf? : Data → Option Int
  | .int n => some n
  | .float x => x.truncate?
  | .text t => (readInteger t).toOption
  | _ => none

theorem integerOr_eq_ok_iff {default : Int} {d : Data} {n : Int} :
    integerOr default d = .ok n ↔ ¬IsEndless d ∧ n = (wholeOf? d).getD default := by
  have hplain (hd : ¬IsEndless d) (hn : integerOr default d = .ok ((wholeOf? d).getD default)) :
      integerOr default d = .ok n ↔ ¬IsEndless d ∧ n = (wholeOf? d).getD default := by
    rw [hn, Except.ok.injEq, eq_comm, and_iff_right hd]
  cases d with
  | float x =>
    cases x with
    | nan => exact iff_of_false (by rintro ⟨⟩) fun h => h.1 .nan
    | infinite negative => exact iff_of_false (by rintro ⟨⟩) fun h => h.1 (.infinite negative)
    | finite => exact hplain (by rintro ⟨⟩) rfl
  | text t =>
    refine hplain (by rintro ⟨⟩) ?_
    rw [integerOr, wholeOf?]
    cases readInteger t <;> rfl
  | _ => exact hplain (by rintro ⟨⟩) rfl

theorem exists_tagType (members : Members Data) : ∃ type, tagType (.object members) = .ok type := by
  unfold tagType
  simp only [Data.members?]
  split
  · exact ⟨_, rfl⟩
  · split
    · split <;> exact ⟨_, rfl⟩
    · exact ⟨_, rfl⟩

theorem exists_tagReferences {d : Data} (h : ¬d.HoldsLong) :
    ∃ ids, tagReferences d = .ok ids := by
  have hentry (entry : Data) (hentry : ¬entry.HoldsLong) :
      ∃ id, tagReference? entry = .ok id := by
    match entry with
    | .array (head :: target :: rest) =>
      have htarget := not_holdsLong_array.mp hentry target (by simp)
      unfold tagReference?
      simp only
      split
      · cases target with
        | int n => exact Outcome.exists_map_eq_ok.mpr (not_holdsLong_int.mp htarget)
        | _ => exact ⟨_, rfl⟩
      · exact ⟨_, rfl⟩
    | .array [] | .array [_] | .null | .bool _ | .int _ | .float _ | .text _ | .object _ =>
      exact ⟨_, rfl⟩
  match d with
  | .array (head :: entries) =>
    rw [tagReferences]
    split
    · obtain ⟨found, hfound⟩ := Outcome.exists_mapM_eq_ok.mpr fun entry hmem =>
        hentry entry (not_holdsLong_array.mp h entry (List.mem_cons_of_mem _ hmem))
      exact ⟨_, bind_eq_ok.mpr ⟨found, hfound, rfl⟩⟩
    · exact ⟨_, rfl⟩
  | .array [] | .null | .bool _ | .int _ | .float _ | .text _ | .object _ => exact ⟨_, rfl⟩

theorem hasWritableId_of_not_holdsLong {tag : Data} (h : ¬tag.HoldsLong) : HasWritableId tag := by
  intro n hn
  cases tag with
  | object members =>
    have hshort := not_holdsLong_get? h hn
    exact Nat.not_le.mp fun hle => hshort (.int hle)
  | _ => cases hn

theorem exists_decodeTag_iff {members : Members Data} (h : ¬(Data.object members).HoldsLong)
    {position : Nat} {entities : Members Data} {firing blocking : List Text} :
    (∃ record, decodeTag (.object members) position entities firing blocking = .ok record) ↔
      ¬IsEndless (Data.getD members "priority") ∧
      (explicitName (.object members) = .ok none → metadataName (.object members) = .ok none →
        ¬EntryIsLong entities position) := by
  obtain ⟨id, hid⟩ : ∃ id, tagIdentifier (.object members) position = .ok id :=
    exists_tagIdentifier_iff.mpr (hasWritableId_of_not_holdsLong h)
  obtain ⟨type, htype⟩ := exists_tagType members
  obtain ⟨setup, hsetup⟩ := exists_tagReferences (not_holdsLong_getD h "setup_tags")
  obtain ⟨teardown, hteardown⟩ := exists_tagReferences (not_holdsLong_getD h "teardown_tags")
  have hpriority : (∃ n, integerOr 0 (Data.getD members "priority") = .ok n) ↔
      ¬IsEndless (Data.getD members "priority") := by
    simp only [integerOr_eq_ok_iff, exists_and_left, exists_eq, and_true]
  rw [← exists_tagName_iff h [], ← hpriority, decodeTag]
  simp only [bind_eq_ok, hid, htype, hsetup, hteardown]
  constructor
  · rintro ⟨_, _, -, name, hname, _, -, n, hn, -⟩
    exact ⟨⟨n, hn⟩, name, hname⟩
  · rintro ⟨⟨n, hn⟩, name, hname⟩
    exact ⟨_, id, rfl, name, hname, type, rfl, n, hn, setup, rfl, teardown, rfl, rfl⟩

/-- The priority of a decoded tag. -/
theorem decodeTag_priority {members : Members Data} {position : Nat} {entities : Members Data}
    {firing blocking : List Text} {record : Tag}
    (h : decodeTag (.object members) position entities firing blocking = .ok record) :
    record.priority = (wholeOf? (Data.getD members "priority")).getD 0 := by
  obtain ⟨id, -, h⟩ := bind_eq_ok.mp h
  obtain ⟨name, -, h⟩ := bind_eq_ok.mp h
  obtain ⟨type, -, h⟩ := bind_eq_ok.mp h
  obtain ⟨priority, hpriority, h⟩ := bind_eq_ok.mp h
  obtain ⟨setup, -, h⟩ := bind_eq_ok.mp h
  obtain ⟨teardown, -, h⟩ := bind_eq_ok.mp h
  cases h
  exact (integerOr_eq_ok_iff.mp hpriority).2

/-! ## Variables -/

theorem exists_summaryText {d : Data} (h : ¬d.HoldsLong) : ∃ t, summaryText d = .ok t := by
  unfold summaryText
  split
  · exact ⟨_, rfl⟩
  · exact ⟨_, rfl⟩
  · exact ⟨_, rfl⟩
  · exact exists_display_iff.mpr h

theorem exists_defaultOf {members : Members Data} (h : ¬(Data.object members).HoldsLong) :
    ∃ default, defaultOf members = .ok default := by
  unfold defaultOf
  split
  · exact Outcome.exists_map_eq_ok.mpr (exists_summaryText (not_holdsLong_getD h _))
  · exact ⟨_, rfl⟩

theorem exists_mainDetail {members : Members Data} (h : ¬(Data.object members).HoldsLong)
    (function : Text) : ∃ parts, mainDetail members function = .ok parts := by
  have hshown (key : Text) : ∃ t, (Data.getD members key).display = .ok t :=
    exists_display_iff.mpr (not_holdsLong_getD h key)
  have hvalue := not_holdsLong_getD h "vtp_value"
  have hscript := not_holdsLong_getD h "vtp_javascript"
  obtain ⟨name, hname⟩ := hshown "vtp_name"
  obtain ⟨version, hversion⟩ := hshown "vtp_dataLayerVersion"
  obtain ⟨component, hcomponent⟩ := hshown "vtp_component"
  unfold mainDetail
  simp only [hname, hversion, hcomponent, ok_bind]
  generalize Data.getD members "vtp_value" = value at *
  generalize Data.getD members "vtp_javascript" = script at *
  split
  case isTrue => split_ifs <;> exact ⟨_, rfl⟩
  case isFalse =>
    split
    case isTrue => exact ⟨_, rfl⟩
    case isFalse =>
      obtain ⟨t, ht⟩ := exists_summaryText hvalue
      obtain ⟨s, hs⟩ := exists_summaryText hscript
      split
      · simp only [hs, ok_bind]
        split <;> exact ⟨_, rfl⟩
      · simp only [hs, ok_bind]
        split <;> exact ⟨_, rfl⟩
      · exact ⟨_, rfl⟩
      · exact ⟨_, bind_eq_ok.mpr ⟨t, ht, rfl⟩⟩

theorem exists_summarizeVariable {members : Members Data} (h : ¬(Data.object members).HoldsLong) :
    ∃ t, summarizeVariable (.object members) = .ok t := by
  obtain ⟨main, hmain⟩ := exists_mainDetail h (functionOf (.object members))
  obtain ⟨default, hdefault⟩ := exists_defaultOf h
  rw [summarizeVariable, hmain, ok_bind, hdefault]
  exact ⟨_, rfl⟩

theorem exists_decodeVariable {members : Members Data} (h : ¬(Data.object members).HoldsLong)
    (position : Nat) : ∃ record, decodeVariable (.object members) position = .ok record := by
  obtain ⟨default, hdefault⟩ := exists_defaultOf h
  obtain ⟨name, hname⟩ := exists_variableName h
    (defaultVariableName (functionOf (.object members)) position)
  obtain ⟨details, hdetails⟩ := exists_summarizeVariable h
  rw [decodeVariable]
  simp only [bind_eq_ok, hdefault, hname, hdetails]
  exact ⟨_, default, rfl, name, rfl, details, rfl, rfl⟩

/-! ## Maps that JSON spells -/

/-- **Maps that JSON spells.** The record of a tag comes out unless its priority is infinite or no
number, or its name is looked up in an entry whose head is an integer too long to be written. What
cannot be read as an integer is no priority. The record of a variable always comes out. -/
theorem decode_map {text : Text} {members : Members Data}
    (h : Json.read text = .ok (.object members)) (position : Nat) (entities : Members Data)
    (firing blocking : List Text) :
    ((∃ record, decodeTag (.object members) position entities firing blocking = .ok record) ↔
      ¬IsEndless (Data.getD members "priority") ∧
      (explicitName (.object members) = .ok none → metadataName (.object members) = .ok none →
        ¬EntryIsLong entities position)) ∧
    (∀ record, decodeTag (.object members) position entities firing blocking = .ok record →
      record.priority = (wholeOf? (Data.getD members "priority")).getD 0) ∧
    ∃ record, decodeVariable (.object members) position = .ok record := by
  have hshort := Json.not_holdsLong_of_read h
  exact ⟨exists_decodeTag_iff hshort, fun _ => decodeTag_priority,
    exists_decodeVariable hshort position⟩

/-- A tag with a priority in words, which counts as none. -/
theorem decode_wordedPriority :
    Json.read "\x7b\"priority\":\"high\"\x7d" =
      .ok (.object [("priority", .text "high")]) ∧
    ∃ record, decodeTag (.object [("priority", .text "high")]) 0 [] [] [] = .ok record ∧
      record.priority = 0 := by
  have hread : Json.read "\x7b\"priority\":\"high\"\x7d" =
      .ok (.object [("priority", .text "high")]) := by cbv
  obtain ⟨hiff, hpriority, -⟩ := decode_map hread 0 [] [] []
  obtain ⟨record, hrecord⟩ := hiff.mpr ⟨by rintro ⟨⟩, fun _ _ => by rintro ⟨_, _, ⟨⟩, -⟩⟩
  exact ⟨hread, record, hrecord, hpriority record hrecord⟩

/-- An infinite priority leaves a tag without a record. -/
theorem decodeTag_endlessPriority :
    Json.read "\x7b\"priority\":1e999\x7d" =
      .ok (.object [("priority", .float (.infinite false))]) ∧
    decodeTag (.object [("priority", .float (.infinite false))]) 0 [] [] [] =
      .error .wholeOfInfinity := by
  refine ⟨by cbv, ?_⟩
  rfl

end Container

end TagAudit
