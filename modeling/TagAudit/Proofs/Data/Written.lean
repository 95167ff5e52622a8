import TagAudit.Container.Record
import TagAudit.Proofs.Outcome

/-!
# Values that have a text

A raw record is shown as JSON, and what JSON cannot hold is displayed instead. Both write integers
in decimal, and no integer of more than `Fault.digitLimit` digits is written at all.

* `HoldsLong`: a value with such an integer in it.
* `Data.depth`, `Style.Admits`: how deep arrays and objects are nested, and how deep they may be.
* `exists_writeAt_iff`, `exists_inspect_iff`: all other values are written, and displayed.
* `fault_of_writeAt`: what fails without such an integer is nested too deeply.
* `exists_writtenOrDisplayed_iff`: so displaying never helps where writing failed.
-/

namespace TagAudit

/-- A value with an integer in it that is too long to be written. -/
inductive Data.HoldsLong : Data → Prop where
  | int {n : Int} : tenPow Fault.digitLimit ≤ n.natAbs → HoldsLong (.int n)
  | item {item : Data} {items : List Data} : item ∈ items → HoldsLong item →
    HoldsLong (.array items)
  | member {key : Text} {value : Data} {members : List (Text × Data)} :
    (key, value) ∈ members → HoldsLong value → HoldsLong (.object members)

namespace Data

theorem not_holdsLong_int {n : Int} : ¬(Data.int n).HoldsLong ↔ ∃ t, writeInteger n = .ok t := by
  have hlong : (Data.int n).HoldsLong ↔ tenPow Fault.digitLimit ≤ n.natAbs :=
    ⟨fun h => by cases h with | int hn => exact hn, .int⟩
  rw [hlong, Nat.not_le]
  unfold writeInteger
  split <;> simp_all

theorem not_holdsLong_array {items : List Data} :
    ¬(Data.array items).HoldsLong ↔ ∀ item ∈ items, ¬item.HoldsLong := by
  constructor
  · intro h item hitem hlong
    exact h (.item hitem hlong)
  · intro h hlong
    cases hlong with
    | item hitem hlong => exact h _ hitem hlong

theorem not_holdsLong_object {members : List (Text × Data)} :
    ¬(Data.object members).HoldsLong ↔ ∀ m ∈ members, ¬m.2.HoldsLong := by
  constructor
  · rintro h ⟨key, value⟩ hmember hlong
    exact h (.member hmember hlong)
  · intro h hlong
    cases hlong with
    | member hmember hlong => exact h _ hmember hlong

/-! ## Displaying -/

mutual

theorem exists_inspect_iff : ∀ d : Data, (∃ t, d.inspect = .ok t) ↔ ¬d.HoldsLong
  | .null | .bool true | .bool false | .float _ | .text _ => iff_of_true ⟨_, rfl⟩ nofun
  | .int _ => not_holdsLong_int.symm
  | .array items => by
    rw [not_holdsLong_array, ← exists_inspectItems_iff items]
    exact Outcome.exists_map_eq_ok
  | .object members => by
    rw [not_holdsLong_object, ← exists_inspectMembers_iff members]
    exact Outcome.exists_map_eq_ok

theorem exists_inspectItems_iff : ∀ items : List Data,
    (∃ ts, inspectItems items = .ok ts) ↔ ∀ item ∈ items, ¬item.HoldsLong
  | [] => iff_of_true ⟨_, rfl⟩ nofun
  | item :: items => by
    rw [List.forall_mem_cons, ← exists_inspect_iff item, ← exists_inspectItems_iff items]
    exact Outcome.exists_both_eq_ok

theorem exists_inspectMembers_iff : ∀ members : List (Text × Data),
    (∃ ts, inspectMembers members = .ok ts) ↔ ∀ m ∈ members, ¬m.2.HoldsLong
  | [] => iff_of_true ⟨_, rfl⟩ nofun
  | (_, value) :: members => by
    rw [List.forall_mem_cons, ← exists_inspect_iff value, ← exists_inspectMembers_iff members]
    exact Outcome.exists_both_eq_ok

end

end Data

/-! ## Nesting -/

mutual

/-- How many arrays and objects stand inside each other in a value. -/
def Data.depth : Data → Nat
  | .array items => depthItems items + 1
  | .object members => depthMembers members + 1
  | _ => 0
termination_by structural d => d

/-- How many do in the items of an array. -/
def Data.depthItems : List Data → Nat
  | [] => 0
  | item :: items => max item.depth (depthItems items)
termination_by structural items => items

/-- How many do in the members of an object. -/
def Data.depthMembers : List (Text × Data) → Nat
  | [] => 0
  | (_, value) :: members => max value.depth (depthMembers members)
termination_by structural members => members

end

namespace Data

theorem depthItems_le_iff {items : List Data} {n : Nat} :
    depthItems items ≤ n ↔ ∀ item ∈ items, item.depth ≤ n := by
  induction items with
  | nil => exact iff_of_true (Nat.zero_le _) nofun
  | cons item items ih => rw [depthItems, Nat.max_le, ih, List.forall_mem_cons]

theorem depthMembers_le_iff {members : List (Text × Data)} {n : Nat} :
    depthMembers members ≤ n ↔ ∀ m ∈ members, m.2.depth ≤ n := by
  induction members with
  | nil => exact iff_of_true (Nat.zero_le _) nofun
  | cons m members ih => rw [depthMembers, Nat.max_le, ih, List.forall_mem_cons]

end Data

/-! ## Writing -/

namespace Json

open Data (HoldsLong not_holdsLong_int not_holdsLong_array not_holdsLong_object depthItems_le_iff
  depthMembers_le_iff)
open Outcome

/-- A style lets `n` arrays and objects stand inside each other. -/
def Style.Admits (style : Style) (n : Nat) : Prop := ∀ limit ∈ style.depth, n ≤ limit

variable {style : Style}

theorem Style.admits_zero : style.Admits 0 := fun _ _ => Nat.zero_le _

theorem Style.Admits.of_le {m n : Nat} (h : style.Admits n) (hle : m ≤ n) : style.Admits m :=
  fun limit hlimit => Nat.le_trans hle (h limit hlimit)

theorem Style.admits_of_none (h : style.depth = none) (n : Nat) : style.Admits n := by
  intro limit hlimit
  rw [h] at hlimit
  cases hlimit

theorem Style.admits_limited_iff {n : Nat} : style.limited.Admits n ↔ n ≤ nestingLimit :=
  ⟨fun h => h _ rfl, fun h _ hlimit => Option.some.inj hlimit ▸ h⟩

theorem Style.enter_eq_ok_iff {level : Nat} :
    style.enter level = .ok () ↔ style.Admits (level + 1) := by
  unfold enter Admits
  cases style.depth with
  | none => simp
  | some limit => simp [Nat.succ_le_iff]

/-- What stands `level` deep may hold what is `inner` deep if it may stand there itself, and so may
all that it holds. -/
theorem Style.admits_inside_iff {α : Type} {xs : List α} {depth : α → Nat} {level inner : Nat}
    (hinner : ∀ n, inner ≤ n ↔ ∀ x ∈ xs, depth x ≤ n) :
    style.Admits (level + 1) ∧ (∀ x ∈ xs, style.Admits (level + 1 + depth x)) ↔
      style.Admits (level + (inner + 1)) := by
  constructor
  · rintro ⟨hlevel, hdepth⟩ limit hlimit
    have hlevel := hlevel limit hlimit
    have hle : inner ≤ limit - (level + 1) := (hinner _).mpr fun x hx => by
      have := hdepth x hx limit hlimit
      omega
    omega
  · intro h
    refine ⟨h.of_le (by omega), fun x hx => h.of_le ?_⟩
    have := (hinner inner).mp (Nat.le_refl _) x hx
    omega

/-- What is written inside brackets, if brackets may stand there. -/
theorem exists_bracketed_iff {level : Nat} {parts : Except Fault (List Text)}
    {f : List Text → Text} :
    (∃ t, (do style.enter level; return f (← parts)) = .ok t) ↔
      style.Admits (level + 1) ∧ ∃ ts, parts = .ok ts := by
  rw [← Style.enter_eq_ok_iff]
  cases style.enter level with
  | error fault => simp [bind, Except.bind]
  | ok => exact exists_map_eq_ok.trans (and_iff_right rfl).symm

mutual

/-- **Writing.** A value is written unless an integer in it is too long or it is nested too
deeply. -/
theorem exists_writeAt_iff {level : Nat} (hlevel : style.Admits level) : ∀ d : Data,
    (∃ t, writeAt style level d = .ok t) ↔ ¬d.HoldsLong ∧ style.Admits (level + d.depth)
  | .null | .bool true | .bool false | .float _ | .text _ =>
    iff_of_true ⟨_, rfl⟩ ⟨nofun, hlevel⟩
  | .int _ => not_holdsLong_int.symm.trans (and_iff_left hlevel).symm
  | .array items => by
    refine exists_bracketed_iff.trans ?_
    rw [not_holdsLong_array, Data.depth, ← Style.admits_inside_iff fun _ => depthItems_le_iff]
    constructor
    · rintro ⟨hinside, hitems⟩
      have hitems := (exists_writeItems_iff hinside items).mp hitems
      exact ⟨fun item h => (hitems item h).1, hinside, fun item h => (hitems item h).2⟩
    · rintro ⟨hshort, hinside, hadmits⟩
      exact ⟨hinside, (exists_writeItems_iff hinside items).mpr fun item h =>
        ⟨hshort item h, hadmits item h⟩⟩
  | .object members => by
    refine exists_bracketed_iff.trans ?_
    rw [not_holdsLong_object, Data.depth, ← Style.admits_inside_iff fun _ => depthMembers_le_iff]
    constructor
    · rintro ⟨hinside, hmembers⟩
      have hmembers := (exists_writeMembers_iff hinside members).mp hmembers
      exact ⟨fun m h => (hmembers m h).1, hinside, fun m h => (hmembers m h).2⟩
    · rintro ⟨hshort, hinside, hadmits⟩
      exact ⟨hinside, (exists_writeMembers_iff hinside members).mpr fun m h =>
        ⟨hshort m h, hadmits m h⟩⟩

theorem exists_writeItems_iff {level : Nat} (hlevel : style.Admits level) : ∀ items : List Data,
    (∃ ts, writeItems style level items = .ok ts) ↔
      ∀ item ∈ items, ¬item.HoldsLong ∧ style.Admits (level + item.depth)
  | [] => iff_of_true ⟨_, rfl⟩ nofun
  | item :: items => by
    rw [List.forall_mem_cons, ← exists_writeAt_iff hlevel item,
      ← exists_writeItems_iff hlevel items]
    exact exists_both_eq_ok

theorem exists_writeMembers_iff {level : Nat} (hlevel : style.Admits level) :
    ∀ members : List (Text × Data), (∃ ts, writeMembers style level members = .ok ts) ↔
      ∀ m ∈ members, ¬m.2.HoldsLong ∧ style.Admits (level + m.2.depth)
  | [] => iff_of_true ⟨_, rfl⟩ nofun
  | (_, value) :: members => by
    rw [List.forall_mem_cons, ← exists_writeAt_iff hlevel value,
      ← exists_writeMembers_iff hlevel members]
    exact exists_both_eq_ok

end

theorem Style.fault_of_enter {level : Nat} {fault : Fault} (h : style.enter level = .error fault) :
    fault = .tooDeep := by
  unfold enter at h
  split at h
  case h_1 =>
    split at h
    case isTrue => cases h
    case isFalse =>
      cases h
      rfl
  case h_2 => cases h

mutual

/-- Without integers that are too long, all that fails is nested too deeply. -/
theorem fault_of_writeAt {level : Nat} {fault : Fault} : ∀ {d : Data}, ¬d.HoldsLong →
    writeAt style level d = .error fault → fault = .tooDeep
  | .null, _ | .bool true, _ | .bool false, _ | .float _, _ | .text _, _ => by
    rintro ⟨⟩
  | .int n, hshort => by
    intro h
    obtain ⟨t, ht⟩ := not_holdsLong_int.mp hshort
    rw [writeAt, ht] at h
    cases h
  | .array items, hshort => by
    intro h
    simp only [writeAt, bind_eq_error] at h
    obtain henter | ⟨-, -, hitems | ⟨-, -, ⟨⟩⟩⟩ := h
    · exact Style.fault_of_enter henter
    · exact fault_of_writeItems (not_holdsLong_array.mp hshort) hitems
  | .object members, hshort => by
    intro h
    simp only [writeAt, bind_eq_error] at h
    obtain henter | ⟨-, -, hmembers | ⟨-, -, ⟨⟩⟩⟩ := h
    · exact Style.fault_of_enter henter
    · exact fault_of_writeMembers (not_holdsLong_object.mp hshort) hmembers

theorem fault_of_writeItems {level : Nat} {fault : Fault} : ∀ {items : List Data},
    (∀ item ∈ items, ¬item.HoldsLong) → writeItems style level items = .error fault →
    fault = .tooDeep
  | [], _ => by
    rintro ⟨⟩
  | item :: items, hshort => by
    intro h
    obtain ⟨hfirst, hrest⟩ := List.forall_mem_cons.mp hshort
    simp only [writeItems, bind_eq_error] at h
    obtain hitem | ⟨-, -, hitems | ⟨-, -, ⟨⟩⟩⟩ := h
    · exact fault_of_writeAt hfirst hitem
    · exact fault_of_writeItems hrest hitems

theorem fault_of_writeMembers {level : Nat} {fault : Fault} : ∀ {members : List (Text × Data)},
    (∀ m ∈ members, ¬m.2.HoldsLong) → writeMembers style level members = .error fault →
    fault = .tooDeep
  | [], _ => by
    rintro ⟨⟩
  | (_, value) :: members, hshort => by
    intro h
    obtain ⟨hfirst, hrest⟩ := List.forall_mem_cons.mp hshort
    simp only [writeMembers, bind_eq_error] at h
    obtain hvalue | ⟨-, -, hmembers | ⟨-, -, ⟨⟩⟩⟩ := h
    · exact fault_of_writeAt hfirst hvalue
    · exact fault_of_writeMembers hrest hmembers

end

/-- In a style without a limit, only integers matter. -/
theorem exists_write_iff (hstyle : style.depth = none) {d : Data} :
    (∃ t, write style d = .ok t) ↔ ¬d.HoldsLong :=
  (exists_writeAt_iff style.admits_zero d).trans (and_iff_left (style.admits_of_none hstyle _))

theorem exists_writeLimited_iff {d : Data} :
    (∃ t, write style.limited d = .ok t) ↔ ¬d.HoldsLong ∧ d.depth ≤ nestingLimit := by
  rw [write, exists_writeAt_iff Style.admits_zero, Style.admits_limited_iff, Nat.zero_add]

end Json

/-- Displaying fails on what writing fails on, in any style without a limit. -/
theorem exists_writtenOrDisplayed_iff {style : Json.Style} (hstyle : style.depth = none)
    {raw : Data} :
    (∃ t, (match Json.write style raw with
      | .ok t => .ok t
      | .error _ => raw.display : Except Fault Text) = .ok t) ↔ ¬raw.HoldsLong := by
  have hwrite := Json.exists_write_iff hstyle (d := raw)
  cases h : Json.write style raw with
  | ok t => exact iff_of_true ⟨t, rfl⟩ (hwrite.mp ⟨t, h⟩)
  | error fault =>
    have hunwritten : ¬∃ t, Json.write style raw = .ok t := by simp [h]
    have hlong : raw.HoldsLong := Classical.not_not.mp (mt hwrite.mpr hunwritten)
    refine iff_of_false (fun hshown => ?_) (not_not_intro hlong)
    -- A text is always written, so that displaying shows a value with its structure here.
    cases raw with
    | text t => cases hlong
    | _ => exact (Data.exists_inspect_iff _).mp hshown hlong

/-- **The text of a raw record** is missing exactly if the record holds an integer that is too
long. -/
theorem exists_rawColumn_iff {raw : Data} : (∃ t, rawColumn raw = .ok t) ↔ ¬raw.HoldsLong :=
  exists_writtenOrDisplayed_iff rfl

end TagAudit
