import TagAudit.Proofs.Container.Encoding
import TagAudit.Proofs.Data.Written
import TagAudit.Proofs.Number.Numerals

/-!
# Untrusted references

Rules, predicates, operands and keys refer to records by position, and nothing vouches for what
stands there. An integer and a numeral are positions, and everything else should be none. A text of
digits that is no numeral is neither: it passes the test for digits and then cannot be read.

* `Data.IsMisread`: such a text; `Data.numbered?`: the position that any other value spells.
* `positions_array_eq_ok_iff`: a list of positions; `ofData_eq_ok_iff`: a rule in either encoding.
* `exists_resolve_iff`, `exists_describe_iff`, `exists_entityTriggerName_iff`: conditions and names.
* `references_return_iff`: when all that follows references returns, and what a rule lists then.
-/

namespace TagAudit

/-- A text of digits that is no numeral: one without a place value is among them, or there are too
many. -/
def Data.IsMisread : Data → Prop
  | .text t => t.isDigits = true ∧ ¬IsNumeral t
  | _ => False

/-- The position that a value spells: an integer, or the value of a numeral. -/
def Data.numbered? : Data → Option Int
  | .int n => some n
  | .text t => if IsNumeral t then some (Numeral.toNat 10 (Literal.digitValues t)) else none
  | _ => none

namespace Container

open Data (IsMisread numbered? HoldsLong)
open Outcome (bind_eq_ok ok_bind)

/-! ## Positions -/

theorem position?_eq_ok_iff {d : Data} {found : Option Int} :
    position? d = .ok found ↔ ¬d.IsMisread ∧ found = d.numbered? := by
  cases d with
  | text t =>
    rw [position?, IsMisread, numbered?]
    split
    case isTrue h =>
      rw [Outcome.map_eq_ok]
      simp only [readInteger_digits h]
      grind
    case isFalse h =>
      have hnumeral : ¬IsNumeral t := fun hn => h hn.isDigits
      simp [h, hnumeral, eq_comm]
  | _ =>
    constructor
    · rintro ⟨⟩
      exact ⟨id, rfl⟩
    · rintro ⟨-, rfl⟩
      rfl

/-- **A list of positions.** Integers and numerals contribute, in order, and the list is lost if any
text of digits in it is no numeral. -/
theorem positions_array_eq_ok_iff {values : List Data} {ns : List Int} :
    positions (.array values) = .ok ns ↔
      (∀ value ∈ values, ¬value.IsMisread) ∧ ns = values.filterMap numbered? := by
  induction values generalizing ns with
  | nil => simp [positions, eq_comm]
  | cons value values ih =>
    rw [positions_cons, bind_eq_ok, List.forall_mem_cons, List.filterMap_cons]
    simp only [position?_eq_ok_iff]
    constructor
    · rintro ⟨found, ⟨hvalue, rfl⟩, h⟩
      cases hfound : value.numbered? with
      | none =>
        rw [hfound] at h
        obtain ⟨hvalues, rfl⟩ := ih.mp h
        exact ⟨⟨hvalue, hvalues⟩, rfl⟩
      | some n =>
        rw [hfound] at h
        obtain ⟨_, hrest, ⟨⟩⟩ := bind_eq_ok.mp h
        obtain ⟨hvalues, rfl⟩ := ih.mp hrest
        exact ⟨⟨hvalue, hvalues⟩, rfl⟩
    · rintro ⟨⟨hvalue, hvalues⟩, rfl⟩
      refine ⟨_, ⟨hvalue, rfl⟩, ?_⟩
      have hrest := ih.mpr ⟨hvalues, rfl⟩
      cases value.numbered? with
      | none => exact hrest
      | some n => exact bind_eq_ok.mpr ⟨_, hrest, rfl⟩

/-! ## Rules -/

/-- A single value as a list; null as the empty one. -/
def listed : Data → List Data
  | .array items => items
  | .null => []
  | single => [single]

theorem positions_eq (d : Data) : positions d = positions (.array (listed d)) := by
  cases d <;> rfl

/-- Where an object keeps what a rule lists under a head. Without `if`, it lists predicates under
`add` and tags under `tags`. -/
def memberFor (members : Members Data) (head : Text) : Data :=
  if members.has "if" then Data.getD members head
  else if head = ("if" : Text) then Data.getD members "add"
  else if head = ("add" : Text) then Data.getD members "tags"
  else Data.getD members head

/-- What a rule lists under a head, in either encoding. -/
def listedFor (rule : Data) (head : Text) : List Data :=
  match rule with
  | .array clauses => allUnder clauses head
  | .object members => listed (memberFor members head)
  | _ => []

theorem ofData_eq_ok_iff {rule : Data} {shape : RuleShape} :
    RuleShape.ofData rule = .ok shape ↔ ShapeOf (listedFor rule) shape := by
  cases rule with
  | array clauses => exact ofData_array_eq_ok_iff
  | object members =>
    rw [RuleShape.ofData]
    simp only [positions_eq (Data.getD members _)]
    split <;> rename_i hif <;> simp only [bind_eq_ok]
    · constructor
      · rintro ⟨c, hc, f, hf, _, ⟨⟩, x, hx, b, hb, ⟨⟩⟩
        constructor <;> simpa [listedFor, memberFor, hif]
      · rintro ⟨hc, hf, hx, hb⟩
        simp only [listedFor, memberFor, hif, if_true] at hc hf hx hb
        exact ⟨_, hc, _, hf, _, rfl, _, hx, _, hb, rfl⟩
    · constructor
      · rintro ⟨c, hc, f, hf, _, ⟨⟩, x, hx, b, hb, ⟨⟩⟩
        constructor <;> simpa [listedFor, memberFor, hif]
      · rintro ⟨hc, hf, hx, hb⟩
        simp [listedFor, memberFor, hif] at hc hf hx hb
        exact ⟨_, hc, _, hf, _, rfl, _, hx, _, hb, rfl⟩
  | _ =>
    change (.ok {} : Except Fault RuleShape) = .ok shape ↔ ShapeOf (fun _ => []) shape
    rw [shapeOf_nil_iff, Except.ok.injEq, eq_comm]

/-- The shape whose positions are those that values under each head spell. -/
def RuleShape.numbered (under : Text → List Data) : RuleShape where
  conditions := (under "if").filterMap numbered?
  fires := (under "add").filterMap numbered?
  exceptions := (under "unless").filterMap numbered?
  blocks := (under "block").filterMap numbered?

theorem shapeOf_iff {under : Text → List Data} {shape : RuleShape} :
    ShapeOf under shape ↔
      (∀ head ∈ ruleHeads, ∀ value ∈ under head, ¬value.IsMisread) ∧
        shape = RuleShape.numbered under := by
  simp only [ruleHeads, List.forall_mem_cons, List.not_mem_nil, false_imp_iff, implies_true,
    and_true]
  constructor
  · rintro ⟨hc, hf, hx, hb⟩
    rw [positions_array_eq_ok_iff] at hc hf hx hb
    refine ⟨⟨hc.1, hf.1, hx.1, hb.1⟩, ?_⟩
    cases shape
    simp only at hc hf hx hb
    rw [RuleShape.numbered, hc.2, hf.2, hx.2, hb.2]
  · rintro ⟨⟨hc, hf, hx, hb⟩, rfl⟩
    constructor <;> rw [positions_array_eq_ok_iff]
    · exact ⟨hc, rfl⟩
    · exact ⟨hf, rfl⟩
    · exact ⟨hx, rfl⟩
    · exact ⟨hb, rfl⟩

/-! ## References to variables -/

/-- What a reference to a variable points at. -/
def target? : Data → Option Data
  | .array (head :: target :: _) => if head.isText "macro" then some target else none
  | .object members => Members.get? members "macro"
  | _ => none

/-- The position of the variable that a value refers to. -/
def referred? (d : Data) : Option Int := (target? d).bind numbered?

/-- A reference to a text of digits that is no numeral. -/
def Misrefers (d : Data) : Prop := ∃ target, target? d = some target ∧ target.IsMisread

theorem reference?_eq (d : Data) :
    reference? d = match target? d with
      | some target => position? target
      | none => .ok none := by
  cases d with
  | array items =>
    match items with
    | [] | [_] => rfl
    | head :: target :: rest =>
      rw [reference?, target?]
      split <;> rfl
  | object members =>
    cases hmacro : Members.get? members "macro" <;> simp only [reference?, target?, hmacro]
  | _ => rfl

theorem reference?_eq_ok_iff {d : Data} {found : Option Int} :
    reference? d = .ok found ↔ ¬Misrefers d ∧ found = referred? d := by
  rw [reference?_eq, Misrefers, referred?]
  cases target? d with
  | none => simp [eq_comm]
  | some target => simp [position?_eq_ok_iff]

/-- A step that goes on from a reference ends well if there is nothing to misread and the rest ends
well. -/
theorem exists_reference?_bind_iff {d : Data} {α : Type} {f : Option Int → Except Fault α} :
    (∃ a, (reference? d >>= f) = .ok a) ↔ ¬Misrefers d ∧ ∃ a, f (referred? d) = .ok a := by
  simp only [bind_eq_ok, reference?_eq_ok_iff]
  constructor
  · rintro ⟨a, _, ⟨hd, rfl⟩, ha⟩
    exact ⟨hd, a, ha⟩
  · rintro ⟨hd, a, ha⟩
    exact ⟨a, _, ⟨hd, rfl⟩, ha⟩

theorem testsEvent_eq_ok_iff {c : Condition} {b : Bool} :
    c.testsEvent = .ok b ↔
      ¬Misrefers c.subject ∧ b = decide (referred? c.subject = some eventPosition) := by
  rw [Condition.testsEvent, bind_eq_ok]
  simp only [reference?_eq_ok_iff]
  constructor
  · rintro ⟨_, ⟨hsubject, rfl⟩, ⟨⟩⟩
    exact ⟨hsubject, rfl⟩
  · rintro ⟨hsubject, rfl⟩
    exact ⟨_, ⟨hsubject, rfl⟩, rfl⟩

theorem exists_referenceText_iff {n : Int} :
    (∃ t, referenceText n = .ok t) ↔ ¬(Data.int n).HoldsLong := by
  rw [Data.not_holdsLong_int, referenceText]
  cases writeInteger n <;> simp [bind, Except.bind, pure, Except.pure]

theorem not_holdsLong_eventPosition : ¬(Data.int eventPosition).HoldsLong := by
  rintro ⟨hlong⟩
  exact absurd (tenPow_pos _) (Nat.not_lt.mpr hlong)

theorem exists_describe_iff {c : Condition} :
    (∃ t, c.describe = .ok t) ↔
      ¬Misrefers c.subject ∧ ∀ n, referred? c.subject = some n → ¬(Data.int n).HoldsLong := by
  rw [Condition.describe, exists_reference?_bind_iff]
  refine and_congr_right fun _ => ?_
  cases referred? c.subject with
  | none => exact iff_of_true ⟨_, rfl⟩ nofun
  | some n =>
    simp only [Option.some.injEq, forall_eq']
    by_cases hn : n = eventPosition
    · subst hn
      exact iff_of_true ⟨_, rfl⟩ not_holdsLong_eventPosition
    · rw [← exists_referenceText_iff]
      simp only [hn, if_false]
      cases referenceText n with
      | error fault => exact iff_of_false nofun nofun
      | ok t => exact iff_of_true ⟨_, rfl⟩ ⟨t, rfl⟩

/-! ## Predicates -/

/-- An operand without a text: a reference to what is no position, or to one that is too long to be
written; or no reference, and a value with an integer in it that is too long. -/
def IsUnwritten (operand : Data) : Prop :=
  Misrefers operand ∨
    match referred? operand with
    | some n => (Data.int n).HoldsLong
    | none => operand.HoldsLong

theorem exists_operandText_iff {operand : Data} :
    (∃ t, operandText operand = .ok t) ↔ ¬IsUnwritten operand := by
  have htext (t : Text) : ¬IsUnwritten (.text t) := by
    rintro (⟨_, ⟨⟩, -⟩ | h)
    cases h
  have hnull : ¬IsUnwritten .null := by
    rintro (⟨_, ⟨⟩, -⟩ | h)
    cases h
  unfold operandText
  split
  case h_1 t => exact iff_of_true ⟨_, rfl⟩ (htext t)
  case h_2 => exact iff_of_true ⟨_, rfl⟩ hnull
  case h_3 =>
    rw [exists_reference?_bind_iff, IsUnwritten, not_or]
    refine and_congr_right fun _ => ?_
    cases referred? operand with
    | some n => exact exists_referenceText_iff
    | none => exact Json.exists_write_iff rfl

/-- The operand of a predicate that makes a condition, in either encoding. -/
def operand? : Data → Option Data
  | .object members =>
    match Members.get? members "function" with
    | some (.text _) => some (Data.getD members "arg1")
    | _ => none
  | .array (.text _ :: rest) => some ((rest[1]?).getD .null)
  | _ => none

theorem exists_ofData?_iff {predicate : Data} :
    (∃ c, Condition.ofData? predicate = .ok c) ↔
      ∀ operand, operand? predicate = some operand → ¬IsUnwritten operand := by
  -- A condition comes from its operand's text, and where there is no operand nothing can fail.
  have hoperand {operand : Data} {f : Text → Condition} :
      (∃ c, (do return some (f (← operandText operand)) : Except Fault _) = .ok c) ↔
        ∀ o, some operand = some o → ¬IsUnwritten o := by
    simp only [Option.some.injEq, forall_eq', ← exists_operandText_iff]
    cases operandText operand <;> simp [bind, Except.bind, pure, Except.pure]
  have hnone : (∃ c, (.ok none : Except Fault (Option Condition)) = .ok c) ↔
      ∀ o, (none : Option Data) = some o → ¬IsUnwritten o := by simp
  cases predicate with
  | object members =>
    rw [Condition.ofData?, operand?]
    cases Members.get? members "function" with
    | none => exact hnone
    | some function =>
      cases function with
      | text operator =>
        exact hoperand (f := fun operand => { operator, operand, subject := _, negated := _ })
      | _ => exact hnone
  | array items =>
    cases items with
    | nil => exact hnone
    | cons head rest =>
      cases head with
      | text operator => exact hoperand (f := fun operand => { operator, operand, subject := _ })
      | _ => exact hnone
  | _ => exact hnone

theorem resolve_cons (i : Int) (indices : List Int) (predicates : List Data) :
    resolve (i :: indices) predicates =
      if i < 0 then resolve indices predicates
      else match predicates[i.toNat]? with
        | some predicate => do
          match ← Condition.ofData? predicate with
          | some c => return c :: (← resolve indices predicates)
          | none => resolve indices predicates
        | none => resolve indices predicates := rfl

/-- **Conditions at some positions** are resolved unless the operand of one of them has no text. -/
theorem exists_resolve_iff {indices : List Int} {predicates : List Data} :
    (∃ cs, resolve indices predicates = .ok cs) ↔
      ∀ i ∈ indices, 0 ≤ i → ∀ predicate, predicates[i.toNat]? = some predicate →
        ∀ operand, operand? predicate = some operand → ¬IsUnwritten operand := by
  induction indices with
  | nil => exact iff_of_true ⟨[], rfl⟩ nofun
  | cons i indices ih =>
    rw [List.forall_mem_cons, ← ih, resolve_cons]
    by_cases hi : i < 0
    · rw [if_pos hi]
      exact (and_iff_right fun hpos => absurd hi (Int.not_lt.mpr hpos)).symm
    · rw [if_neg hi]
      cases predicates[i.toNat]? with
      | none => exact (and_iff_right nofun).symm
      | some predicate =>
        simp only [Int.not_lt.mp hi, forall_const, Option.some.injEq, forall_eq',
          ← exists_ofData?_iff]
        cases Condition.ofData? predicate with
        | error fault => simp [bind, Except.bind]
        | ok found =>
          rw [and_iff_right ⟨_, rfl⟩, ok_bind]
          cases found with
          | none => rfl
          | some c => exact Outcome.exists_map_eq_ok

/-! ## Names from numbered entries -/

/-- The entries under a numeral, by its value. -/
def numbered (entities : Members Data) : List Data :=
  ((entities.filterMap fun e => (numbered? (.text e.1)).map (·, e.2)).mergeSort
    fun a b => a.1 ≤ b.1).map (·.2)

theorem mapM_readKey_eq_ok_iff {entities : Members Data} {pairs : List (Int × Data)} :
    (entities.filter fun e => e.1.isDigits).mapM
        (fun (key, entry) => do return ((← readInteger key), entry) :
          Text × Data → Except Fault (Int × Data)) = .ok pairs ↔
      (∀ e ∈ entities, ¬IsMisread (.text e.1)) ∧
        pairs = entities.filterMap fun e => (numbered? (.text e.1)).map (·, e.2) := by
  induction entities generalizing pairs with
  | nil => simp [pure, Except.pure, eq_comm]
  | cons e entities ih =>
    obtain ⟨key, entry⟩ := e
    rw [List.forall_mem_cons, List.filterMap_cons, List.filter_cons, IsMisread, numbered?]
    by_cases hkey : key.isDigits = true
    · simp only [hkey, if_true, true_and, not_not, List.mapM_cons, bind_eq_ok,
        readInteger_digits hkey]
      constructor
      · rintro ⟨_, ⟨_, ⟨hnumeral, rfl⟩, ⟨⟩⟩, rest, hrest, ⟨⟩⟩
        obtain ⟨hentities, rfl⟩ := ih.mp hrest
        rw [if_pos hnumeral]
        exact ⟨⟨hnumeral, hentities⟩, rfl⟩
      · rintro ⟨⟨hnumeral, hentities⟩, rfl⟩
        rw [if_pos hnumeral]
        exact ⟨_, ⟨_, ⟨hnumeral, rfl⟩, rfl⟩, _, ih.mpr ⟨hentities, rfl⟩, rfl⟩
    · have hnumeral : ¬IsNumeral key := fun hn => hkey hn.isDigits
      rw [if_neg hkey, if_neg hnumeral, Option.map_none, and_iff_right fun h => hkey h.1]
      exact ih

theorem numberedEntries_eq_ok_iff {entities : Members Data} {entries : List Data} :
    numberedEntries entities = .ok entries ↔
      (∀ e ∈ entities, ¬IsMisread (.text e.1)) ∧ entries = numbered entities := by
  rw [numberedEntries, bind_eq_ok, numbered]
  simp only [mapM_readKey_eq_ok_iff]
  constructor
  · rintro ⟨_, ⟨hkeys, rfl⟩, ⟨⟩⟩
    exact ⟨hkeys, rfl⟩
  · rintro ⟨hkeys, rfl⟩
    exact ⟨_, ⟨hkeys, rfl⟩, rfl⟩

/-- An entry whose head is too long to be shown. -/
inductive IsUnshown : Data → Prop where
  | mk {head : Data} {rest : List Data} : head.HoldsLong → IsUnshown (.array (head :: rest))

/-- An entry whose head, as it is shown, mentions a trigger. -/
inductive MentionsTrigger : Data → Prop where
  | mk {head : Data} {rest : List Data} {shown : Text} : head.display = .ok shown →
    ("trigger" : Text) <:+: shown.lower → MentionsTrigger (.array (head :: rest))

theorem exists_display_iff {d : Data} : (∃ t, d.display = .ok t) ↔ ¬d.HoldsLong := by
  cases d with
  | text t => exact iff_of_true ⟨_, rfl⟩ (by rintro ⟨⟩)
  | _ => exact Data.exists_inspect_iff _

/-- What can be shown can name something. -/
theorem exists_nameText?_of_not_holdsLong {d : Data} (h : ¬d.HoldsLong) :
    ∃ name, nameText? d = .ok name := by
  cases d with
  | int n => exact Outcome.exists_map_eq_ok.mpr (Data.not_holdsLong_int.mp h)
  | _ => exact ⟨_, rfl⟩

/-- Something with one property stands in front of everything with another one: either at the head,
or further on. -/
theorem forall_split_cons {α : Type} {p q : α → Prop} {x : α} {xs : List α} :
    (∀ before y after, x :: xs = before ++ y :: after → p y → ∃ z ∈ before, q z) ↔
      ¬p x ∧ (q x ∨ ∀ before y after, xs = before ++ y :: after → p y → ∃ z ∈ before, q z) := by
  constructor
  · intro h
    refine ⟨fun hp => by simpa using h [] x xs rfl hp, ?_⟩
    by_cases hq : q x
    · exact .inl hq
    · refine .inr fun before y after hxs hp => ?_
      obtain ⟨z, hz, hqz⟩ := h (x :: before) y after (by rw [hxs]; rfl) hp
      obtain rfl | hz := List.mem_cons.mp hz
      · exact absurd hqz hq
      · exact ⟨z, hz, hqz⟩
  · rintro ⟨hx, h⟩ before y after hxs hp
    cases before with
    | nil =>
      cases hxs
      exact absurd hp hx
    | cons z before =>
      obtain ⟨rfl, hrest⟩ := List.cons.inj hxs
      obtain hq | h := h
      · exact ⟨_, List.mem_cons_self, hq⟩
      · obtain ⟨z, hz, hqz⟩ := h before y after hrest hp
        exact ⟨z, List.mem_cons_of_mem _ hz, hqz⟩

theorem isUnshown_array_cons_iff {head : Data} {rest : List Data} :
    IsUnshown (.array (head :: rest)) ↔ head.HoldsLong :=
  ⟨fun h => by cases h with | mk hlong => exact hlong, .mk⟩

theorem mentionsTrigger_array_cons_iff {head : Data} {rest : List Data} {shown : Text}
    (hdisplay : head.display = .ok shown) :
    MentionsTrigger (.array (head :: rest)) ↔ ("trigger" : Text) <:+: shown.lower := by
  refine ⟨fun h => ?_, .mk hdisplay⟩
  obtain ⟨hshown, hinfix⟩ := h
  rw [hdisplay] at hshown
  cases hshown
  exact hinfix

/-- The search fails at an entry that cannot be shown, ends at a mention of a trigger, and goes on
behind any other entry. -/
theorem exists_go_cons_iff {entry : Data} {entries : List Data} :
    (∃ name, entityTriggerName.go (entry :: entries) = .ok name) ↔
      ¬IsUnshown entry ∧
        (MentionsTrigger entry ∨ ∃ name, entityTriggerName.go entries = .ok name) := by
  have hpassed (hgo : entityTriggerName.go (entry :: entries) = entityTriggerName.go entries)
      (hshown : ¬IsUnshown entry) (hmention : ¬MentionsTrigger entry) :
      (∃ name, entityTriggerName.go (entry :: entries) = .ok name) ↔
        ¬IsUnshown entry ∧
          (MentionsTrigger entry ∨ ∃ name, entityTriggerName.go entries = .ok name) := by
    rw [hgo, and_iff_right hshown, or_iff_right hmention]
  cases entry with
  | array items =>
    cases items with
    | nil => exact hpassed rfl (by rintro ⟨⟩) (by rintro ⟨⟩)
    | cons head rest =>
      rw [isUnshown_array_cons_iff, entityTriggerName.go]
      cases hdisplay : head.display with
      | error fault =>
        have hlong : head.HoldsLong :=
          Classical.not_not.mp (mt exists_display_iff.mpr (by simp [hdisplay]))
        exact iff_of_false (by rintro ⟨_, ⟨⟩⟩) fun h => h.1 hlong
      | ok shown =>
        have hshort : ¬head.HoldsLong := exists_display_iff.mp ⟨shown, hdisplay⟩
        rw [mentionsTrigger_array_cons_iff hdisplay, and_iff_right hshort, ← Text.isInfixOf_iff,
          ok_bind]
        split
        case isTrue h =>
          exact iff_of_true (exists_nameText?_of_not_holdsLong hshort) (.inl h)
        case isFalse h => rw [or_iff_right h]
  | _ => exact hpassed rfl (by rintro ⟨⟩) (by rintro ⟨⟩)

/-- The search goes through the entries up to the first mention of a trigger. -/
theorem exists_go_iff {entries : List Data} :
    (∃ name, entityTriggerName.go entries = .ok name) ↔
      ∀ before entry after, entries = before ++ entry :: after → IsUnshown entry →
        ∃ e ∈ before, MentionsTrigger e := by
  induction entries with
  | nil => exact iff_of_true ⟨_, rfl⟩ fun before _ _ h => by simp at h
  | cons entry entries ih => rw [forall_split_cons, ← ih, exists_go_cons_iff]

theorem exists_entityTriggerName_iff {entities : Members Data} :
    (∃ name, entityTriggerName entities = .ok name) ↔
      (∀ e ∈ entities, ¬IsMisread (.text e.1)) ∧
        ∀ before entry after, numbered entities = before ++ entry :: after → IsUnshown entry →
          ∃ e ∈ before, MentionsTrigger e := by
  rw [entityTriggerName]
  simp only [bind_eq_ok, numberedEntries_eq_ok_iff]
  constructor
  · rintro ⟨name, _, ⟨hkeys, rfl⟩, hname⟩
    exact ⟨hkeys, exists_go_iff.mp ⟨name, hname⟩⟩
  · rintro ⟨hkeys, hentries⟩
    obtain ⟨name, hname⟩ := exists_go_iff.mpr hentries
    exact ⟨name, _, ⟨hkeys, rfl⟩, hname⟩

/-! ## Everything that follows references -/

/-- **Untrusted references.** A rule has the shape of the integers and numerals that it lists,
unless it lists a text of digits that is no numeral. Such a text also stops whatever follows it in a
reference, an operand or a key, and else only integers too long to be written stop anything. -/
theorem references_return_iff (rule subject : Data) (indices : List Int) (predicates : List Data)
    (c : Condition) (entities : Members Data) :
    (∀ shape, RuleShape.ofData rule = .ok shape ↔
      (∀ head ∈ ruleHeads, ∀ value ∈ listedFor rule head, ¬value.IsMisread) ∧
        shape = RuleShape.numbered (listedFor rule)) ∧
    ((∃ cs, resolve indices predicates = .ok cs) ↔
      ∀ i ∈ indices, 0 ≤ i → ∀ predicate, predicates[i.toNat]? = some predicate →
        ∀ operand, operand? predicate = some operand → ¬IsUnwritten operand) ∧
    (∀ b, c.testsEvent = .ok b ↔
      ¬Misrefers c.subject ∧ b = decide (referred? c.subject = some eventPosition)) ∧
    ((∃ t, c.describe = .ok t) ↔
      ¬Misrefers c.subject ∧ ∀ n, referred? c.subject = some n → ¬(Data.int n).HoldsLong) ∧
    (∀ found, reference? subject = .ok found ↔ ¬Misrefers subject ∧ found = referred? subject) ∧
    ((∃ name, entityTriggerName entities = .ok name) ↔
      (∀ e ∈ entities, ¬IsMisread (.text e.1)) ∧
        ∀ before entry after, numbered entities = before ++ entry :: after → IsUnshown entry →
          ∃ e ∈ before, MentionsTrigger e) :=
  ⟨fun _ => ofData_eq_ok_iff.trans shapeOf_iff, exists_resolve_iff,
    fun _ => testsEvent_eq_ok_iff, exists_describe_iff, fun _ => reference?_eq_ok_iff,
    exists_entityTriggerName_iff⟩

/-- One digit without a place value, and the whole rule has no shape. -/
theorem superscript_loses_rule :
    RuleShape.ofData (.array [.array [.text "if", .int 0], .array [.text "add", .int 1]]) =
      .ok { conditions := [0], fires := [1] } ∧
    RuleShape.ofData (.array [.array [.text "if", .int 0, .text "²"],
      .array [.text "add", .int 1]]) = .error (.notNumeral "²") := by
  decide +kernel

end Container

end TagAudit
