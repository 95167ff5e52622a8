import TagAudit.Proofs.Container.Events

/-!
# The predicates behind an event

The conditions of a trigger are made of predicates, and on the way the operand of each becomes a
text: a text stays as it is, and a reference, a number or a list is written out. The name of an
event is such a text, so it need not be literal.

* `Parts`: a predicate taken apart, its operand as it stands.
* `resolve_eq_mapM`: every predicate in range makes a condition of its own.
* `decodeTrigger_eventName`: the predicate that decides the name of the event, and when the name is
  literal.
-/

namespace TagAudit.Container

open Outcome (bind_eq_ok map_eq_ok mapM_eq_ok)

/-! ## Predicates taken apart -/

/-- The parts of a predicate. -/
structure Parts where
  operator : Text
  subject : Data
  operand : Data
  negated : Bool

/-- The parts of a raw predicate, in either encoding; none for an unknown shape. -/
def parts? : Data → Option Parts
  | .object members =>
    match Members.get? members "function" with
    | some (.text operator) => some {
        operator
        subject := Data.getD members "arg0"
        operand := Data.getD members "arg1"
        negated := (Data.getD members "negate").isTruthy }
    | _ => none
  | .array (.text operator :: rest) => some {
      operator
      subject := (rest[0]?).getD .null
      operand := (rest[1]?).getD .null
      negated := false }
  | _ => none

/-- The condition that parts make: their operand becomes a text. -/
def Parts.condition (p : Parts) : Except Fault Condition := do
  return { operator := p.operator, subject := p.subject, operand := ← operandText p.operand,
           negated := p.negated }

/-- The parts of the predicates at some positions; a position without a predicate gives none. -/
def referenced (indices : List Int) (predicates : List Data) : List Parts :=
  indices.filterMap fun i => if i < 0 then none else predicates[i.toNat]?.bind parts?

theorem ofData?_eq (predicate : Data) :
    Condition.ofData? predicate =
      match parts? predicate with
      | some p => p.condition.map some
      | none => .ok none := by
  have hmade (p : Parts) :
      (do return some ⟨p.operator, p.subject, ← operandText p.operand, p.negated⟩ :
        Except Fault (Option Condition)) = p.condition.map some := by
    rw [Parts.condition]
    cases operandText p.operand <;> rfl
  cases predicate with
  | object members =>
    rw [Condition.ofData?, parts?]
    cases Members.get? members "function" with
    | none => rfl
    | some function =>
      cases function with
      | text operator =>
        exact hmade ⟨operator, Data.getD members "arg0", Data.getD members "arg1",
          (Data.getD members "negate").isTruthy⟩
      | _ => rfl
  | array items =>
    cases items with
    | nil => rfl
    | cons head rest =>
      cases head with
      | text operator => exact hmade ⟨operator, _, _, false⟩
      | _ => rfl
  | _ => rfl

theorem referenced_cons (i : Int) (indices : List Int) (predicates : List Data) :
    referenced (i :: indices) predicates =
      (if i < 0 then none else predicates[i.toNat]?.bind parts?).toList ++
        referenced indices predicates := by
  simp only [referenced, List.filterMap_cons]
  cases (if i < 0 then none else predicates[i.toNat]?.bind parts?) <;> rfl

/-- **Conditions** are made of the predicates in range, one after the other. -/
theorem resolve_eq_mapM (indices : List Int) (predicates : List Data) :
    resolve indices predicates = (referenced indices predicates).mapM Parts.condition := by
  induction indices with
  | nil => rfl
  | cons i indices ih =>
    rw [resolve_cons, referenced_cons, ih]
    split
    case isTrue => rfl
    case isFalse =>
      cases predicates[i.toNat]? with
      | none => rfl
      | some predicate =>
        simp only [Option.bind_some, ofData?_eq]
        cases parts? predicate with
        | none => rfl
        | some p =>
          simp only [Option.toList_some, List.singleton_append, List.mapM_cons]
          cases p.condition <;> rfl

/-! ## The name of the event -/

/-- A test for the event: not negated, for equality or a part, of the variable that holds it. -/
structure Parts.IsEventTest (p : Parts) : Prop where
  positive : p.negated = false
  operator : p.operator ∈ equalityOperators ++ containsOperators
  subject : referred? p.subject = some eventPosition

/-- A test for the event whose operand, as a text, can be the name of an event. -/
structure Parts.Offers (p : Parts) (name : Text) : Prop extends p.IsEventTest where
  text : operandText p.operand = .ok name
  nameable : isPlausible name = true

/-- The first predicate that offers a name decides. -/
def Decides (ps : List Parts) (p : Parts) (name : Text) : Prop :=
  ∃ before after, ps = before ++ p :: after ∧ p.Offers name ∧ ∀ q ∈ before, ∀ t, ¬q.Offers t

/-- A name is literal if some test for the event has it as a text for its operand, and the name was
not written out from any other value. -/
structure IsLiteral (ps : List Parts) (name : Text) : Prop where
  spelled : ∃ p ∈ ps, p.IsEventTest ∧ p.operand = .text name
  unwritten : ∀ p, Decides ps p name → ∃ t, p.operand = .text t

theorem offers_iff {p : Parts} {c : Condition} (h : p.condition = .ok c) {name : Text} :
    p.Offers name ↔ c.namesEvent = true ∧ c.operand = name := by
  obtain ⟨t, ht, ⟨⟩⟩ := bind_eq_ok.mp h
  rw [Condition.namesEvent_iff]
  constructor
  · rintro ⟨⟨hpositive, hoperator, hsubject⟩, htext, hplausible⟩
    obtain rfl : t = name := by rw [ht] at htext; exact Except.ok.inj htext
    exact ⟨⟨hpositive, hsubject, hoperator, hplausible⟩, rfl⟩
  · rintro ⟨⟨hpositive, hsubject, hoperator, hplausible⟩, rfl⟩
    exact ⟨⟨hpositive, hoperator, hsubject⟩, ht, hplausible⟩

/-- A name comes from the predicate that decides. -/
theorem exists_decides {ps : List Parts} {cs : List Condition} {name : Text}
    (hcs : ps.mapM Parts.condition = .ok cs) (h : eventName cs = .ok name) (hname : name ≠ []) :
    ∃ p, Decides ps p name := by
  have hfirst := eventName_eq h
  cases hfind : cs.find? (·.namesEvent) with
  | none =>
    rw [hfind] at hfirst
    exact absurd hfirst hname
  | some c =>
    rw [hfind] at hfirst
    obtain ⟨hc, before, after, rfl, hbefore⟩ := List.find?_eq_some_iff_append.mp hfind
    rw [mapM_eq_ok, List.map_append, List.map_cons] at hcs
    obtain ⟨front, back, rfl, hfront, hback⟩ := List.map_eq_append_iff.mp hcs
    obtain ⟨p, rest, rfl, hp, -⟩ := List.map_eq_cons_iff.mp hback
    refine ⟨p, front, rest, rfl, (offers_iff hp).mpr ⟨hc, hfirst.symm⟩, fun q hq t hoffer => ?_⟩
    have hmade : q.condition ∈ before.map Except.ok := hfront ▸ List.mem_map_of_mem hq
    obtain ⟨d, hd, hqd⟩ := List.mem_map.mp hmade
    have hnames := ((offers_iff hqd.symm).mp hoffer).1
    have hpassed := hbefore d hd
    rw [hnames] at hpassed
    cases hpassed

/-- No two predicates decide. -/
theorem Decides.unique {ps : List Parts} {p q : Parts} {name other : Text}
    (hp : Decides ps p name) (hq : Decides ps q other) : p = q := by
  obtain ⟨front, back, rfl, hoffer, hfront⟩ := hp
  obtain ⟨front', back', heq, hoffer', hfront'⟩ := hq
  obtain ⟨more, rfl, h⟩ | ⟨more, rfl, h⟩ := List.append_eq_append_iff.mp heq
  · cases more with
    | nil => exact (List.cons.inj h).1
    | cons r more =>
      obtain ⟨rfl, -⟩ := List.cons.inj h
      exact absurd hoffer (hfront' _ (by simp) _)
  · cases more with
    | nil => exact (List.cons.inj h).1.symm
    | cons r more =>
      obtain ⟨rfl, -⟩ := List.cons.inj h
      exact absurd hoffer' (hfront _ (by simp) _)

theorem decodeTrigger_conditions {rule : Data} {position : Nat} {shape : RuleShape}
    {predicates : List Data} {entities : Members Data} {tagIds : List Text} {trigger : Trigger}
    (h : decodeTrigger rule position shape predicates entities tagIds = .ok trigger) :
    ∃ cs, resolve shape.conditions predicates = .ok cs ∧ eventName cs = .ok trigger.eventName ∧
      triggerType cs trigger.eventName = .ok trigger.type := by
  obtain ⟨cs, hcs, h⟩ := bind_eq_ok.mp h
  obtain ⟨_, -, h⟩ := bind_eq_ok.mp h
  obtain ⟨event, hevent, h⟩ := bind_eq_ok.mp h
  obtain ⟨_, -, h⟩ := bind_eq_ok.mp h
  obtain ⟨_, -, h⟩ := bind_eq_ok.mp h
  obtain ⟨_, -, h⟩ := bind_eq_ok.mp h
  obtain ⟨type, htype, h⟩ := bind_eq_ok.mp h
  cases h
  exact ⟨cs, hcs, hevent, htype⟩

/-- **The name of an event** is the operand, as a text, of the first predicate in range that offers
one. It is literal exactly when this operand is a text. -/
theorem decodeTrigger_eventName {rule : Data} {position : Nat} {shape : RuleShape}
    {predicates : List Data} {entities : Members Data} {tagIds : List Text} {trigger : Trigger}
    (h : decodeTrigger rule position shape predicates entities tagIds = .ok trigger)
    (hname : trigger.eventName ≠ []) :
    ∃ p, Decides (referenced shape.conditions predicates) p trigger.eventName ∧
      (IsLiteral (referenced shape.conditions predicates) trigger.eventName ↔
        p.operand = .text trigger.eventName) := by
  obtain ⟨cs, hcs, hevent, -⟩ := decodeTrigger_conditions h
  rw [resolve_eq_mapM] at hcs
  obtain ⟨p, hp⟩ := exists_decides hcs hevent hname
  have ⟨before, after, hps, hoffer, _⟩ := hp
  refine ⟨p, hp, fun hliteral => ?_, fun hoperand => ?_⟩
  · obtain ⟨t, ht⟩ := hliteral.unwritten p hp
    have htext := hoffer.text
    rw [ht] at htext
    rw [ht, Except.ok.inj htext]
  · constructor
    · exact ⟨p, by simp [hps], hoffer.toIsEventTest, hoperand⟩
    · intro q hq
      exact ⟨_, hq.unique hp ▸ hoperand⟩

/-- Predicates in both encodings: an address, a test for the event `sign_up`, and one for the
number 7. -/
def signUpPredicates : List Data := [
  .array [.text "_cn", .array [.text "macro", .int 0], .text "/checkout"],
  .object [("function", .text "_eq"), ("arg0", .array [.text "macro", .int 0]),
    ("arg1", .text "sign_up")],
  .array [.text "_eq", .object [("macro", .text "0")], .int 7]]

/-- Positions of all of them, and two out of range. -/
def signUpShape : RuleShape := { conditions := [-1, 0, 1, 2, 3] }

theorem signUp_literal : ∃ trigger,
    decodeTrigger .null 0 signUpShape signUpPredicates [] [] = .ok trigger ∧
      trigger.eventName = "sign_up" ∧
      IsLiteral (referenced signUpShape.conditions signUpPredicates) trigger.eventName := by
  have hnamed : (decodeTrigger .null 0 signUpShape signUpPredicates [] []).map (·.eventName) =
      .ok "sign_up" := by decide +kernel
  obtain ⟨trigger, htrigger, hname⟩ := map_eq_ok.mp hnamed
  have hne : trigger.eventName ≠ [] := by rw [hname]; decide
  obtain ⟨p, ⟨before, after, hps, hoffer, -⟩, hiff⟩ := decodeTrigger_eventName htrigger hne
  refine ⟨trigger, htrigger, hname, hiff.mpr ?_⟩
  have hoperands : (referenced signUpShape.conditions signUpPredicates).map (·.operand) =
      [.text "/checkout", .text "sign_up", .int 7] := rfl
  have hmem : p.operand ∈ [.text "/checkout", .text "sign_up", .int 7] :=
    hoperands ▸ List.mem_map_of_mem (by simp [hps])
  have htext := hoffer.text
  rw [hname] at htext ⊢
  simp only [List.mem_cons, List.not_mem_nil, or_false] at hmem
  obtain h | h | h := hmem <;> rw [h] at htext
  · exact absurd htext (by decide +kernel)
  · exact h
  · exact absurd htext (by decide +kernel)

/-- A test of the event against a variable. -/
def variablePredicate : Data :=
  .object [("function", .text "_eq"), ("arg0", .array [.text "macro", .int 0]),
    ("arg1", .array [.text "macro", .int 3])]

/-- A reference to a variable, written out, becomes the name of an event. -/
theorem variablePredicate_written : ∃ trigger,
    decodeTrigger .null 0 { conditions := [0] } [variablePredicate] [] [] = .ok trigger ∧
      trigger.eventName = "\x7b\x7bmacro 3\x7d\x7d" ∧
      ¬IsLiteral (referenced [0] [variablePredicate]) trigger.eventName := by
  have hnamed : (decodeTrigger .null 0 { conditions := [0] } [variablePredicate] [] []).map
      (·.eventName) = .ok "\x7b\x7bmacro 3\x7d\x7d" := by decide +kernel
  obtain ⟨trigger, htrigger, hname⟩ := map_eq_ok.mp hnamed
  refine ⟨trigger, htrigger, hname, ?_⟩
  rintro ⟨⟨p, hp, -, hoperand⟩, -⟩
  have hoperands : (referenced [0] [variablePredicate]).map (·.operand) =
      [.array [.text "macro", .int 3]] := rfl
  have hmem : p.operand ∈ [.array [.text "macro", .int 3]] := hoperands ▸ List.mem_map_of_mem hp
  rw [hoperand] at hmem
  simp at hmem

end TagAudit.Container
