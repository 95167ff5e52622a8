import Mathlib.Data.List.Forall2
import TagAudit.Proofs.Container.Decoding
import TagAudit.Proofs.Data.Members

/-!
# Encodings of rules and predicates

A rule comes as a list of clauses or as an object of lists, and a predicate as an object or as a
list of its parts. The records that decoding makes do not show which: clauses may come in any order
and a head may be split over several of them.

* `SameRule`, `SamePredicate`: two encodings of one rule and of one predicate.
* `ShapeOf`: what the positions under four heads make, told without an encoding. A rule has the
  shape of what its clauses list (`ofData_array_eq_ok_iff`), or of its lists
  (`ofData_object_eq_ok_iff`).
* `resolve_congr`, `decodeTrigger_congr`: what a trigger takes from predicates and rules.
* `ofDocument_reencoded`: whole documents.
-/

namespace TagAudit.Container

open Outcome (bind_eq_ok ok_bind)

/-! ## Two encodings -/

/-- What two functions make of related values is equal, item by item. -/
theorem map_eq_map {α β γ : Type} {R : α → β → Prop} {f : α → γ} {g : β → γ} {xs : List α}
    {ys : List β} (h : List.Forall₂ R xs ys) (hR : ∀ x y, R x y → f x = g y) :
    xs.map f = ys.map g := by
  rw [← List.forall₂_eq_eq_eq, List.forall₂_map_left_iff, List.forall₂_map_right_iff]
  exact h.imp hR

/-- The heads under which a rule lists positions. -/
def ruleHeads : List Text := ["if", "add", "unless", "block"]

/-- What a clause lists under a head; nothing if it is no clause with that head. -/
def listedUnder (head : Text) : Data → List Data
  | .array (.text h :: listed) => if h = head then listed else []
  | _ => []

/-- What clauses list under a head, one clause after the other. -/
def allUnder (clauses : List Data) (head : Text) : List Data := clauses.flatMap (listedUnder head)

/-- A rule as a list of clauses, and as the object with the four lists that the clauses make. -/
inductive SameRule : Data → Data → Prop where
  | mk {clauses : List Data} {members : Members Data} :
    members.Perm (ruleHeads.map fun head => (head, .array (allUnder clauses head))) →
    SameRule (.array clauses) (.object members)

/-- A predicate as an object that is not negated, and as the list of its three parts. -/
inductive SamePredicate : Data → Data → Prop where
  | mk {members : Members Data} {operator : Text} :
    members.get? "function" = some (.text operator) →
    (Data.getD members "negate").isTruthy = false →
    SamePredicate (.object members)
      (.array [.text operator, Data.getD members "arg0", Data.getD members "arg1"])

/-- Two documents that differ in the encodings of their rules and predicates only. -/
structure Reencoded (doc other : Document) : Prop where
  tags : doc.tags = other.tags
  macros : doc.macros = other.macros
  entities : doc.entities = other.entities
  rules : List.Forall₂ SameRule doc.rules other.rules
  predicates : List.Forall₂ SamePredicate doc.predicates other.predicates

/-! ## Positions in lists -/

theorem positions_cons (value : Data) (values : List Data) :
    positions (.array (value :: values)) = (do
      match ← position? value with
      | some n => return n :: (← positions (.array values))
      | none => positions (.array values)) := rfl

/-- Positions in one list after the other. -/
theorem positions_append_eq_ok {xs ys : List Data} {ns : List Int} :
    positions (.array (xs ++ ys)) = .ok ns ↔
      ∃ ms ks, positions (.array xs) = .ok ms ∧ positions (.array ys) = .ok ks ∧ ns = ms ++ ks := by
  induction xs generalizing ns with
  | nil =>
    constructor
    · intro h
      exact ⟨[], ns, rfl, h, rfl⟩
    · rintro ⟨ms, ks, hms, hks, rfl⟩
      cases hms
      exact hks
  | cons value xs ih =>
    rw [List.cons_append, positions_cons, positions_cons]
    cases position? value with
    | error fault => simp [bind, Except.bind]
    | ok found =>
      simp only [ok_bind]
      cases found with
      | none => exact ih
      | some n =>
        simp only [bind_eq_ok, ih]
        constructor
        · rintro ⟨_, ⟨ms, ks, hms, hks, rfl⟩, h⟩
          cases h
          exact ⟨n :: ms, ks, ⟨ms, hms, rfl⟩, hks, rfl⟩
        · rintro ⟨_, ks, ⟨ms, hms, h⟩, hks, rfl⟩
          cases h
          exact ⟨ms ++ ks, ⟨ms, ks, hms, hks, rfl⟩, rfl⟩

/-! ## Shapes of rules -/

/-- The shape whose positions are spelled by what stands under each head. -/
structure ShapeOf (under : Text → List Data) (shape : RuleShape) : Prop where
  conditions : positions (.array (under "if")) = .ok shape.conditions
  fires : positions (.array (under "add")) = .ok shape.fires
  exceptions : positions (.array (under "unless")) = .ok shape.exceptions
  blocks : positions (.array (under "block")) = .ok shape.blocks

/-- One shape after another. -/
def RuleShape.append (shape more : RuleShape) : RuleShape where
  conditions := shape.conditions ++ more.conditions
  exceptions := shape.exceptions ++ more.exceptions
  fires := shape.fires ++ more.fires
  blocks := shape.blocks ++ more.blocks

theorem RuleShape.append_assoc (a b c : RuleShape) :
    (a.append b).append c = a.append (b.append c) := by
  simp [RuleShape.append]

/-- What lists nothing makes the empty shape. -/
theorem shapeOf_nil_iff {shape : RuleShape} : ShapeOf (fun _ => []) shape ↔ shape = {} := by
  constructor
  · rintro ⟨hc, hf, hx, hb⟩
    cases shape
    cases hc; cases hf; cases hx; cases hb
    rfl
  · rintro rfl
    exact ⟨rfl, rfl, rfl, rfl⟩

/-- What is listed in one place after another makes one shape after another. -/
theorem shapeOf_append_iff {first second : Text → List Data} {shape : RuleShape} :
    ShapeOf (fun head => first head ++ second head) shape ↔
      ∃ a b, ShapeOf first a ∧ ShapeOf second b ∧ shape = a.append b := by
  constructor
  · rintro ⟨hc, hf, hx, hb⟩
    obtain ⟨c, c', hc, hc', ec⟩ := positions_append_eq_ok.mp hc
    obtain ⟨f, f', hf, hf', ef⟩ := positions_append_eq_ok.mp hf
    obtain ⟨x, x', hx, hx', ex⟩ := positions_append_eq_ok.mp hx
    obtain ⟨b, b', hb, hb', eb⟩ := positions_append_eq_ok.mp hb
    refine ⟨⟨c, x, f, b⟩, ⟨c', x', f', b'⟩, ⟨hc, hf, hx, hb⟩, ⟨hc', hf', hx', hb'⟩, ?_⟩
    cases shape
    simp only at ec ef ex eb
    rw [ec, ef, ex, eb]
    rfl
  · rintro ⟨a, b, ha, hb, rfl⟩
    exact ⟨positions_append_eq_ok.mpr ⟨_, _, ha.conditions, hb.conditions, rfl⟩,
      positions_append_eq_ok.mpr ⟨_, _, ha.fires, hb.fires, rfl⟩,
      positions_append_eq_ok.mpr ⟨_, _, ha.exceptions, hb.exceptions, rfl⟩,
      positions_append_eq_ok.mpr ⟨_, _, ha.blocks, hb.blocks, rfl⟩⟩

/-- A clause without a known head has the empty shape. -/
theorem shapeOf_unlisted_iff {clause : Data} (h : ∀ head ∈ ruleHeads, listedUnder head clause = [])
    {added : RuleShape} :
    ShapeOf (fun head => listedUnder head clause) added ↔ added = {} := by
  have hif := h "if" (by decide)
  have hadd := h "add" (by decide)
  have hunless := h "unless" (by decide)
  have hblock := h "block" (by decide)
  constructor
  · rintro ⟨hc, hf, hx, hb⟩
    simp only [hif, hadd, hunless, hblock] at hc hf hx hb
    exact shapeOf_nil_iff.mp ⟨hc, hf, hx, hb⟩
  · rintro rfl
    constructor <;> simp only [hif, hadd, hunless, hblock] <;> rfl

theorem RuleShape.append_empty (shape : RuleShape) : shape.append {} = shape := by
  simp [RuleShape.append]

/-- A clause without a known head adds nothing. -/
theorem ok_eq_ok_iff_shapeOf {shape out : RuleShape} {clause : Data}
    (h : ∀ head ∈ ruleHeads, listedUnder head clause = []) :
    (.ok shape : Except Fault RuleShape) = .ok out ↔
      ∃ added, ShapeOf (fun head => listedUnder head clause) added ∧ out = shape.append added := by
  simp only [shapeOf_unlisted_iff h, exists_eq_left, RuleShape.append_empty, Except.ok.injEq]
  exact eq_comm

theorem listedUnder_eq_nil {head : Text} {clause : Data}
    (h : ∀ listed, clause ≠ .array (.text head :: listed)) : listedUnder head clause = [] := by
  unfold listedUnder
  split
  case h_1 other listed =>
    rw [if_neg]
    rintro rfl
    exact h listed rfl
  case h_2 => rfl

/-- **One clause** adds the shape of what it lists. -/
theorem extend_eq_ok_iff {shape out : RuleShape} {clause : Data} :
    shape.extend clause = .ok out ↔
      ∃ added, ShapeOf (fun head => listedUnder head clause) added ∧ out = shape.append added := by
  unfold RuleShape.extend
  split
  case h_2 hne =>
    exact ok_eq_ok_iff_shapeOf fun head _ => listedUnder_eq_nil fun listed => hne head listed
  case h_1 head listed =>
    split_ifs with hif hunless hadd hblock
    case neg =>
      refine ok_eq_ok_iff_shapeOf fun other hother => listedUnder_eq_nil fun more heq => ?_
      obtain rfl : head = other := by cases heq; rfl
      simp [ruleHeads, hif, hadd, hunless, hblock] at hother
    all_goals subst head; rw [bind_eq_ok]; constructor
    -- What the clause lists goes to one field, and the other three get nothing.
    · rintro ⟨ns, hns, ⟨⟩⟩
      exact ⟨{ conditions := ns }, ⟨hns, rfl, rfl, rfl⟩, by simp [RuleShape.append]⟩
    · rintro ⟨⟨c, x, f, b⟩, ⟨hc, ⟨⟩, ⟨⟩, ⟨⟩⟩, rfl⟩
      exact ⟨c, hc, by simp [RuleShape.append]; rfl⟩
    · rintro ⟨ns, hns, ⟨⟩⟩
      exact ⟨{ exceptions := ns }, ⟨rfl, rfl, hns, rfl⟩, by simp [RuleShape.append]⟩
    · rintro ⟨⟨c, x, f, b⟩, ⟨⟨⟩, ⟨⟩, hx, ⟨⟩⟩, rfl⟩
      exact ⟨x, hx, by simp [RuleShape.append]; rfl⟩
    · rintro ⟨ns, hns, ⟨⟩⟩
      exact ⟨{ fires := ns }, ⟨rfl, hns, rfl, rfl⟩, by simp [RuleShape.append]⟩
    · rintro ⟨⟨c, x, f, b⟩, ⟨⟨⟩, hf, ⟨⟩, ⟨⟩⟩, rfl⟩
      exact ⟨f, hf, by simp [RuleShape.append]; rfl⟩
    · rintro ⟨ns, hns, ⟨⟩⟩
      exact ⟨{ blocks := ns }, ⟨rfl, rfl, rfl, hns⟩, by simp [RuleShape.append]⟩
    · rintro ⟨⟨c, x, f, b⟩, ⟨⟨⟩, ⟨⟩, ⟨⟩, hb⟩, rfl⟩
      exact ⟨b, hb, by simp [RuleShape.append]; rfl⟩

/-- **A run over clauses** adds the shape of what all of them list. -/
theorem foldlM_extend_eq_ok_iff {clauses : List Data} {shape out : RuleShape} :
    clauses.foldlM RuleShape.extend shape = .ok out ↔
      ∃ added, ShapeOf (allUnder clauses) added ∧ out = shape.append added := by
  induction clauses generalizing shape with
  | nil =>
    constructor
    · rintro ⟨⟩
      exact ⟨{}, shapeOf_nil_iff.mpr rfl, (RuleShape.append_empty _).symm⟩
    · rintro ⟨added, hadded, rfl⟩
      rw [shapeOf_nil_iff.mp hadded, RuleShape.append_empty]
      rfl
  | cons clause clauses ih =>
    have hunder : allUnder (clause :: clauses) =
        fun head => listedUnder head clause ++ allUnder clauses head := rfl
    rw [List.foldlM_cons, bind_eq_ok, hunder]
    simp only [extend_eq_ok_iff, ih, shapeOf_append_iff]
    constructor
    · rintro ⟨_, ⟨first, hfirst, rfl⟩, more, hmore, rfl⟩
      exact ⟨_, ⟨first, more, hfirst, hmore, rfl⟩, RuleShape.append_assoc _ _ _⟩
    · rintro ⟨_, ⟨first, more, hfirst, hmore, rfl⟩, rfl⟩
      exact ⟨_, ⟨first, hfirst, rfl⟩, more, hmore, (RuleShape.append_assoc _ _ _).symm⟩

/-- A rule of clauses has the shape of what they list. -/
theorem ofData_array_eq_ok_iff {clauses : List Data} {shape : RuleShape} :
    RuleShape.ofData (.array clauses) = .ok shape ↔ ShapeOf (allUnder clauses) shape := by
  have hempty (added : RuleShape) : RuleShape.append {} added = added := by
    simp [RuleShape.append]
  rw [RuleShape.ofData, foldlM_extend_eq_ok_iff]
  simp only [hempty, exists_eq_right']

/-- A rule of four lists has their shape. -/
theorem ofData_object_eq_ok_iff {members : Members Data} {under : Text → List Data}
    (h : ∀ head ∈ ruleHeads, members.get? head = some (.array (under head))) {shape : RuleShape} :
    RuleShape.ofData (.object members) = .ok shape ↔ ShapeOf under shape := by
  have hlist {head : Text} (hhead : head ∈ ruleHeads) :
      Data.getD members head = .array (under head) := by
    rw [Data.getD, h head hhead]
    rfl
  have hif : Members.has members "if" = true := by
    rw [Members.has_eq_isSome, h "if" (by decide)]
    rfl
  rw [RuleShape.ofData]
  simp only [hif, if_true, hlist (by decide : ("if" : Text) ∈ ruleHeads),
    hlist (by decide : ("add" : Text) ∈ ruleHeads),
    hlist (by decide : ("unless" : Text) ∈ ruleHeads),
    hlist (by decide : ("block" : Text) ∈ ruleHeads), bind_eq_ok]
  constructor
  · rintro ⟨c, hc, f, hf, _, ⟨⟩, x, hx, b, hb, ⟨⟩⟩
    exact ⟨hc, hf, hx, hb⟩
  · rintro ⟨hc, hf, hx, hb⟩
    exact ⟨_, hc, _, hf, _, rfl, _, hx, _, hb, rfl⟩

/-! ## Rules -/

namespace SameRule

variable {rule other : Data}

theorem get?_members {clauses : List Data} {members : Members Data}
    (h : members.Perm (ruleHeads.map fun head => (head, .array (allUnder clauses head))))
    (key : Text) : members.get? key =
      if key ∈ ruleHeads then some (.array (allUnder clauses key)) else none := by
  have hkeys : members.keys.Perm ruleHeads := by
    have hfst : Prod.fst ∘ (fun head : Text => (head, Data.array (allUnder clauses head))) = id :=
      rfl
    have hmap := h.map Prod.fst
    rwa [List.map_map, hfst, List.map_id] at hmap
  have hnodup : members.keys.Nodup := hkeys.nodup_iff.mpr (by decide)
  split
  case isTrue hkey =>
    rw [Members.get?_eq_some_iff hnodup, h.mem_iff]
    exact List.mem_map.mpr ⟨key, hkey, rfl⟩
  case isFalse hkey => exact Members.get?_eq_none fun hmem => hkey (hkeys.mem_iff.mp hmem)

/-- Both encodings have the same shape, or none. -/
theorem ofData_eq_ok_iff (h : SameRule rule other) {shape : RuleShape} :
    RuleShape.ofData rule = .ok shape ↔ RuleShape.ofData other = .ok shape := by
  obtain ⟨hmembers⟩ := h
  rw [ofData_array_eq_ok_iff, ofData_object_eq_ok_iff]
  intro head hhead
  rw [get?_members hmembers, if_pos hhead]

theorem shapeOf_eq (h : SameRule rule other) : shapeOf rule = shapeOf other := by
  unfold shapeOf
  cases hrule : RuleShape.ofData rule with
  | ok shape => rw [h.ofData_eq_ok_iff.mp hrule]
  | error fault =>
    cases hother : RuleShape.ofData other with
    | ok shape => rw [h.ofData_eq_ok_iff.mpr hother] at hrule; cases hrule
    | error _ => rfl

/-- Neither encoding carries a name. -/
theorem triggerName_eq (h : SameRule rule other) (entities : Members Data) (operands : List Text)
    (default : Text) :
    triggerName rule entities operands default = triggerName other entities operands default := by
  obtain @⟨clauses, members, hmembers⟩ := h
  have hname : explicitName (.object members) = .ok none := by
    rw [explicitName, Data.getD, get?_members hmembers, if_neg (by decide)]
    rfl
  have hmetadata : metadataName (.object members) = .ok none := by
    have hget : Data.get? (.object members) "metadata" = none := by
      rw [Data.get?, Data.members?, Option.bind_some, get?_members hmembers, if_neg (by decide)]
    rw [metadataName, hget]
  unfold triggerName
  rw [hname, hmetadata]
  rfl

end SameRule

/-! ## Predicates -/

/-- Both encodings have the same condition, or the same fault. -/
theorem SamePredicate.ofData?_eq {predicate other : Data} (h : SamePredicate predicate other) :
    Condition.ofData? predicate = Condition.ofData? other := by
  obtain ⟨hfunction, hnegate⟩ := h
  rw [Condition.ofData?, hfunction]
  simp only [hnegate]
  rfl

/-- What positions resolve to depends on the conditions of the predicates only. -/
theorem resolve_congr {predicates others : List Data}
    (h : List.Forall₂ SamePredicate predicates others) (indices : List Int) :
    resolve indices predicates = resolve indices others := by
  have hmap := map_eq_map h fun _ _ hp => hp.ofData?_eq
  unfold resolve
  congr 1
  funext i found
  split
  · rfl
  · have hi := congrArg (·[i.toNat]?) hmap
    simp only [List.getElem?_map] at hi
    cases hp : predicates[i.toNat]? with
    | none =>
      rw [hp, Option.map_none, eq_comm, Option.map_eq_none_iff] at hi
      rw [hi]
    | some predicate =>
      rw [hp, Option.map_some, eq_comm, Option.map_eq_some_iff] at hi
      obtain ⟨other, hother, he⟩ := hi
      simp only [hother, he]

/-! ## Triggers -/

/-- **One trigger.** Another encoding of its rule and of the predicates gives the same record but
for the rule that it shows, or the same fault. -/
theorem decodeTrigger_congr {rule other : Data} (hrule : SameRule rule other)
    {predicates others : List Data} (hpredicates : List.Forall₂ SamePredicate predicates others)
    (position : Nat) (shape : RuleShape) (entities : Members Data) (tagIds : List Text) :
    decodeTrigger other position shape others entities tagIds =
      (fun t : Trigger => { t with raw := other }) <$>
        decodeTrigger rule position shape predicates entities tagIds := by
  unfold decodeTrigger
  simp only [resolve_congr hpredicates, hrule.triggerName_eq, map_bind, map_pure]

/-! ## Documents -/

/-- Triggers that differ in the rule that they show only. -/
def SameTrigger (t other : Trigger) : Prop := { t with raw := other.raw } = other

/-- The operation that failed and what it was about. -/
def failedAt (issue : Issue) : Text × Members Data := (issue.operation, issue.context)

/-- Models that differ in the rules that triggers show and in the wording of issues only. -/
structure SameRecords (m other : Model) : Prop where
  tags : m.tags = other.tags
  vars : m.vars = other.vars
  triggers : List.Forall₂ SameTrigger m.triggers other.triggers
  issues : m.issues.map failedAt = other.issues.map failedAt

/-- Steps that fail on the same records leave issues at the same places. -/
theorem map_failedAt_issuesOf {α β γ δ : Type} {R : α → β → Prop} {raws : List α} {others : List β}
    (h : List.Forall₂ R raws others) {outcome : Nat → α → Except Fault γ}
    {outcome' : Nat → β → Except Fault δ}
    (hiff : ∀ i raw other, R raw other →
      ((∃ a, outcome i raw = .ok a) ↔ ∃ b, outcome' i other = .ok b))
    (component operation : Text) :
    (issuesOf component operation outcome raws).map failedAt =
      (issuesOf component operation outcome' others).map failedAt := by
  have hplace : ∀ i raw other, R raw other →
      (issueOf? component operation i (outcome i raw)).map failedAt =
        (issueOf? component operation i (outcome' i other)).map failedAt := by
    intro i raw other hR
    have := hiff i raw other hR
    cases ho : outcome i raw <;> cases ho' : outcome' i other <;> simp_all [issueOf?]
    rfl
  unfold issuesOf
  rw [List.map_filterMap, List.map_filterMap]
  generalize 0 = k
  induction h generalizing k with
  | nil => rfl
  | cons hR _ ih =>
    rw [List.zipIdx_cons, List.zipIdx_cons, List.filterMap_cons, List.filterMap_cons,
      hplace k _ _ hR, ih]

variable {doc other : Document}

theorem Reencoded.linksOf_eq (h : Reencoded doc other) : linksOf doc = linksOf other := by
  unfold linksOf
  rw [map_eq_map h.rules fun _ _ hr => hr.shapeOf_eq]

theorem Reencoded.triggerOutcome_eq (h : Reencoded doc other) (ids : List Text) (i : Nat)
    {rule rule' : Data} (hrule : SameRule rule rule') :
    triggerOutcome other ids i rule' =
      (fun t : Trigger => { t with raw := rule' }) <$> triggerOutcome doc ids i rule := by
  unfold triggerOutcome
  rw [← hrule.shapeOf_eq, ← h.entities]
  exact decodeTrigger_congr hrule h.predicates ..

/-- The records of two encodings, given the identifiers of the tags. -/
theorem modelWith_reencoded (h : Reencoded doc other) (component : Text) (ids : List Text) :
    SameRecords (modelWith doc component ids) (modelWith other component ids) := by
  have htag : tagOutcome doc = tagOutcome other := by
    unfold tagOutcome
    rw [h.linksOf_eq, h.entities]
  refine ⟨?_, ?_, ?_, ?_⟩
  · have hwith : tagWith doc ids = tagWith other ids := by
      unfold tagWith
      rw [htag, h.linksOf_eq]
    simp only [modelWith, hwith, h.tags]
  · simp only [modelWith, h.macros]
  · obtain ⟨hlength, hrules⟩ := List.forall₂_iff_get.mp h.rules
    refine List.forall₂_iff_get.mpr ⟨by simpa [modelWith] using hlength, fun i hi hi' => ?_⟩
    simp only [modelWith, List.length_mapIdx] at hi hi'
    have hrule : SameRule doc.rules[i] other.rules[i] := hrules i hi hi'
    simp only [modelWith, List.get_eq_getElem, List.getElem_mapIdx, h.triggerOutcome_eq ids i hrule]
    cases triggerOutcome doc ids i doc.rules[i] <;> rfl
  · simp only [modelWith, List.map_append, htag, h.tags, h.macros]
    congr 2
    · congr 1
      exact map_failedAt_issuesOf h.rules
        (fun _ _ _ hr => exists_congr fun _ => hr.ofData_eq_ok_iff) _ _
    · refine map_failedAt_issuesOf h.rules (fun i rule rule' hr => ?_) _ _
      rw [h.triggerOutcome_eq ids i hr]
      cases triggerOutcome doc ids i rule <;> simp

/-- **Encodings do not matter.** Two encodings of a document are decoded to the same records, with
issues of the same operations at the same positions. What keeps one from having a model, a tag whose
number cannot be written, keeps both from it. -/
theorem ofDocument_reencoded (h : Reencoded doc other) (component : Text) :
    ((∀ tag ∈ doc.tags, HasWritableId tag) →
      ∃ m m', Model.ofDocument doc component = .ok m ∧ Model.ofDocument other component = .ok m' ∧
        SameRecords m m') ∧
    ((∃ tag ∈ doc.tags, ¬HasWritableId tag) →
      Model.ofDocument doc component = .error .longInteger ∧
        Model.ofDocument other component = .error .longInteger) := by
  have hids : tagIdentifiers other = tagIdentifiers doc := by
    unfold tagIdentifiers
    rw [h.tags]
  simp only [ofDocument_eq, hids]
  constructor
  · intro hwritable
    obtain ⟨ids, hids⟩ := exists_tagIdentifiers_iff.mpr hwritable
    rw [hids]
    exact ⟨_, _, rfl, rfl, modelWith_reencoded h component ids⟩
  · rintro ⟨tag, htag, hlong⟩
    rw [tagIdentifiers_eq_longInteger htag hlong]
    exact ⟨rfl, rfl⟩

/-- Rules as clauses out of order, with heads split over several of them, values that are no
clauses, and a position that cannot be read. -/
def clauseDocument : Document where
  tags := [.object [("function", .text "__ua")], .object [("function", .text "__html")]]
  macros := [.object [("function", .text "__e")]]
  predicates := [
    .object [("function", .text "_eq"), ("arg0", .array [.text "macro", .int 0]),
      ("arg1", .text "gtm.js")],
    .object [("arg1", .text "x"), ("negate", .int 0), ("function", .text "_cn")]]
  rules := [
    .array [.array [.text "add", .int 1], .text "if", .array [.text "if", .int 0, .bool true],
      .array [.text "unless", .text "1"], .array [.text "fire", .int 0],
      .array [.text "add", .int 0], .array []],
    .array [.array [.text "if", .text "²"], .array [.text "add", .int 0]]]

/-- The rules as objects, with their keys in another order, and the predicates as lists. -/
def listDocument : Document where
  tags := clauseDocument.tags
  macros := clauseDocument.macros
  predicates := [
    .array [.text "_eq", .array [.text "macro", .int 0], .text "gtm.js"],
    .array [.text "_cn", .null, .text "x"]]
  rules := [
    .object [("add", .array [.int 1, .int 0]), ("if", .array [.int 0, .bool true]),
      ("unless", .array [.text "1"]), ("block", .array [])],
    .object [("if", .array [.text "²"]), ("add", .array [.int 0]), ("unless", .array []),
      ("block", .array [])]]

/-- Both documents have a model, with the same records. -/
theorem clauseDocument_reencoded : Reencoded clauseDocument listDocument ∧
    ∃ m m', Model.ofDocument clauseDocument decoderName = .ok m ∧
      Model.ofDocument listDocument decoderName = .ok m' ∧ SameRecords m m' := by
  have h : Reencoded clauseDocument listDocument := by
    refine ⟨rfl, rfl, rfl, .cons (.mk ?_) (.cons (.mk ?_) .nil),
      .cons (.mk rfl rfl) (.cons (.mk rfl rfl) .nil)⟩
    · exact List.Perm.swap ..
    · exact List.Perm.refl _
  refine ⟨h, (ofDocument_reencoded h decoderName).1 fun tag htag n hn => ?_⟩
  simp only [clauseDocument, List.mem_cons, List.not_mem_nil, or_false] at htag
  obtain rfl | rfl := htag <;> cases hn

end TagAudit.Container
