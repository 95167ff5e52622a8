import TagAudit.Container.Decode
import TagAudit.Proofs.Outcome

/-!
# Decoding in closed form

`Decoder.decode` passes a ledger through four loops. Here every loop is taken apart: what it makes
of one record depends on that record and on what was known before the loop, and the issues come out
in the order of the loops and, inside a loop, of the positions.

* `guardAll_eq`: one loop.
* `exists_tagIdentifier_iff`: a tag has an identifier unless its number is too long to be written.
* `decode_eq`: a whole document, with what stays with the decoder.
* `ofDocument_eq_ok_iff`: when a document has a model, and which.
* `tagWith_eq`: the record of a tag, decoded or not.
-/

namespace TagAudit.Container

/-! ## One loop -/

/-- The issue of a step on the record at a position, if the step failed. -/
def issueOf? {α : Type} (component operation : Text) (position : Nat) :
    Except Fault α → Option Issue
  | .ok _ => none
  | .error fault => some (Issue.ofFault component operation [("position", .int position)] fault)

/-- The issues of a step on every record of a list, in order. -/
def issuesOf {α β : Type} (component operation : Text) (outcome : Nat → α → Except Fault β)
    (raws : List α) : List Issue :=
  raws.zipIdx.filterMap fun e => issueOf? component operation e.2 (outcome e.2 e.1)

/-- The record that a step gives, or its placeholder. -/
def recordOr {α : Type} (placeholder : α) : Except Fault α → α
  | .ok record => record
  | .error _ => placeholder

section

variable {α β : Type} (operation : Text) (decode : Nat → α → Except Fault β)
  (placeholder : Nat → α → β)

/-- **One step.** The record is the one decoded or its placeholder, and a failure leaves an
issue. -/
theorem guardStep_eq (done : List β) (l : Ledger) (raw : α) (i : Nat) :
    guardStep operation decode placeholder (done, l) (raw, i) =
      (recordOr (placeholder i raw) (decode i raw) :: done,
        { l with issues :=
            l.issues ++ (issueOf? l.component operation i (decode i raw)).toList }) := by
  unfold guardStep
  cases h : decode i raw with
  | ok record => simp [h, Ledger.guard, recordOr, issueOf?]
  | error fault => simp [h, Ledger.guard, Ledger.add, recordOr, issueOf?]

theorem foldl_guardStep (entries : List (α × Nat)) (done : List β) (l : Ledger) :
    entries.foldl (guardStep operation decode placeholder) (done, l) =
      ((entries.map fun e => recordOr (placeholder e.2 e.1) (decode e.2 e.1)).reverse ++ done,
        { l with issues := l.issues ++
            entries.filterMap fun e => issueOf? l.component operation e.2 (decode e.2 e.1) }) := by
  induction entries generalizing done l with
  | nil => simp
  | cons entry entries ih =>
    obtain ⟨raw, i⟩ := entry
    rw [List.foldl_cons, guardStep_eq, ih]
    cases h : decode i raw <;> simp [h, recordOr, issueOf?]

/-- **One loop.** Every record is the one decoded or its placeholder, and every failed step leaves
one issue, in the order of positions. -/
theorem guardAll_eq (raws : List α) (l : Ledger) :
    guardAll operation decode placeholder raws l =
      (raws.mapIdx fun i raw => recordOr (placeholder i raw) (decode i raw),
        { l with issues := l.issues ++ issuesOf l.component operation decode raws }) := by
  unfold guardAll
  rw [foldl_guardStep]
  simp [List.mapIdx_eq_zipIdx_map, issuesOf]

end

theorem mem_issuesOf {α β : Type} {component operation : Text}
    {outcome : Nat → α → Except Fault β} {raws : List α} {issue : Issue} :
    issue ∈ issuesOf component operation outcome raws ↔
      ∃ (i : Nat) (raw : α) (fault : Fault), raws[i]? = some raw ∧ outcome i raw = .error fault ∧
        issue = Issue.ofFault component operation [("position", .int i)] fault := by
  unfold issuesOf
  rw [List.mem_filterMap]
  constructor
  · rintro ⟨⟨raw, i⟩, hmem, hissue⟩
    cases h : outcome i raw with
    | ok record => simp [h, issueOf?] at hissue
    | error fault =>
      simp only [h, issueOf?, Option.some.injEq] at hissue
      exact ⟨i, raw, fault, List.mem_zipIdx_iff_getElem?.mp hmem, h, hissue.symm⟩
  · rintro ⟨i, raw, fault, hraw, h, rfl⟩
    exact ⟨(raw, i), List.mem_zipIdx_iff_getElem?.mpr hraw, by simp [h, issueOf?]⟩

theorem issuesOf_map {α β γ : Type} (component operation : Text) (f : γ → α)
    (outcome : Nat → α → Except Fault β) (raws : List γ) :
    issuesOf component operation outcome (raws.map f) =
      issuesOf component operation (fun i raw => outcome i (f raw)) raws := by
  rw [issuesOf, issuesOf, List.zipIdx_map, List.filterMap_map]
  rfl

/-! ## Identifiers of tags -/

/-- The number of a tag, if it has one, is short enough to be written. -/
def HasWritableId (tag : Data) : Prop :=
  ∀ n, tag.get? "tag_id" = some (.int n) → n.natAbs < tenPow Fault.digitLimit

theorem exists_tagIdentifier_iff {tag : Data} {position : Int} :
    (∃ id, tagIdentifier tag position = .ok id) ↔ HasWritableId tag := by
  unfold tagIdentifier HasWritableId
  split
  · next n h =>
    rw [h]
    unfold writeInteger
    split <;> simp_all
  · next hne =>
    refine ⟨fun _ n h => absurd h (hne n), fun _ => ⟨_, rfl⟩⟩

theorem tagIdentifier_eq_error {tag : Data} {position : Int} {fault : Fault}
    (h : tagIdentifier tag position = .error fault) : fault = .longInteger := by
  unfold tagIdentifier at h
  split at h
  · unfold writeInteger at h
    split at h <;> simp_all
  · cases h

/-- The identifiers of the tags of a document. -/
def tagIdentifiers (doc : Document) : Except Fault (List Text) :=
  doc.tags.zipIdx.mapM fun (tag, i) => tagIdentifier tag i

theorem exists_tagIdentifiers_iff {doc : Document} :
    (∃ ids, tagIdentifiers doc = .ok ids) ↔ ∀ tag ∈ doc.tags, HasWritableId tag := by
  unfold tagIdentifiers
  rw [Outcome.exists_mapM_eq_ok]
  constructor
  · intro h tag htag
    obtain ⟨i, hi⟩ := List.mem_iff_getElem?.mp htag
    exact exists_tagIdentifier_iff.mp (h (tag, i) (List.mem_zipIdx_iff_getElem?.mpr hi))
  · rintro h ⟨tag, i⟩ hmem
    have hi := List.mem_zipIdx_iff_getElem?.mp hmem
    exact exists_tagIdentifier_iff.mpr (h tag (List.mem_of_getElem? hi))

theorem tagIdentifiers_eq_error {doc : Document} {fault : Fault}
    (h : tagIdentifiers doc = .error fault) : fault = .longInteger := by
  obtain ⟨⟨tag, i⟩, -, he⟩ := Outcome.mapM_eq_error h
  exact tagIdentifier_eq_error he

theorem tagIdentifiers_eq_longInteger {doc : Document} {tag : Data} (htag : tag ∈ doc.tags)
    (hlong : ¬HasWritableId tag) : tagIdentifiers doc = .error .longInteger := by
  cases h : tagIdentifiers doc with
  | ok ids => exact absurd (exists_tagIdentifiers_iff.mp ⟨ids, h⟩ tag htag) hlong
  | error fault => rw [tagIdentifiers_eq_error h]

theorem tagIdentifiers_getElem? {doc : Document} {ids : List Text}
    (h : tagIdentifiers doc = .ok ids) {i : Nat} {tag : Data} (htag : doc.tags[i]? = some tag) :
    ∃ id, ids[i]? = some id ∧ tagIdentifier tag i = .ok id := by
  have hi := congrArg (·[i]?) (Outcome.mapM_eq_ok.mp h)
  simp only [List.getElem?_map, List.getElem?_zipIdx, htag, Option.map_some] at hi
  obtain ⟨id, hid, he⟩ := Option.map_eq_some_iff.mp hi.symm
  exact ⟨id, hid, by simpa using he.symm⟩

theorem length_tagIdentifiers {doc : Document} {ids : List Text}
    (h : tagIdentifiers doc = .ok ids) : ids.length = doc.tags.length := by
  have hlen := congrArg List.length (Outcome.mapM_eq_ok.mp h)
  simpa using hlen.symm

/-! ## Documents -/

/-- The shape of a rule, the empty one where the rule cannot be read. -/
def shapeOf (rule : Data) : RuleShape := recordOr {} (RuleShape.ofData rule)

/-- The links between the rules and the tags of a document. -/
def linksOf (doc : Document) : Links := Links.ofShapes (doc.rules.map shapeOf)

/-- What decoding makes of a raw tag of a document. -/
def tagOutcome (doc : Document) (i : Nat) (tag : Data) : Except Fault Tag :=
  decodeTag tag i doc.entities ((linksOf doc).firing.get i) ((linksOf doc).blocking.get i)

/-- What decoding makes of a raw rule of a document whose tags have the given identifiers. -/
def triggerOutcome (doc : Document) (ids : List Text) (i : Nat) (rule : Data) :
    Except Fault Trigger :=
  decodeTrigger rule i (shapeOf rule) doc.predicates doc.entities ids

/-- What decoding makes of a raw variable. -/
def variableOutcome (i : Nat) (record : Data) : Except Fault Variable := decodeVariable record i

/-- The record of a tag of a document whose tags have the given identifiers. -/
def tagWith (doc : Document) (ids : List Text) (i : Nat) (tag : Data) : Tag :=
  recordOr (undecodedTag tag i ((ids[i]?).getD []) ((linksOf doc).firing.get i)
    ((linksOf doc).blocking.get i)) (tagOutcome doc i tag)

/-- The model of a document whose tags have the given identifiers. -/
def modelWith (doc : Document) (component : Text) (ids : List Text) : Model where
  tags := doc.tags.mapIdx (tagWith doc ids)
  triggers := doc.rules.mapIdx fun i rule =>
    recordOr (undecodedTrigger rule i) (triggerOutcome doc ids i rule)
  vars := doc.macros.mapIdx fun i record =>
    recordOr (undecodedVariable record i) (variableOutcome i record)
  issues :=
    issuesOf component "normalize_rule" (fun _ => RuleShape.ofData) doc.rules ++
    issuesOf component "decode_tag" (tagOutcome doc) doc.tags ++
    issuesOf component "decode_trigger" (triggerOutcome doc ids) doc.rules ++
    issuesOf component "decode_variable" variableOutcome doc.macros

theorem mapIdx_recordOr_ofData (rules : List Data) :
    (rules.mapIdx fun _ rule => recordOr {} (RuleShape.ofData rule)) = rules.map shapeOf := by
  rw [List.mapIdx_eq_iff]
  intro i
  rw [List.getElem?_map]
  rfl

theorem zip_map_shapeOf (rules : List Data) :
    rules.zip (rules.map shapeOf) = rules.map fun rule => (rule, shapeOf rule) := by
  induction rules with
  | nil => rfl
  | cons rule rules ih => rw [List.map_cons, List.zip_cons_cons, ih, List.map_cons]

/-- **A whole document.** The identifiers of the tags may fail, and the issues of the rules then
stay with the decoder; all else is guarded. -/
theorem decode_eq (d : Decoder) (doc : Document) :
    d.decode doc =
      match tagIdentifiers doc with
      | .ok ids =>
        (.ok (modelWith doc d.name ids), { d with ledger := some { component := d.name } })
      | .error fault => (.error fault, { d with ledger := some {
          component := d.name
          issues :=
            issuesOf d.name "normalize_rule" (fun _ => RuleShape.ofData) doc.rules } }) := by
  unfold Decoder.decode
  simp only [guardAll_eq, mapIdx_recordOr_ofData, zip_map_shapeOf, issuesOf_map]
  unfold tagIdentifiers
  cases doc.tags.zipIdx.mapM fun (tag, i) => tagIdentifier tag i with
  | error fault => rfl
  | ok ids =>
    have htriggers : (doc.rules.map fun rule => (rule, shapeOf rule)).mapIdx (fun i entry =>
        recordOr (undecodedTrigger entry.1 i)
          (decodeTrigger entry.1 i entry.2 doc.predicates doc.entities ids)) =
        doc.rules.mapIdx fun i rule =>
          recordOr (undecodedTrigger rule i) (triggerOutcome doc ids i rule) := by
      rw [List.mapIdx_eq_iff]
      intro i
      simp [triggerOutcome, Function.comp_def]
    simp only [modelWith, ← htriggers]
    rfl

theorem decode_fst (d : Decoder) (doc : Document) :
    (d.decode doc).1 = (tagIdentifiers doc).map (modelWith doc d.name) := by
  rw [decode_eq]
  cases tagIdentifiers doc <;> rfl

theorem decode_name (d : Decoder) (doc : Document) : (d.decode doc).2.name = d.name := by
  rw [decode_eq]
  cases tagIdentifiers doc <;> rfl

/-- What comes of decoding a document does not depend on those decoded before. -/
theorem decode_eq_ofDocument (d : Decoder) (doc : Document) :
    (d.decode doc).1 = Model.ofDocument doc d.name :=
  (decode_fst d doc).trans (decode_fst { name := d.name } doc).symm

theorem ofDocument_eq (doc : Document) (component : Text) :
    Model.ofDocument doc component = (tagIdentifiers doc).map (modelWith doc component) :=
  decode_fst { name := component } doc

theorem ofDocument_eq_ok_iff {doc : Document} {component : Text} {m : Model} :
    Model.ofDocument doc component = .ok m ↔
      ∃ ids, tagIdentifiers doc = .ok ids ∧ m = modelWith doc component ids := by
  rw [ofDocument_eq]
  cases tagIdentifiers doc <;> simp [Except.map, eq_comm]

/-! ## Records -/

/-- What a decoded tag has in common with its placeholder. -/
theorem decodeTag_eq_ok {tag : Data} {position : Nat} {entities : Members Data}
    {firing blocking : List Text} {record : Tag}
    (h : decodeTag tag position entities firing blocking = .ok record) :
    tagIdentifier tag position = .ok record.id ∧ record.position = position ∧
      record.firing = firing ∧ record.blocking = blocking ∧ record.raw = tag := by
  cases tag with
  | object members =>
    obtain ⟨id, hid, h⟩ := Outcome.bind_eq_ok.mp h
    obtain ⟨name, -, h⟩ := Outcome.bind_eq_ok.mp h
    obtain ⟨type, -, h⟩ := Outcome.bind_eq_ok.mp h
    obtain ⟨priority, -, h⟩ := Outcome.bind_eq_ok.mp h
    obtain ⟨setup, -, h⟩ := Outcome.bind_eq_ok.mp h
    obtain ⟨teardown, -, h⟩ := Outcome.bind_eq_ok.mp h
    cases h
    exact ⟨hid, rfl, rfl, rfl, rfl⟩
  | _ => cases h

/-- What a decoded trigger takes from its rule as a whole, and has in common with its
placeholder. -/
theorem decodeTrigger_eq_ok {rule : Data} {position : Nat} {shape : RuleShape}
    {predicates : List Data} {entities : Members Data} {tagIds : List Text} {record : Trigger}
    (h : decodeTrigger rule position shape predicates entities tagIds = .ok record) :
    record.id = triggerId position ∧ record.tagIds = tagsAt tagIds shape.fires ∧
      record.position = position ∧ record.raw = rule := by
  obtain ⟨conditions, -, h⟩ := Outcome.bind_eq_ok.mp h
  obtain ⟨exceptions, -, h⟩ := Outcome.bind_eq_ok.mp h
  obtain ⟨event, -, h⟩ := Outcome.bind_eq_ok.mp h
  obtain ⟨summary, -, h⟩ := Outcome.bind_eq_ok.mp h
  obtain ⟨exceptionSummary, -, h⟩ := Outcome.bind_eq_ok.mp h
  obtain ⟨name, -, h⟩ := Outcome.bind_eq_ok.mp h
  obtain ⟨type, -, h⟩ := Outcome.bind_eq_ok.mp h
  cases h
  exact ⟨rfl, rfl, rfl, rfl⟩

/-- What a decoded variable has in common with its placeholder. -/
theorem decodeVariable_eq_ok {raw : Data} {position : Nat} {record : Variable}
    (h : decodeVariable raw position = .ok record) :
    record.position = position ∧ record.raw = raw := by
  cases raw with
  | object members =>
    obtain ⟨default, -, h⟩ := Outcome.bind_eq_ok.mp h
    obtain ⟨name, -, h⟩ := Outcome.bind_eq_ok.mp h
    obtain ⟨details, -, h⟩ := Outcome.bind_eq_ok.mp h
    cases h
    exact ⟨rfl, rfl⟩
  | _ => cases h

/-- Decoded or not, a tag has its identifier and its links. -/
theorem tagWith_eq {doc : Document} {ids : List Text} (h : tagIdentifiers doc = .ok ids) {i : Nat}
    {tag : Data} (htag : doc.tags[i]? = some tag) :
    tagIdentifier tag i = .ok (tagWith doc ids i tag).id ∧
      (tagWith doc ids i tag).firing = (linksOf doc).firing.get i ∧
      (tagWith doc ids i tag).blocking = (linksOf doc).blocking.get i := by
  unfold tagWith
  cases hrecord : tagOutcome doc i tag with
  | ok record =>
    obtain ⟨hid, -, hfiring, hblocking, -⟩ := decodeTag_eq_ok hrecord
    exact ⟨hid, hfiring, hblocking⟩
  | error fault =>
    obtain ⟨id, hid, he⟩ := tagIdentifiers_getElem? h htag
    simp [recordOr, undecodedTag, hid, he]

theorem getElem?_ids {doc : Document} {ids : List Text} (h : tagIdentifiers doc = .ok ids) {i : Nat}
    {tag : Data} (htag : doc.tags[i]? = some tag) : ids[i]? = some (tagWith doc ids i tag).id := by
  obtain ⟨id, hid, he⟩ := tagIdentifiers_getElem? h htag
  rw [(tagWith_eq h htag).1] at he
  rw [hid, Except.ok.inj he]

theorem map_id_tagWith {doc : Document} {ids : List Text} (h : tagIdentifiers doc = .ok ids) :
    (doc.tags.mapIdx (tagWith doc ids)).map (·.id) = ids := by
  apply List.ext_getElem?
  intro i
  rw [List.getElem?_map, List.getElem?_mapIdx]
  cases htag : doc.tags[i]? with
  | none =>
    have hout := List.getElem?_eq_none_iff.mp htag
    rw [← length_tagIdentifiers h] at hout
    simp [hout]
  | some tag =>
    rw [getElem?_ids h htag]
    rfl

end TagAudit.Container
