import Mathlib.Algebra.Group.Int.Defs
import TagAudit.Proofs.Container.Decoding

/-!
# Records are decoded in isolation

A record that cannot be decoded stands in the model as a placeholder, next to an issue, and the
other records are decoded all the same. One thing is not guarded, the identifiers of tags: a tag
whose number has more than `Fault.digitLimit` digits takes the whole document down.

* `Isolated`: every record is decoded, or replaced by its placeholder with an issue.
* `ofDocument_isolates`: exactly the documents without such a number have a model, and every model
  is isolated.
* `ofDocument_longNumber`: a document that has no model because of one of its two tags.
-/

namespace TagAudit.Container

/-- How the step on one record came out: with what was decoded, or with the placeholder and an
issue. -/
def Kept {α : Type} (issues : List Issue) (component operation : Text) (position : Nat)
    (outcome : Except Fault α) (placeholder record : α) : Prop :=
  match outcome with
  | .ok decoded => record = decoded
  | .error fault =>
    record = placeholder ∧
      Issue.ofFault component operation [("position", .int position)] fault ∈ issues

/-- A model in which every record of the document has its own, whatever became of the others. -/
structure Isolated (doc : Document) (component : Text) (m : Model) : Prop where
  length_tags : m.tags.length = doc.tags.length
  length_triggers : m.triggers.length = doc.rules.length
  length_vars : m.vars.length = doc.macros.length
  /-- A rule that cannot be read has the empty shape (`shapeOf`) and an issue. -/
  shapes : ∀ (i : Nat) (rule : Data), doc.rules[i]? = some rule →
    Kept m.issues component "normalize_rule" i (RuleShape.ofData rule) {} (shapeOf rule)
  tags : ∀ (i : Nat) (tag : Data), doc.tags[i]? = some tag →
    ∃ record, m.tags[i]? = some record ∧ tagIdentifier tag i = .ok record.id ∧
      Kept m.issues component "decode_tag" i (tagOutcome doc i tag)
        (undecodedTag tag i record.id ((linksOf doc).firing.get i) ((linksOf doc).blocking.get i))
        record
  triggers : ∀ (i : Nat) (rule : Data), doc.rules[i]? = some rule →
    ∃ record, m.triggers[i]? = some record ∧
      Kept m.issues component "decode_trigger" i (triggerOutcome doc (m.tags.map (·.id)) i rule)
        (undecodedTrigger rule i) record
  vars : ∀ (i : Nat) (raw : Data), doc.macros[i]? = some raw →
    ∃ record, m.vars[i]? = some record ∧
      Kept m.issues component "decode_variable" i (variableOutcome i raw)
        (undecodedVariable raw i) record

/-- A step of a loop keeps its record, if the issues of the loop are recorded. -/
theorem kept_recordOr {α β : Type} {issues : List Issue} {component operation : Text}
    (outcome : Nat → α → Except Fault β) {raws : List α}
    (hsub : issuesOf component operation outcome raws ⊆ issues) {i : Nat} {raw : α}
    (hraw : raws[i]? = some raw) (placeholder : β) :
    Kept issues component operation i (outcome i raw) placeholder
      (recordOr placeholder (outcome i raw)) := by
  unfold Kept
  cases h : outcome i raw with
  | ok decoded => rfl
  | error fault => exact ⟨rfl, hsub (mem_issuesOf.mpr ⟨i, raw, fault, hraw, h, rfl⟩)⟩

theorem modelWith_isolated {doc : Document} {ids : List Text} (h : tagIdentifiers doc = .ok ids)
    (component : Text) : Isolated doc component (modelWith doc component ids) where
  length_tags := List.length_mapIdx
  length_triggers := List.length_mapIdx
  length_vars := List.length_mapIdx
  shapes i rule hrule := by
    apply kept_recordOr (fun _ => RuleShape.ofData) _ hrule
    intro issue hissue
    simp [modelWith, hissue]
  tags i tag htag := by
    refine ⟨tagWith doc ids i tag, by simp [modelWith, htag], (tagWith_eq h htag).1, ?_⟩
    have hid : (ids[i]?).getD [] = (tagWith doc ids i tag).id := by
      rw [getElem?_ids h htag]
      rfl
    rw [← hid]
    apply kept_recordOr (tagOutcome doc) _ htag
    intro issue hissue
    simp [modelWith, hissue]
  triggers i rule hrule := by
    refine ⟨recordOr (undecodedTrigger rule i) (triggerOutcome doc ids i rule),
      by simp [modelWith, hrule], ?_⟩
    have hids : (modelWith doc component ids).tags.map (·.id) = ids := map_id_tagWith h
    rw [hids]
    apply kept_recordOr (triggerOutcome doc ids) _ hrule
    intro issue hissue
    simp [modelWith, hissue]
  vars i raw hraw := by
    refine ⟨recordOr (undecodedVariable raw i) (variableOutcome i raw),
      by simp [modelWith, hraw], ?_⟩
    apply kept_recordOr variableOutcome _ hraw
    intro issue hissue
    simp [modelWith, hissue]

/-- **Isolation.** A document has a model exactly if every number of a tag can be written; otherwise
decoding stops with that fault. In a model every record is decoded or has a placeholder and an
issue. -/
theorem ofDocument_isolates (doc : Document) (component : Text) :
    ((∃ m, Model.ofDocument doc component = .ok m) ↔ ∀ tag ∈ doc.tags, HasWritableId tag) ∧
    ((∃ tag ∈ doc.tags, ¬HasWritableId tag) →
      Model.ofDocument doc component = .error .longInteger) ∧
    ∀ m, Model.ofDocument doc component = .ok m → Isolated doc component m := by
  refine ⟨?_, ?_, ?_⟩
  · rw [← exists_tagIdentifiers_iff]
    constructor
    · rintro ⟨m, hm⟩
      obtain ⟨ids, hids, -⟩ := ofDocument_eq_ok_iff.mp hm
      exact ⟨ids, hids⟩
    · rintro ⟨ids, hids⟩
      exact ⟨_, ofDocument_eq_ok_iff.mpr ⟨ids, hids, rfl⟩⟩
  · rintro ⟨tag, htag, hlong⟩
    rw [ofDocument_eq, tagIdentifiers_eq_longInteger htag hlong]
    rfl
  · intro m hm
    obtain ⟨ids, hids, rfl⟩ := ofDocument_eq_ok_iff.mp hm
    exact modelWith_isolated hids component

/-- Two tags and a variable; the second tag has a number of more digits than can be written. -/
def longNumberDocument : Document where
  tags := [.object [("function", .text "__ua")],
    .object [("function", .text "__html"), ("tag_id", .int (16 ^ 3600))]]
  macros := [.object [("function", .text "__e")]]

/-- The number of one tag keeps the whole document from being decoded. -/
theorem ofDocument_longNumber :
    Model.ofDocument longNumberDocument decoderName = .error .longInteger := by
  have hlong : ¬HasWritableId longNumberDocument.tags[1] := by
    intro hw
    have := hw (16 ^ 3600) (by rfl)
    revert this
    decide +kernel
  rw [ofDocument_eq, tagIdentifiers_eq_longInteger (List.getElem_mem _) hlong]
  rfl

end TagAudit.Container
