import TagAudit.Proofs.Container.Isolation
import TagAudit.Proofs.Container.Links

/-!
# Which record comes from where

A decoder is used for one document after another, and inside a document four loops share a ledger.
None of it shows in a model: every record is that of its raw record, an issue stands for every step
that failed and for nothing else, and a raw record that is replaced changes its own record only. The
one exception is the identifier of a tag, which the triggers that fire the tag repeat.

* `decode_after_eq_ok_iff`: documents decoded before, with or without success, do not matter.
* `Settled`, `Recorded`: records and issues of a model, told by the steps on the raw records.
* `SameBesidesTag`, `SameBesidesVariable`: two models that differ in one place.
* `decode_local`: every model is recorded so, and changes in one place with one raw record.
-/

namespace TagAudit.Container

/-! ## Documents before -/

theorem after_name (d : Decoder) (earlier : List Document) : (d.after earlier).name = d.name := by
  unfold Decoder.after
  induction earlier generalizing d with
  | nil => rfl
  | cons doc earlier ih => rw [List.foldl_cons, ih, decode_name]

/-- **Documents before** leave a ledger with the decoder, which the next document starts without. -/
theorem decode_after_eq_ok_iff {d : Decoder} {earlier : List Document} {doc : Document}
    {m : Model} :
    ((d.after earlier).decode doc).1 = .ok m ↔
      ∃ ids, tagIdentifiers doc = .ok ids ∧ m = modelWith doc d.name ids := by
  rw [decode_fst, after_name, Outcome.map_eq_ok]
  simp only [eq_comm]

/-! ## Issues -/

/-- Whether a step on the record at a position has an issue. -/
def HasIssue (issues : List Issue) (operation : Text) (i : Nat) : Prop :=
  ∃ issue ∈ issues, issue.operation = operation ∧
    issue.context = ([("position", .int i)] : Members Data)

theorem hasIssue_append {issues more : List Issue} {operation : Text} {i : Nat} :
    HasIssue (issues ++ more) operation i ↔
      HasIssue issues operation i ∨ HasIssue more operation i := by
  simp [HasIssue, or_and_right, exists_or]

/-- The issues of a loop are those of its operation and of the positions where its step failed. -/
theorem hasIssue_issuesOf {α β : Type} {component operation other : Text}
    {outcome : Nat → α → Except Fault β} {raws : List α} {i : Nat} :
    HasIssue (issuesOf component operation outcome raws) other i ↔
      operation = other ∧ ∃ raw fault, raws[i]? = some raw ∧ outcome i raw = .error fault := by
  constructor
  · rintro ⟨issue, hmem, hop, hcontext⟩
    obtain ⟨k, raw, fault, hraw, hfault, rfl⟩ := mem_issuesOf.mp hmem
    obtain rfl : k = i := Int.ofNat.inj (by simpa [Issue.ofFault] using hcontext)
    exact ⟨hop, raw, fault, hraw, hfault⟩
  · rintro ⟨rfl, raw, fault, hraw, hfault⟩
    exact ⟨_, mem_issuesOf.mpr ⟨i, raw, fault, hraw, hfault, rfl⟩, rfl, rfl⟩

/-- How a step on a raw record shows in a model: what it gave is the record, and the step has no
issue; or it failed, the placeholder is the record, and there is one. -/
def Settled {α : Type} (issues : List Issue) (operation : Text) (i : Nat) (outcome : Except Fault α)
    (placeholder record : α) : Prop :=
  match outcome with
  | .ok decoded => record = decoded ∧ ¬HasIssue issues operation i
  | .error _ => record = placeholder ∧ HasIssue issues operation i

theorem settled_recordOr {α : Type} {issues : List Issue} {operation : Text} {i : Nat}
    {outcome : Except Fault α}
    (h : HasIssue issues operation i ↔ ∃ fault, outcome = .error fault) (placeholder : α) :
    Settled issues operation i outcome placeholder (recordOr placeholder outcome) := by
  unfold Settled
  cases outcome with
  | ok decoded => exact ⟨rfl, fun hissue => by simpa using h.mp hissue⟩
  | error fault => exact ⟨rfl, h.mpr ⟨fault, rfl⟩⟩

/-! ## Records -/

/-- The identifiers of tags show in one field of a trigger and nowhere else. -/
theorem decodeTrigger_tagIds (rule : Data) (position : Nat) (shape : RuleShape)
    (predicates : List Data) (entities : Members Data) (ids ids' : List Text) :
    decodeTrigger rule position shape predicates entities ids' =
      (decodeTrigger rule position shape predicates entities ids).map
        fun t => { t with tagIds := tagsAt ids' shape.fires } := by
  change _ = _ <$> _
  unfold decodeTrigger
  simp only [map_bind]
  rfl

/-- The records and the issues of a model. -/
structure Recorded (doc : Document) (component : Text) (m : Model) : Prop where
  length_tags : m.tags.length = doc.tags.length
  length_triggers : m.triggers.length = doc.rules.length
  length_vars : m.vars.length = doc.macros.length
  tags : ∀ (i : Nat) (raw : Data), doc.tags[i]? = some raw → ∃ record, m.tags[i]? = some record ∧
    record.position = i ∧ record.raw = raw ∧ tagIdentifier raw i = .ok record.id ∧
    Settled m.issues "decode_tag" i (tagOutcome doc i raw)
      (undecodedTag raw i record.id ((linksOf doc).firing.get i) ((linksOf doc).blocking.get i))
      record
  triggers : ∀ (i : Nat) (raw : Data), doc.rules[i]? = some raw →
    ∃ record, m.triggers[i]? = some record ∧ record.position = i ∧ record.raw = raw ∧
      Settled m.issues "decode_trigger" i (triggerOutcome doc (m.tags.map (·.id)) i raw)
        (undecodedTrigger raw i) record
  vars : ∀ (i : Nat) (raw : Data), doc.macros[i]? = some raw →
    ∃ record, m.vars[i]? = some record ∧ record.position = i ∧ record.raw = raw ∧
      Settled m.issues "decode_variable" i (variableOutcome i raw) (undecodedVariable raw i) record
  /-- One issue for every failed step: rules as such, tags, triggers, variables, each in order. -/
  issues : m.issues =
    issuesOf component "normalize_rule" (fun _ => RuleShape.ofData) doc.rules ++
    issuesOf component "decode_tag" (tagOutcome doc) doc.tags ++
    issuesOf component "decode_trigger" (triggerOutcome doc (m.tags.map (·.id))) doc.rules ++
    issuesOf component "decode_variable" variableOutcome doc.macros

theorem hasIssue_modelWith (doc : Document) (component : Text) (ids : List Text) (i : Nat) :
    (HasIssue (modelWith doc component ids).issues "decode_tag" i ↔
      ∃ raw fault, doc.tags[i]? = some raw ∧ tagOutcome doc i raw = .error fault) ∧
    (HasIssue (modelWith doc component ids).issues "decode_trigger" i ↔
      ∃ raw fault, doc.rules[i]? = some raw ∧ triggerOutcome doc ids i raw = .error fault) ∧
    (HasIssue (modelWith doc component ids).issues "decode_variable" i ↔
      ∃ raw fault, doc.macros[i]? = some raw ∧ variableOutcome i raw = .error fault) := by
  simp +decide [modelWith, hasIssue_append, hasIssue_issuesOf]

/-- What holds of a placeholder and of every decoded record holds of the record of a step. -/
theorem recordOr_of {α : Type} {P : α → Prop} {placeholder : α} {outcome : Except Fault α}
    (hdecoded : ∀ record, outcome = .ok record → P record) (hplaceholder : P placeholder) :
    P (recordOr placeholder outcome) := by
  cases h : outcome with
  | ok record => exact hdecoded record h
  | error fault => exact hplaceholder

theorem modelWith_recorded {doc : Document} {ids : List Text} (h : tagIdentifiers doc = .ok ids)
    (component : Text) : Recorded doc component (modelWith doc component ids) := by
  have hids : (modelWith doc component ids).tags.map (·.id) = ids := map_id_tagWith h
  refine ⟨List.length_mapIdx, List.length_mapIdx, List.length_mapIdx, fun i raw hraw => ?_,
    fun i raw hraw => ?_, fun i raw hraw => ?_, by rw [hids]; rfl⟩
  all_goals obtain ⟨htag, htrigger, hvariable⟩ := hasIssue_modelWith doc component ids i
  · have hsource : (tagWith doc ids i raw).position = i ∧ (tagWith doc ids i raw).raw = raw := by
      unfold tagWith
      refine recordOr_of (P := fun t : Tag => t.position = i ∧ t.raw = raw)
        (fun record hrecord => ?_) ⟨rfl, rfl⟩
      obtain ⟨-, hposition, -, -, hsame⟩ := decodeTag_eq_ok hrecord
      exact ⟨hposition, hsame⟩
    have hid : (ids[i]?).getD [] = (tagWith doc ids i raw).id := by
      rw [getElem?_ids h hraw]
      rfl
    refine ⟨tagWith doc ids i raw, by simp [modelWith, hraw], hsource.1, hsource.2,
      (tagWith_eq h hraw).1, ?_⟩
    rw [← hid]
    exact settled_recordOr (by simp [htag, hraw]) _
  · let record := recordOr (undecodedTrigger raw i) (triggerOutcome doc ids i raw)
    have hsource : record.position = i ∧ record.raw = raw :=
      recordOr_of (P := fun t => t.position = i ∧ t.raw = raw)
        (fun _ hrecord => (decodeTrigger_eq_ok hrecord).2.2) ⟨rfl, rfl⟩
    refine ⟨record, by simp [modelWith, hraw, record], hsource.1, hsource.2, ?_⟩
    rw [hids]
    exact settled_recordOr (by simp [htrigger, hraw]) _
  · let record := recordOr (undecodedVariable raw i) (variableOutcome i raw)
    have hsource : record.position = i ∧ record.raw = raw :=
      recordOr_of (P := fun v => v.position = i ∧ v.raw = raw)
        (fun _ hrecord => decodeVariable_eq_ok hrecord) ⟨rfl, rfl⟩
    refine ⟨record, by simp [modelWith, hraw, record], hsource.1, hsource.2, ?_⟩
    exact settled_recordOr (by simp [hvariable, hraw]) _

/-! ## One raw record replaced -/

/-- A document with another raw tag at a position. -/
def replaceTag (doc : Document) (j : Nat) (raw : Data) : Document :=
  { doc with tags := doc.tags.set j raw }

/-- A document with another raw variable at a position. -/
def replaceVariable (doc : Document) (j : Nat) (raw : Data) : Document :=
  { doc with macros := doc.macros.set j raw }

/-- Two triggers of one rule that differ at most in the identifiers shown for the tag at a
position. -/
structure SameBesidesId (doc : Document) (j : Nat) (rule : Data) (t t' : Trigger) : Prop where
  others : t' = { t with tagIds := t'.tagIds }
  length_tagIds : t'.tagIds.length = t.tagIds.length
  /-- A trigger shows an identifier for every position that its rule fires and that is a tag's. -/
  tagIds : ∀ k : Nat, ((shapeOf rule).fires.filter (IsTag doc ·))[k]? ≠ some (j : Int) →
    t'.tagIds[k]? = t.tagIds[k]?
  unfired : (j : Int) ∉ (shapeOf rule).fires → t' = t

/-- Two models that differ at most in the tag at a position and in its identifier in triggers. -/
structure SameBesidesTag (doc : Document) (j : Nat) (m m' : Model) : Prop where
  vars : m'.vars = m.vars
  length_tags : m'.tags.length = m.tags.length
  tags : ∀ i : Nat, i ≠ j → m'.tags[i]? = m.tags[i]?
  length_triggers : m'.triggers.length = m.triggers.length
  triggers : ∀ (r : Nat) (rule : Data) (t t' : Trigger), doc.rules[r]? = some rule →
    m.triggers[r]? = some t → m'.triggers[r]? = some t' → SameBesidesId doc j rule t t'

/-- Two models that differ at most in the variable at a position. -/
structure SameBesidesVariable (j : Nat) (m m' : Model) : Prop where
  tags : m'.tags = m.tags
  triggers : m'.triggers = m.triggers
  length_vars : m'.vars.length = m.vars.length
  vars : ∀ i : Nat, i ≠ j → m'.vars[i]? = m.vars[i]?

/-- The other tags keep their identifiers. -/
theorem getElem?_tagIdentifiers_replaceTag {doc : Document} {j : Nat} {raw : Data}
    {ids ids' : List Text} (h : tagIdentifiers doc = .ok ids)
    (h' : tagIdentifiers (replaceTag doc j raw) = .ok ids') {i : Nat} (hi : i ≠ j) :
    ids'[i]? = ids[i]? := by
  have hsame : (replaceTag doc j raw).tags[i]? = doc.tags[i]? := List.getElem?_set_ne hi.symm
  cases htag : doc.tags[i]? with
  | none =>
    have hout := List.getElem?_eq_none_iff.mp htag
    have hlen := length_tagIdentifiers h
    have hlen' := length_tagIdentifiers h'
    have hset : (replaceTag doc j raw).tags.length = doc.tags.length := List.length_set
    rw [List.getElem?_eq_none_iff.mpr (by omega), List.getElem?_eq_none_iff.mpr (by omega)]
  | some tag =>
    obtain ⟨id, hid, he⟩ := tagIdentifiers_getElem? h htag
    obtain ⟨id', hid', he'⟩ := tagIdentifiers_getElem? h' (hsame.trans htag)
    rw [hid, hid', Except.ok.inj (he.symm.trans he')]

section

variable {doc : Document} {ids ids' : List Text} {j : Nat} (hlen : ids.length = doc.tags.length)
  (hlen' : ids'.length = doc.tags.length) (hids : ∀ i : Nat, i ≠ j → ids'[i]? = ids[i]?)

include hlen hlen' hids

theorem getElem?_tagsAt (fires : List Int) {k : Nat}
    (hk : (fires.filter (IsTag doc ·))[k]? ≠ some (j : Int)) :
    (tagsAt ids' fires)[k]? = (tagsAt ids fires)[k]? := by
  have hmap : ((tagsAt ids' fires).map some)[k]? = ((tagsAt ids fires).map some)[k]? := by
    rw [map_some_tagsAt hlen, map_some_tagsAt hlen', List.getElem?_map, List.getElem?_map]
    cases hfired : (fires.filter (IsTag doc ·))[k]? with
    | none => rfl
    | some i =>
      have htag : IsTag doc i := by
        simpa using (List.mem_filter.mp (List.mem_of_getElem? hfired)).2
      have hne : i.toNat ≠ j := by
        rintro rfl
        rw [Int.toNat_of_nonneg htag.1] at hk
        exact hk hfired
      simp [hids _ hne]
  rw [List.getElem?_map, List.getElem?_map] at hmap
  exact (Option.map_inj_right fun _ _ => Option.some.inj).mp hmap

theorem sameBesidesId_tagsAt {rule : Data} {t : Trigger}
    (htagIds : t.tagIds = tagsAt ids (shapeOf rule).fires) :
    SameBesidesId doc j rule t { t with tagIds := tagsAt ids' (shapeOf rule).fires } := by
  have hentries : ∀ k : Nat, ((shapeOf rule).fires.filter (IsTag doc ·))[k]? ≠ some (j : Int) →
      (tagsAt ids' (shapeOf rule).fires)[k]? = t.tagIds[k]? := by
    intro k hk
    rw [htagIds]
    exact getElem?_tagsAt hlen hlen' hids _ hk
  have hcount (names : List Text) (hnames : names.length = doc.tags.length) :
      (tagsAt names (shapeOf rule).fires).length =
        ((shapeOf rule).fires.filter (IsTag doc ·)).length := by
    simpa using congrArg List.length (map_some_tagsAt hnames (shapeOf rule).fires)
  refine ⟨rfl, ?_, hentries, fun hj => ?_⟩
  · rw [htagIds, hcount ids hlen]
    exact hcount ids' hlen'
  · have hsame : tagsAt ids' (shapeOf rule).fires = t.tagIds :=
      List.ext_getElem? fun k => hentries k fun hk =>
        hj (List.mem_of_mem_filter (List.mem_of_getElem? hk))
    rw [hsame]

/-- One rule under the identifiers of two documents: it fails under both, or under none. -/
theorem recordOr_sameBesidesId (raw : Data) (r : Nat) (rule : Data) :
    SameBesidesId doc j rule
      (recordOr (undecodedTrigger rule r) (triggerOutcome doc ids r rule))
      (recordOr (undecodedTrigger rule r) (triggerOutcome (replaceTag doc j raw) ids' r rule)) := by
  have hout : triggerOutcome (replaceTag doc j raw) ids' r rule =
      (triggerOutcome doc ids r rule).map
        fun t => { t with tagIds := tagsAt ids' (shapeOf rule).fires } :=
    decodeTrigger_tagIds rule r (shapeOf rule) doc.predicates doc.entities ids ids'
  rw [hout]
  cases hrecord : triggerOutcome doc ids r rule with
  | error fault => exact ⟨rfl, rfl, fun _ _ => rfl, fun _ => rfl⟩
  | ok t => exact sameBesidesId_tagsAt hlen hlen' hids (decodeTrigger_eq_ok hrecord).2.1

end

theorem modelWith_replaceTag {doc : Document} {j : Nat} {raw : Data} {ids ids' : List Text}
    (h : tagIdentifiers doc = .ok ids) (h' : tagIdentifiers (replaceTag doc j raw) = .ok ids')
    (component : Text) :
    SameBesidesTag doc j (modelWith doc component ids)
      (modelWith (replaceTag doc j raw) component ids') := by
  have hset : (replaceTag doc j raw).tags.length = doc.tags.length := List.length_set
  have hids := fun i => getElem?_tagIdentifiers_replaceTag (i := i) h h'
  refine ⟨rfl, by simp [modelWith, hset], fun i hi => ?_, by simp [modelWith, replaceTag],
    fun r rule t t' hrule ht ht' => ?_⟩
  · have hsame : (replaceTag doc j raw).tags[i]? = doc.tags[i]? := List.getElem?_set_ne hi.symm
    -- The links of a document come from its rules alone.
    have hlinks : linksOf (replaceTag doc j raw) = linksOf doc := rfl
    have hrecord : tagWith (replaceTag doc j raw) ids' i = tagWith doc ids i := by
      funext tag
      unfold tagWith
      rw [hids i hi, hlinks]
      rfl
    simp only [modelWith, List.getElem?_mapIdx, hsame, hrecord]
  · obtain rfl : recordOr (undecodedTrigger rule r) (triggerOutcome doc ids r rule) = t := by
      simpa [modelWith, hrule] using ht
    obtain rfl : recordOr (undecodedTrigger rule r)
        (triggerOutcome (replaceTag doc j raw) ids' r rule) = t' := by
      have hrule' : (replaceTag doc j raw).rules[r]? = some rule := hrule
      simpa [modelWith, hrule'] using ht'
    exact recordOr_sameBesidesId (length_tagIdentifiers h)
      ((length_tagIdentifiers h').trans hset) hids raw r rule

theorem modelWith_replaceVariable (doc : Document) (j : Nat) (raw : Data) (component : Text)
    (ids : List Text) :
    SameBesidesVariable j (modelWith doc component ids)
      (modelWith (replaceVariable doc j raw) component ids) := by
  refine ⟨rfl, rfl, by simp [modelWith, replaceVariable], fun i hi => ?_⟩
  have hsame : (replaceVariable doc j raw).macros[i]? = doc.macros[i]? :=
    List.getElem?_set_ne hi.symm
  simp only [modelWith, List.getElem?_mapIdx, hsame]

/-- **Records, issues and locality.** Whatever a decoder decoded before, its model of a document
holds one record for every raw record and one issue for every failed step. With another raw tag the
model, if there is one, is the same but for that tag and its identifier; with another raw variable
there is a model, the same but for that variable. -/
theorem decode_local (d : Decoder) (earlier : List Document) (doc : Document) (m : Model)
    (h : ((d.after earlier).decode doc).1 = .ok m) :
    Recorded doc d.name m ∧
    (∀ (j : Nat) (raw : Data) (before : List Document) (m' : Model),
      ((d.after before).decode (replaceTag doc j raw)).1 = .ok m' → SameBesidesTag doc j m m') ∧
    ∀ (j : Nat) (raw : Data) (before : List Document), ∃ m',
      ((d.after before).decode (replaceVariable doc j raw)).1 = .ok m' ∧
        SameBesidesVariable j m m' := by
  obtain ⟨ids, hids, rfl⟩ := decode_after_eq_ok_iff.mp h
  refine ⟨modelWith_recorded hids d.name, fun j raw before m' h' => ?_, fun j raw before => ?_⟩
  · obtain ⟨ids', hids', rfl⟩ := decode_after_eq_ok_iff.mp h'
    exact modelWith_replaceTag hids hids' d.name
  · exact ⟨_, decode_after_eq_ok_iff.mpr ⟨ids, hids, rfl⟩,
      modelWith_replaceVariable doc j raw d.name ids⟩

/-- A tag and a variable that are no maps, and a rule whose positions cannot be read. -/
def mixedDocument : Document where
  tags := [.object [("function", .text "__ua")], .text "tag"]
  rules := [
    .array [.array [.text "add", .int 1, .int 0]],
    .object [("tags", .array [.int 0, .text "²"])],
    .object [("tags", .array [.int 0])]]
  macros := [.object [("function", .text "__e")], .int 3]

/-- The same document with another second tag. -/
def renamedDocument : Document :=
  replaceTag mixedDocument 1 (.object [("function", .text "__html")])

/-- `mixedDocument` behind a document that cannot be decoded, and `renamedDocument`. -/
theorem mixedDocument_local : ∃ m m',
    (((({} : Decoder).after [longNumberDocument]).decode mixedDocument).1 = .ok m ∧
      ((({} : Decoder).after []).decode renamedDocument).1 = .ok m') ∧
    Recorded mixedDocument decoderName m ∧ SameBesidesTag mixedDocument 1 m m' ∧
    m.issues.map (·.operation) =
      (["normalize_rule", "decode_tag", "decode_variable"] : List Text) ∧
    m.triggers.map (·.tagIds) = ([["tag_1", "__ua"], [], ["__ua"]] : List (List Text)) ∧
    m'.triggers.map (·.tagIds) = ([["__html", "__ua"], [], ["__ua"]] : List (List Text)) := by
  obtain ⟨m, hm⟩ :
      ∃ m, ((({} : Decoder).after [longNumberDocument]).decode mixedDocument).1 = .ok m :=
    ⟨_, decode_after_eq_ok_iff.mpr ⟨["__ua", "tag_1"], rfl, rfl⟩⟩
  obtain ⟨m', hm'⟩ : ∃ m', ((({} : Decoder).after []).decode renamedDocument).1 = .ok m' :=
    ⟨_, decode_after_eq_ok_iff.mpr ⟨["__ua", "__html"], rfl, rfl⟩⟩
  obtain ⟨hrecorded, htag, -⟩ := decode_local {} [longNumberDocument] mixedDocument m hm
  refine ⟨m, m', ⟨hm, hm'⟩, hrecorded, htag 1 _ [] m' hm', ?_⟩
  obtain ⟨ids, hids, rfl⟩ := decode_after_eq_ok_iff.mp hm
  obtain ⟨ids', hids', rfl⟩ := decode_after_eq_ok_iff.mp hm'
  cases hids
  cases hids'
  decide +kernel

end TagAudit.Container
