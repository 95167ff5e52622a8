import TagAudit.Container.Document
import TagAudit.Container.Event
import TagAudit.Container.Links
import TagAudit.Container.Name
import TagAudit.Container.Record
import TagAudit.Issue.Ledger

/-!
# Decoding containers

A document becomes a model: one record for every raw tag, rule and variable. Every record is decoded
on its own; one that cannot be decoded becomes a placeholder and an issue.

* `decodeTag`, `decodeTrigger` and `decodeVariable` decode one raw record.
* `Decoder.decode` decodes a document, with what the decoder keeps from one document to the next.
* `Model.ofDocument` decodes one document.
-/

namespace TagAudit.Container

/-! ## Fields -/

/-- Whether a value switches something on: true, a number equal to one, or the text `true`. -/
def isOn : Data → Bool
  | .bool b => b
  | .int n => n == 1
  | .float x => x.toInt? == some 1
  | .text t => decide (t = ("true" : Text))
  | _ => false

/-- The integer that a value spells: a number without its places, or a numeral; else a default. -/
def integerOr (default : Int) (d : Data) : Except Fault Int :=
  match d with
  | .int n => .ok n
  | .float x =>
    match x.truncate? with
    | some n => .ok n
    | none => .error (if x = .nan then .wholeOfNaN else .wholeOfInfinity)
  | .text t =>
    match readInteger t with
    | .ok n => .ok n
    | .error _ => .ok default
  | _ => .ok default

/-- A value in a summary: nothing for null, `true` and `false` in small letters. -/
def summaryText : Data → Except Fault Text
  | .null => .ok []
  | .bool true => .ok "true"
  | .bool false => .ok "false"
  | d => d.display

/-- The identifier of a raw tag: its number, else its function, else its position. -/
def tagIdentifier (tag : Data) (position : Int) : Except Fault Text :=
  match tag.get? "tag_id" with
  | some (.int n) => writeInteger n
  | _ =>
    let function := functionOf tag
    .ok (if function.isEmpty then ("tag_" : Text) ++ Text.ofInt position else function)

/-- Texts in order, each once. -/
def distinctSorted (tokens : List Text) : List Text := (Text.sort tokens).eraseReps

/-- The tokens of a consent list; none for a tag without a well-formed one. -/
def consentOf (members : Members Data) : Option (List Text) :=
  match members.get? "consent" with
  | some (.array (head :: tokens)) =>
    if head.isText "list" && !tokens.isEmpty then (tokens.mapM Data.text?).map distinctSorted
    else none
  | _ => none

/-- How often a tag may fire; once per event wins over once per page. -/
def firingOptionOf (members : Members Data) : FiringOption :=
  if isOn (Data.getD members "once_per_event") then .oncePerEvent
  else if isOn (Data.getD members "once_per_load") || isOn (Data.getD members "once_per_page") then
    .oncePerPage
  else .unlimited

/-- The identifier in one entry of a list of tags; none for a malformed entry. -/
def tagReference? (entry : Data) : Except Fault (Option Text) :=
  match entry with
  | .array (head :: target :: _) =>
    if head.isText "tag" then
      match target with
      | .int n => (writeInteger n).map some
      | .text t => .ok (if t.isEmpty then none else some t)
      | _ => .ok none
    else .ok none
  | _ => .ok none

/-- The identifiers in a list of tags. -/
def tagReferences (d : Data) : Except Fault (List Text) :=
  match d with
  | .array (head :: entries) =>
    if head.isText "list" then do return (← entries.mapM tagReference?).filterMap id else .ok []
  | _ => .ok []

/-! ## Tags -/

/-- The record of a raw tag. -/
def decodeTag (tag : Data) (position : Nat) (entities : Members Data)
    (firing blocking : List Text) : Except Fault Tag :=
  match tag with
  | .object members => do
    let id ← tagIdentifier tag position
    let name ← tagName tag position entities []
    let type ← tagType tag
    let priority ← integerOr 0 (Data.getD members "priority")
    let setup ← tagReferences (Data.getD members "setup_tags")
    let teardown ← tagReferences (Data.getD members "teardown_tags")
    return {
      id, position, name, type, priority, firing, blocking, setup, teardown
      vendor := tagVendor tag
      consent := consentOf members
      firingOption := firingOptionOf members
      raw := tag }
  | _ => .error (.notMap "tag" position tag.shape)

/-- The record of a raw tag that cannot be decoded. -/
def undecodedTag (tag : Data) (position : Nat) (id : Text) (firing blocking : List Text) : Tag where
  id := id
  position := position
  firing := firing
  blocking := blocking
  raw := tag

/-! ## Triggers -/

/-- How many conditions a summary shows. -/
def maxSummaryConditions : Nat := 3

/-- The name of a trigger that has none. -/
def defaultTriggerName (position : Nat) : Text := ("Trigger #" : Text) ++ Text.ofNat (position + 1)

/-- A text, or another one in place of the empty text. -/
def orElse (t fallback : Text) : Text := if t.isEmpty then fallback else t

/-- The identifiers of the tags at some positions; a position without a tag gives none. -/
def tagsAt (tagIds : List Text) (positions : List Int) : List Text :=
  positions.filterMap fun i => if i < 0 then none else tagIds[i.toNat]?

/-- The trigger of a raw rule. -/
def decodeTrigger (rule : Data) (position : Nat) (shape : RuleShape) (predicates : List Data)
    (entities : Members Data) (tagIds : List Text) : Except Fault Trigger := do
  let conditions ← resolve shape.conditions predicates
  let exceptions ← resolve shape.exceptions predicates
  let event ← eventName conditions
  let summary ← (conditions.take maxSummaryConditions).mapM (·.describe)
  let exceptionSummary ← exceptions.mapM (·.describe)
  let name ← triggerName rule entities (conditions.map (·.operand)) (defaultTriggerName position)
  let type ← triggerType conditions event
  return {
    id := triggerId position
    position, name, type
    eventName := event
    conditions := orElse (Text.join " AND " summary) "All Pages"
    exceptions := orElse (Text.join " OR " exceptionSummary) "None"
    tagIds := tagsAt tagIds shape.fires
    raw := rule }

/-- The trigger of a raw rule that cannot be decoded. -/
def undecodedTrigger (rule : Data) (position : Nat) : Trigger where
  id := triggerId position
  position := position
  name := defaultTriggerName position
  raw := rule

/-! ## Variables -/

/-- The identifier of a variable: its function, else its position. -/
def variableId (function : Text) (position : Nat) : Text :=
  orElse function (("var_" : Text) ++ Text.ofNat position)

/-- The name of a variable that has none. -/
def defaultVariableName (function : Text) (position : Nat) : Text :=
  ("Variable #" : Text) ++ Text.ofNat (position + 1) ++ (" (" : Text) ++
    orElse function "unknown" ++ (")" : Text)

/-- What a variable is set to, in words: its name, or else its component, value or script. -/
def mainDetail (members : Members Data) (function : Text) : Except Fault (List Text) :=
  let member (key : String) := Data.getD members key
  let name := member "vtp_name"
  let labelled (label : String) (d : Data) : Except Fault (List Text) := do
    return [(label : Text) ++ (← d.display)]
  if name.isTruthy then
    if function = dataLayerFunction then do
      let version := member "vtp_dataLayerVersion"
      let path ← name.display
      let suffix ← if version.isTruthy then do
          let shown ← version.display
          pure ((" (v" : Text) ++ shown ++ (")" : Text))
        else pure []
      return [("dataLayer: " : Text) ++ path ++ suffix]
    else if function = ("__k" : Text) then labelled "Cookie: " name
    else if function = ("__j" : Text) then labelled "Global: " name
    else labelled "Name: " name
  else if (member "vtp_component").isTruthy then labelled "URL component: " (member "vtp_component")
  else
    match member "vtp_value", member "vtp_javascript" with
    | .null, script@(.text _) | .null, script@(.array _) =>
      if function = ("__jsm" : Text) then do
        let length := (← summaryText script).length
        return [("Custom script (" : Text) ++ Text.ofNat length ++ (" chars)" : Text)]
      else .ok []
    | .null, _ => .ok []
    | value, _ => do return [("Value: " : Text) ++ (← summaryText value).take 50]

/-- How many entries the table of a variable has, in words. -/
def tableDetail (members : Members Data) : List Text :=
  match members.get? "vtp_map" with
  | some (.array (head :: entries)) =>
    if head.isText "list" then [Text.ofNat entries.length ++ (" mapping(s)" : Text)] else []
  | _ => []

/-- The default of a variable, if it is switched on. -/
def defaultOf (members : Members Data) : Except Fault (Option Text) :=
  if isOn (Data.getD members "vtp_setDefaultValue") then
    (summaryText (Data.getD members "vtp_defaultValue")).map some
  else .ok none

/-- A variable in a few words. -/
def summarizeVariable (record : Data) : Except Fault Text :=
  match record with
  | .object members => do
    let main ← mainDetail members (functionOf record)
    let default ← defaultOf members
    return Text.join "; " (main ++ tableDetail members ++
      (default.map fun t => ("default: " : Text) ++ t).toList)
  | _ => .error .noMembers

/-- The record of a raw variable. -/
def decodeVariable (record : Data) (position : Nat) : Except Fault Variable :=
  match record with
  | .object members => do
    let function := functionOf record
    let default ← defaultOf members
    let path :=
      if function = dataLayerFunction then
        ((Members.get? members "vtp_name").bind Data.text?).getD []
      else []
    let name ← variableName record (defaultVariableName function position)
    let details ← summarizeVariable record
    return {
      id := variableId function position
      position, name, details
      type := variableType record
      defaultValue := default.getD []
      dataLayerPath := path
      raw := record }
  | _ => .error (.notMap "macro" position record.shape)

/-- The record of a raw variable that cannot be decoded. -/
def undecodedVariable (record : Data) (position : Nat) : Variable where
  id := variableId (functionOf record) position
  position := position
  name := defaultVariableName (functionOf record) position
  raw := record

/-! ## Documents -/

section

variable {α β : Type} (operation : Text) (decode : Nat → α → Except Fault β)
  (placeholder : Nat → α → β)

/-- The records so far, in reverse, with that of one more raw record. -/
def guardStep (state : List β × Ledger) (entry : α × Nat) : List β × Ledger :=
  let (raw, i) := entry
  let (record?, ledger) := state.2.guard operation [("position", .int i)] (decode i raw)
  (record?.getD (placeholder i raw) :: state.1, ledger)

/-- The records of a list of raw ones, each guarded by itself. `decode` takes the position and the
raw record, and `placeholder` stands for a record that it fails on. -/
def guardAll (raws : List α) (ledger : Ledger) : List β × Ledger :=
  let (records, ledger) := raws.zipIdx.foldl (guardStep operation decode placeholder) ([], ledger)
  (records.reverse, ledger)

end

/-- The component that issues of decoding are recorded under. -/
def decoderName : Text := "ContainerDecoder"

/-- A decoder of documents, which may decode one after another. -/
structure Decoder where
  name : Text := decoderName
  /-- The issues of the last document that were not handed over; none before the first document. -/
  ledger : Option Ledger := none

namespace Decoder

/-- The model of a document, with its issues, and the decoder afterwards. It fails only where a tag
has no identifier that can be written; the issues up to there stay with the decoder. -/
def decode (d : Decoder) (doc : Document) : Except Fault Model × Decoder :=
  let ledger : Ledger := { component := d.name }
  let (shapes, ledger) :=
    guardAll "normalize_rule" (fun _ => RuleShape.ofData) (fun _ _ => {}) doc.rules ledger
  match doc.tags.zipIdx.mapM fun (tag, i) => tagIdentifier tag i with
  | .error fault => (.error fault, { d with ledger := some ledger })
  | .ok tagIds =>
    let links := Links.ofShapes shapes
    let (tags, ledger) := guardAll "decode_tag"
      (fun i tag => decodeTag tag i doc.entities (links.firing.get i) (links.blocking.get i))
      (fun i tag =>
        undecodedTag tag i ((tagIds[i]?).getD []) (links.firing.get i) (links.blocking.get i))
      doc.tags ledger
    let (triggers, ledger) := guardAll "decode_trigger"
      (fun i (rule, shape) => decodeTrigger rule i shape doc.predicates doc.entities tagIds)
      (fun i (rule, _) => undecodedTrigger rule i)
      (doc.rules.zip shapes) ledger
    let (vars, ledger) := guardAll "decode_variable" (fun i record => decodeVariable record i)
      (fun i record => undecodedVariable record i)
      doc.macros ledger
    let (issues, ledger) := ledger.drain
    (.ok { tags, triggers, vars, issues }, { d with ledger := some ledger })

/-- The decoder after some documents, whether or not it could decode them. -/
def after (d : Decoder) (earlier : List Document) : Decoder :=
  earlier.foldl (fun d doc => (d.decode doc).2) d

end Decoder

end Container

/-- The model of a document, decoded by a new decoder with the name `component`. -/
def Model.ofDocument (doc : Document) (component : Text) : Except Fault Model :=
  (Container.Decoder.decode { name := component } doc).1

end TagAudit
