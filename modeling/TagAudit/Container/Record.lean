import TagAudit.Data.Display
import TagAudit.Issue.Basic
import TagAudit.Json.Printer

/-!
# Records of a container

Normalised tags, triggers and variables, the vendor identifiers of a source, and the rows that they
make in tables.

* `rawColumn` is the text of a raw record in a row.
* `toRow` of each kind of record gives its row, in the order of its columns.
-/

namespace TagAudit

/-- A row of a table: cells by column. -/
abbrev Row := Members Data

/-- How often a tag may fire. -/
inductive FiringOption where
  | unlimited
  | oncePerEvent
  | oncePerPage
deriving DecidableEq

/-- The label of a firing option. -/
def FiringOption.label : FiringOption → Text
  | unlimited => "Unlimited"
  | oncePerEvent => "Once per event"
  | oncePerPage => "Once per page"

/-- A normalised tag. -/
structure Tag where
  id : Text
  /-- Position among the tags of the container. -/
  position : Nat
  name : Text := []
  type : Text := "Unknown"
  vendor : Text := "Other/Unknown"
  /-- A higher priority fires earlier. -/
  priority : Int := 0
  /-- Triggers that fire the tag. -/
  firing : List Text := []
  /-- Triggers that block the tag. -/
  blocking : List Text := []
  /-- Categories of consent that the tag asks for, each once and in order; none if it does not
  say. -/
  consent : Option (List Text) := none
  firingOption : FiringOption := .unlimited
  /-- Tags that run before. -/
  setup : List Text := []
  /-- Tags that run after. -/
  teardown : List Text := []
  raw : Data

/-- A trigger, made of a rule and the predicates that it refers to. -/
structure Trigger where
  id : Text
  /-- Position among the rules of the container. -/
  position : Nat
  name : Text := []
  type : Text := "Custom Trigger"
  /-- The event that the rule tests for; empty if none. -/
  eventName : Text := []
  conditions : Text := "All Pages"
  exceptions : Text := "None"
  /-- Tags that the rule fires. -/
  tagIds : List Text := []
  raw : Data

/-- A normalised variable. -/
structure Variable where
  id : Text
  /-- Position among the variables of the container. -/
  position : Nat
  name : Text := []
  type : Text := "Unknown"
  /-- Shown only if the default is switched on. -/
  defaultValue : Text := []
  /-- Set only for variables that read the data layer. -/
  dataLayerPath : Text := []
  details : Text := []
  raw : Data

/-- An identifier of a third party in a source. -/
structure VendorHit where
  vendor : Text
  idType : Text
  idValue : Text
  extra : Text := []
deriving DecidableEq

/-- What tells vendor hits apart. -/
def VendorHit.key (hit : VendorHit) : Text × Text × Text := (hit.vendor, hit.idType, hit.idValue)

/-- The normalised records of a container, with the issues of making them. -/
structure Model where
  tags : List Tag := []
  triggers : List Trigger := []
  vars : List Variable := []
  issues : List Issue := []

/-- Whether a model has no records. -/
def Model.isEmpty (m : Model) : Bool :=
  m.tags.isEmpty && m.triggers.isEmpty && m.vars.isEmpty

/-! ## Rows -/

/-- A raw record as text; what JSON cannot hold is displayed instead. -/
def rawColumn (raw : Data) : Except Fault Text :=
  match Json.write .compact raw with
  | .ok t => .ok t
  | .error _ => raw.display

/-- Texts separated by commas. -/
def commaList (parts : List Text) : Text := Text.join ", " parts

/-- The columns of the table of tags. -/
def tagColumns : List Text := [
  "containerId", "id", "name", "type", "vendor", "priority", "triggers", "consent", "firingOption",
  "setupTags", "raw"]

/-- The columns of the table of triggers. -/
def triggerColumns : List Text := [
  "containerId", "id", "name", "type", "eventName", "conditionsSummary", "exceptions", "raw"]

/-- The columns of the table of variables. -/
def variableColumns : List Text := [
  "containerId", "id", "name", "type", "defaultValue", "dataLayerPath", "detailsSummary", "raw"]

/-- The columns of the table of vendor identifiers. -/
def vendorColumns : List Text := ["containerId", "vendor", "type", "id", "extra"]

/-- The consent that a tag asks for, as text. -/
def Tag.consentLabel (tag : Tag) : Text :=
  match tag.consent with
  | none | some [] => "None"
  | some tokens => commaList tokens

/-- The row of a tag. -/
def Tag.toRow (tag : Tag) (container : Text) : Except Fault Row := do
  let raw ← rawColumn tag.raw
  return tagColumns.zip [.text container, .text tag.id, .text tag.name, .text tag.type,
    .text tag.vendor, .int tag.priority, .text (commaList tag.firing), .text tag.consentLabel,
    .text tag.firingOption.label, .text (commaList tag.setup), .text raw]

/-- The row of a trigger. -/
def Trigger.toRow (trigger : Trigger) (container : Text) : Except Fault Row := do
  let raw ← rawColumn trigger.raw
  return triggerColumns.zip [.text container, .text trigger.id, .text trigger.name,
    .text trigger.type, .text trigger.eventName, .text trigger.conditions,
    .text trigger.exceptions, .text raw]

/-- The row of a variable. -/
def Variable.toRow (v : Variable) (container : Text) : Except Fault Row := do
  let raw ← rawColumn v.raw
  return variableColumns.zip [.text container, .text v.id, .text v.name, .text v.type,
    .text v.defaultValue, .text v.dataLayerPath, .text v.details, .text raw]

/-- The row of a vendor identifier. -/
def VendorHit.toRow (hit : VendorHit) (container : Text) : Row :=
  vendorColumns.zip [.text container, .text hit.vendor, .text hit.idType, .text hit.idValue,
    .text hit.extra]

end TagAudit
