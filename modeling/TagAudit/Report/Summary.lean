import TagAudit.Container.Record
import TagAudit.Host.Moment
import TagAudit.Vendor.Scan
import TagAudit.Yaml.Writer

/-!
# Summaries

An overview of a container: totals, its records grouped by kind, and the identifiers of vendors.

* `groupBy` groups records by a label, the groups in the order of their labels.
* `Summary.of` is the overview of a model.
* `Summary.render` writes it as text, JSON or YAML.
-/

namespace TagAudit

/-- A label, how many records bear it, and what is worth knowing about those. -/
structure Group where
  label : Text
  count : Nat
  related : List Text := []
deriving DecidableEq

namespace Group

/-- The label of records without one. -/
def unlabelled : Text := "Unknown"

/-- A label, or the one of records without. -/
def labelOf (label : Text) : Text := if label.isEmpty then unlabelled else label

/-- Texts that are not empty, each once, in order of first appearance. -/
def distinctLabels (labels : List Text) : List Text :=
  Vendor.distinct (labels.filter fun t => !t.isEmpty)

end Group

/-- Records grouped by a label, the groups in the order of their labels. -/
def groupBy {α : Type} (label : α → Text) (related : List α → List Text) (records : List α) :
    List Group :=
  let labelled := records.map fun r => (Group.labelOf (label r), r)
  (Text.sort (Vendor.distinct (labelled.map (·.1)))).map fun key =>
    let members := (labelled.filter fun (k, _) => decide (k = key)).map (·.2)
    { label := key, count := members.length, related := related members }

/-- A tag as the complete list shows it. -/
structure TagLine where
  name : Text
  type : Text
  vendor : Text
  triggers : Text
  teardown : Text
deriving DecidableEq

/-- The overview of a container. -/
structure Summary where
  container : Text
  generatedAt : Moment
  tags : Nat
  triggers : Nat
  vars : Nat
  tagsByVendor : List Group
  tagsByType : List Group
  variablesByType : List Group
  triggersByType : List Group
  vendors : List VendorHit
  tagLines : List TagLine

/-- The formats of a summary. -/
inductive SummaryFormat where
  | text
  | json
  | yaml
deriving DecidableEq

/-- The format of a name in any case; what is no name of a format stands for text. -/
def SummaryFormat.ofName (name : Text) : SummaryFormat :=
  let name := name.lower
  if name = ("json" : Text) then .json else if name = ("yaml" : Text) then .yaml else .text

/-- The ending of a file that holds a summary. -/
def SummaryFormat.suffix : SummaryFormat → Text
  | .text => "txt"
  | .json => "json"
  | .yaml => "yaml"

namespace Summary

/-- How many variables of a type are named as examples. -/
def maxExamples : Nat := 3

/-- A name, or the identifier in its place. -/
def nameOr (name id : Text) : Text := if name.isEmpty then id else name

/-- The names of the first variables. -/
def examples (vars : List Variable) : List Text :=
  ((vars.take maxExamples).map fun v => nameOr v.name v.id).filter fun t => !t.isEmpty

/-- A tag as the complete list shows it. -/
def lineOf (tag : Tag) : TagLine where
  name := nameOr tag.name tag.id
  type := tag.type
  vendor := tag.vendor
  triggers := commaList tag.firing
  teardown := commaList tag.teardown

/-- The overview of a model and of the identifiers found with it. -/
def of (container : Text) (generatedAt : Moment) (model : Model) (vendors : List VendorHit) :
    Summary where
  container := container
  generatedAt := generatedAt
  tags := model.tags.length
  triggers := model.triggers.length
  vars := model.vars.length
  tagsByVendor :=
    groupBy (·.vendor) (fun tags => Group.distinctLabels (tags.map (·.type))) model.tags
  tagsByType := groupBy (·.type) (fun tags => Group.distinctLabels (tags.map (·.vendor))) model.tags
  variablesByType := groupBy (·.type) examples model.vars
  triggersByType := groupBy (·.type) (fun _ => []) model.triggers
  vendors := vendors
  tagLines := model.tags.map lineOf

/-! ## As data -/

/-- An object of text keys. -/
def fields (entries : List (String × Data)) : List (Text × Data) :=
  entries.map fun (k, v) => ((k : Text), v)

/-- A number of records. -/
def number (n : Nat) : Data := .int n

/-- Groups as an object by label, with the related labels under a key. -/
def groupsAsData (related : String) (groups : List Group) : Data :=
  .object (Members.ofList (groups.map fun g =>
    (g.label, .object (fields [("count", number g.count),
      (related, .array (g.related.map .text))]))))

/-- The members of a summary. -/
def toMembers (s : Summary) : Members Data := fields [
  ("container_id", .text s.container),
  ("generated_at", .text s.generatedAt.iso),
  ("totals", .object (fields [
    ("tags", number s.tags),
    ("triggers", number s.triggers),
    ("variables", number s.vars),
    ("vendor_ids", number s.vendors.length)])),
  ("tags_by_vendor", groupsAsData "types" s.tagsByVendor),
  ("tags_by_type", groupsAsData "vendors" s.tagsByType),
  ("variables_by_type", groupsAsData "examples" s.variablesByType),
  ("triggers_by_type", .object (Members.ofList (s.triggersByType.map fun g =>
    (g.label, number g.count)))),
  ("vendor_ids", .array (s.vendors.map fun hit => .object (fields [
    ("vendor", .text hit.vendor),
    ("type", .text hit.idType),
    ("id", .text hit.idValue),
    ("notes", .text hit.extra)]))),
  ("tags", .array (s.tagLines.map fun line => .object (fields [
    ("name", .text line.name),
    ("type", .text line.type),
    ("vendor", .text line.vendor),
    ("triggers", .text line.triggers),
    ("teardown", .text line.teardown)])))]

/-! ## As text -/

/-- A title with a rule below it. -/
def heading (title : String) : List Text := [title, Text.replicate 20 "-"]

/-- A label and a number behind it. -/
def counted (label : Text) (n : Nat) : Text := label ++ (": " : Text) ++ Text.ofNat n

/-- A section of groups; nothing if there are none. -/
def groupSection (title : String) (groups : List Group) : List Text :=
  if groups.isEmpty then []
  else
    heading title ++ groups.map (fun g =>
      ("  " : Text) ++ counted g.label g.count ++
        (if g.related.isEmpty then []
         else (" [" : Text) ++ commaList g.related ++ ("]" : Text))) ++ [[]]

/-- The section of vendor identifiers; nothing if there are none. -/
def vendorSection (hits : List VendorHit) : List Text :=
  if hits.isEmpty then []
  else
    heading "VENDOR IDS DETECTED" ++ hits.map (fun hit =>
      ("  " : Text) ++ hit.vendor ++ (" " : Text) ++ hit.idType ++ (": " : Text) ++ hit.idValue ++
        (if hit.extra.isEmpty then [] else (" (" : Text) ++ hit.extra ++ (")" : Text))) ++ [[]]

/-- The complete list of tags; nothing if there are none. -/
def tagSection (lines : List TagLine) : List Text :=
  if lines.isEmpty then []
  else
    heading "COMPLETE TAG LIST" ++ lines.map (fun line =>
      ("  " : Text) ++ Text.join " | " [line.name, line.type, line.vendor, line.triggers] ++
        (if line.teardown.isEmpty then [] else (" | teardown: " : Text) ++ line.teardown)) ++ [[]]

/-- The lines of a summary; the complete list of tags only if asked for. -/
def lines (s : Summary) (verbose : Bool) : List Text :=
  [("GTM CONTAINER SUMMARY" : Text), Text.replicate 50 "=",
    ("Container ID: " : Text) ++ s.container,
    ("Generated: " : Text) ++ s.generatedAt.shown, []] ++
  heading "EXECUTIVE SUMMARY" ++
  [counted "Total Tags" s.tags, counted "Total Triggers" s.triggers,
    counted "Total Variables" s.vars, counted "Detected Vendors" s.vendors.length, []] ++
  groupSection "TAGS BY VENDOR" s.tagsByVendor ++
  groupSection "TAGS BY TYPE" s.tagsByType ++
  vendorSection s.vendors ++
  groupSection "VARIABLES BY TYPE" s.variablesByType ++
  groupSection "TRIGGER TYPES" s.triggersByType ++
  (if verbose then tagSection s.tagLines else [])

/-- A summary in some format. -/
def render (s : Summary) (format : SummaryFormat) (verbose : Bool) : Except Fault Text :=
  match format with
  | .text => .ok (Text.join "\n" (s.lines verbose))
  | .json => Json.write (.indented true) (.object s.toMembers)
  | .yaml => Yaml.write s.toMembers

end Summary

end TagAudit
