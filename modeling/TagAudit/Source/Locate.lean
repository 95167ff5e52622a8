import TagAudit.Container.Document
import TagAudit.Literal.Evaluation
import TagAudit.Pattern.Basic
import TagAudit.Source.Span

/-!
# Locating a container in a source

The configuration is found by a cascade of strategies, most specific first. A strategy that fails
for any reason counts as having found nothing, and the last one tries the longest balanced spans of
the source.

* `Strategy.find` is what one strategy finds.
* `locate` is the document of the first strategy that finds something.
* `scanCandidates` ranks the spans of the exhaustive scan.
-/

namespace TagAudit.Source

/-- Bounds on the cost of locating. -/
structure Limits where
  /-- How far the end of a span is looked for. -/
  window : Nat := 5000000
  /-- How many opening braces the exhaustive scan considers, the last ones of the source. -/
  bracePositions : Nat := 1000
  /-- A span of the exhaustive scan has to be longer than this. -/
  minLength : Nat := 5000
  /-- How many spans the exhaustive scan reads. -/
  maxCandidates : Nat := 20
  /-- How many code points at the end the exhaustive scan leaves out. -/
  tailMargin : Nat := 100
deriving DecidableEq

/-- The strategies of the cascade. -/
inductive Strategy where
  | varData
  | directAssignment
  | pushCall
  | indexedAssignment
  | legacyResource
  | exhaustiveScan
deriving DecidableEq

/-- The cascade, in order. -/
def Strategy.cascade : List Strategy :=
  [.varData, .directAssignment, .pushCall, .indexedAssignment, .legacyResource, .exhaustiveScan]

/-- The name of a strategy in documents. -/
def Strategy.name : Strategy → Text
  | varData => "var_data_assignment"
  | directAssignment => "direct_container_assignment"
  | pushCall => "push_call"
  | indexedAssignment => "indexed_container_assignment"
  | legacyResource => "legacy_resource"
  | exhaustiveScan => "exhaustive_scan"

/-! ## The shape of a container -/

/-- The keys of which a container has at least one. -/
def containerKeys : List Text := ["tags", "macros", "predicates", "rules"]

/-- Whether a value has the shape of a container. -/
def looksLikeContainer : Data → Bool
  | .object members => containerKeys.any (Members.has members)
  | _ => false

/-- The object under the key `resource` if there is one, else the value itself. -/
def unwrapResource (d : Data) : Data :=
  match d.get? "resource" with
  | some (.object members) => .object members
  | _ => d

/-- The members of a container, out of its resource wrapper. -/
def accept? (d : Data) : Option (Members Data) :=
  let inner := unwrapResource d
  if looksLikeContainer inner then inner.members? else none

/-! ## Patterns of assignments -/

/-- `var data = {` -/
def varDataPattern : Pattern :=
  .all [.literal "var", .many .blanks 1 none, .literal "data", .gap, .literal "=", .gap,
    .literal "\x7b"]

/-- `google_tag_manager["ID"] = {` -/
def directPattern (id : Text) : Pattern :=
  .all [.literal "google_tag_manager[\"", .literal id, .literal "\"]", .gap, .literal "=", .gap,
    .literal "\x7b"]

/-- `.push({` -/
def pushPattern : Pattern :=
  .all [.literal ".push", .gap, .literal "(", .gap, .literal "\x7b"]

/-- `google_tag_manager ['ID'] = {` -/
def indexedPattern (id : Text) : Pattern :=
  let mark := Pattern.one (.anyOf "\"'")
  .all [.literal "google_tag_manager", .gap, .literal "[", .gap, mark, .literal id, mark, .gap,
    .literal "]", .gap, .literal "=", .gap, .literal "\x7b"]

/-- `{"resource": {` -/
def resourcePattern : Pattern :=
  .all [.literal "\x7b", .gap, .literal "\"resource\"", .gap, .literal ":", .gap,
    .literal "\x7b"]

/-! ## Strategies -/

/-- The value of strict JSON. -/
def readStrict? (text : Text) : Option Data := (Json.read text).toOption

/-- The span that opens with the last code point of the first match of a pattern. -/
def spanAfter? (limits : Limits) (p : Pattern) (text : Text) : Option Text :=
  (p.search? text).bind fun m => balanced limits.window m.last

/-- What a push call passes, if it is a container. -/
def pushed? (limits : Limits) (m : Pattern.Match) : Option (Members Data) := do
  let span ← balanced limits.window m.last
  let value ← readStrict? span
  let members ← value.members?
  if [("tags" : Text), "macros", "resource"].any (Members.has members) then accept? value else none

/-- The spans that the exhaustive scan reads: those at the last opening braces that are long enough,
by falling length and then by position. -/
def scanCandidates (limits : Limits) (text : Text) : List Text :=
  let starts := braces text (some limits.bracePositions) limits.tailMargin
  let spans := starts.filterMap fun (_, here) => balanced limits.window here
  let long := (spans.map fun s => (s.length, s)).filter fun s => limits.minLength < s.1
  let ranked := long.mergeSort fun a b => b.1 ≤ a.1
  (ranked.take limits.maxCandidates).map (·.2)

/-- A mapping with a list of tags or of variables. -/
def listed? (span : Text) : Option (Members Data) := do
  let members ← (← readStrict? span).members?
  let isList (key : Text) : Bool := ((Members.get? members key).bind Data.items?).isSome
  if isList "tags" || isList "macros" then some members else none

/-- What a strategy finds in a source. -/
def Strategy.find (limits : Limits) (text id : Text) : Strategy → Option (Members Data)
  | varData => do
    let span ← spanAfter? limits varDataPattern text
    accept? (← (Literal.evaluate span).toOption)
  | directAssignment => do
    let span ← spanAfter? limits (directPattern id) text
    accept? (← readStrict? span)
  | pushCall => (pushPattern.findAll text).findSome? (pushed? limits)
  | indexedAssignment => do
    let span ← spanAfter? limits (indexedPattern id) text
    accept? (← readStrict? span)
  | legacyResource => do
    let m ← resourcePattern.search? text
    let span ← balanced limits.window m.here
    let value ← readStrict? span
    match value.get? "resource" with
    | some (.object _) => accept? value
    | _ => none
  | exhaustiveScan => (scanCandidates limits text).findSome? listed?

/-- The document of the first strategy that finds a container; the empty document if none does. -/
def locate (limits : Limits) (text id : Text) : Document :=
  (Strategy.cascade.findSome? fun s =>
    (s.find limits text id).map fun members => Document.ofMembers members (some s.name)).getD {}

end TagAudit.Source
