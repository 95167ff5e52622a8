import TagAudit.Container.Decode
import TagAudit.Container.Identifier
import TagAudit.Fetch.Exchange
import TagAudit.Inspection.Report
import TagAudit.Issue.Ledger
import TagAudit.Report.Diagnostics
import TagAudit.Table.Files
import TagAudit.Vendor.Scan

/-!
# Inspecting

An inspection fetches the source of a container, finds and decodes the container in it, scans the
source for vendors, and writes tables. It ends with a report: what fails on the way is an issue of
the report, or its status. Fetchers and writers from outside the program may raise what cannot be
told in a report, though, and then there is none.

* `Inspector.inspectSource` inspects a source that is there already.
* `Inspector.inspect` fetches the source first.
* `inspectSourceNext` and `inspectNext` are the same for an inspector that was used before: `Kept`
  is what it keeps from one inspection to the next.
-/

namespace TagAudit

/-! ## Tables -/

/-- A table of rows. -/
def Table.ofRows (name : Text) (columns : List Text) (rows : List Row) : Table :=
  { name, columns, rows := rows.map .object }

/-- The table of the rows of records. -/
def tableOf {α : Type} (name : Text) (columns : List Text) (toRow : α → Except Fault Row)
    (records : List α) : Except Fault Table := do
  return Table.ofRows name columns (← records.mapM toRow)

/-- The tables of a model and of the identifiers found with it, in the order in which they are
written. A table fails if a raw record has no text. -/
def recordTables (container : Text) (model : Model) (vendors : List VendorHit) :
    List (Except Fault Table) := [
  tableOf "GTM_Tags" tagColumns (·.toRow container) model.tags,
  tableOf "GTM_Triggers" triggerColumns (·.toRow container) model.triggers,
  tableOf "GTM_Variables" variableColumns (·.toRow container) model.vars,
  tableOf "GTM_Vendors" vendorColumns (fun hit => .ok (hit.toRow container)) vendors]

/-- The table of diagnostics. -/
def debugTable (d : Diagnostics) : Table := Table.ofRows "GTM_Debug" Diagnostics.columns d.toRows

/-- The store that the settings ask for; none without a directory. -/
def OutputSettings.store? (s : OutputSettings) : Option FileStore :=
  s.directory.map fun directory => { directory, format := s.format }

variable {m : Type → Type} [Monad m] {σ : Type}

/-- Writes tables until one fails. -/
def writeAll (writer : TableWriter m σ) (sink : σ) : List (Except Fault Table) →
    m (Except Raised Unit × σ)
  | [] => return (.ok (), sink)
  | .error fault :: _ => return (.error (.fault fault), sink)
  | .ok table :: rest => do
    match ← writer sink table with
    | (.ok (), sink) => writeAll writer sink rest
    | (.error raised, sink) => return (.error raised, sink)

/-! ## Inspecting -/

/-- What inspections are made with. -/
structure Inspector (m : Type → Type) (σ : Type) where
  settings : Settings
  fetcher : Fetcher m
  writer : TableWriter m σ

namespace Inspector

/-- The component that issues of inspecting are recorded under. -/
def name : Text := "ContainerInspector"

/-- What the issues of a stage say about its circumstances. -/
def context (container : Text) : Members Data := [("container_id", .text container)]

/-- What an inspector keeps from one inspection to the next. -/
structure Kept where
  /-- The issues that were not handed over; none before the first inspection. -/
  ledger : Option Ledger := none
  decoder : Container.Decoder := {}

namespace Kept

/-- A ledger without issues. -/
def emptyLedger : Ledger := { component := name }

/-- The ledger in use, a new one if there is none. -/
def ledgerInUse (kept : Kept) : Ledger := kept.ledger.getD emptyLedger

/-- What is kept when an inspection begins: a new ledger, and the decoder as it is. -/
def renewed (kept : Kept) : Kept := { kept with ledger := some emptyLedger }

end Kept

/-- The model of a located document, and the decoder afterwards; the empty model if there is no
document, or if decoding fails. -/
def decodeNext (decoder : Container.Decoder) (container : Text) (doc : Document) (ledger : Ledger) :
    Model × Container.Decoder × Ledger :=
  if doc.located then
    let (outcome, decoder) := decoder.decode doc
    let (model?, ledger) := ledger.guard "decode" (context container) outcome
    (model?.getD {}, decoder, ledger)
  else ({}, decoder, ledger)

/-- The model of a located document by a new decoder. -/
def decodeStage (container : Text) (doc : Document) (ledger : Ledger) : Model × Ledger :=
  let (model, _, ledger) := decodeNext {} container doc ledger
  (model, ledger)

/-- The identifiers in a source; none if they cannot be told. -/
def scanStage (source : Text) (tags : List Tag) (ledger : Ledger) : List VendorHit × Ledger :=
  ledger.attempt "scan_vendors" .low .dataQuality []
    (Vendor.scan Vendor.Library.standard source tags)

/-- Whether writing can be told, and the ledger after it. -/
def writeStage (operation container : Text) (outcome : Except Raised Unit) (ledger : Ledger) :
    Except Raised Unit × Ledger :=
  let (told, ledger) := ledger.watch operation (context container) outcome
  (told.map fun _ => (), ledger)

variable [Host m]

/-- Milliseconds since a moment. -/
def elapsedSince (started : Nat) : m Nat := return (← Host.ticks) - started

/-- Writes the table of diagnostics, if the settings ask for it. -/
def writeDebug (i : Inspector m σ) (container source : Text) (sink : σ) (ledger : Ledger) :
    m ((Except Raised Unit × Ledger) × σ) := do
  if i.settings.output.writeDebug then
    let (outcome, sink) ← i.writer sink (debugTable (Diagnostics.of source container (← Host.now)))
    return (writeStage "write_debug" container outcome ledger, sink)
  else return ((.ok (), ledger), sink)

/-- Writes all tables to a sink, if there is one. What cannot be told ends the writing. -/
def writeTables (i : Inspector m σ) (container source : Text) (model : Model)
    (vendors : List VendorHit) (sink : Option σ) (ledger : Ledger) :
    m ((Except Raised Unit × Ledger) × Option σ) := do
  match sink with
  | none => return ((.ok (), ledger), none)
  | some sink => do
    let (outcome, sink) ← writeAll i.writer sink (recordTables container model vendors)
    match writeStage "write_tables" container outcome ledger with
    | (.ok (), ledger) => do
      let (told, sink) ← i.writeDebug container source sink ledger
      return (told, some sink)
    | (.error raised, ledger) => return ((.error raised, ledger), some sink)

/-- The report of a source, with the issues that a ledger has at the end. -/
def reportOf (container source : Text) (doc : Document) (model : Model) (vendors : List VendorHit)
    (issues : List Issue) (started : Nat) : m Report := do
  let model := { model with issues := model.issues ++ issues }
  return {
    container
    status := if doc.located then .success else .parseFailed
    strategy := doc.strategy
    tagCount := model.tags.length
    triggerCount := model.triggers.length
    variableCount := model.vars.length
    vendorCount := vendors.length
    issueCount := model.issues.length
    sourceLength := source.length
    error := if doc.located then none else some "Could not locate container data in source"
    startedAt := ← Host.now
    elapsed := ← elapsedSince started
    model
    vendors }

/-- Inspects a source of a container with a known identifier. -/
def process (i : Inspector m σ) (kept : Kept) (sink : Option σ) (container source : Text)
    (started : Nat) : m (Except Uncaught Report × Kept × Option σ) := do
  let doc := Source.locate i.settings.locator source container
  let (model, decoder, ledger) := decodeNext kept.decoder container doc kept.ledgerInUse
  let (vendors, ledger) := scanStage source model.tags ledger
  let ((told, ledger), sink) ← i.writeTables container source model vendors sink ledger
  match told with
  | .error raised => return (.error (.raised raised), { ledger := some ledger, decoder }, sink)
  | .ok () => do
    let (issues, ledger) := ledger.drain
    let report ← reportOf container source doc model vendors issues started
    return (.ok report, { ledger := some ledger, decoder }, sink)

/-- Inspects a source that is there already, with what earlier inspections left. -/
def inspectSourceNext (i : Inspector m σ) (kept : Kept) (sink : Option σ)
    (container source : Text) : m (Except Uncaught Report × Kept × Option σ) := do
  i.process kept.renewed sink container.strip source (← Host.ticks)

/-- Inspects a source that is there already. -/
def inspectSource (i : Inspector m σ) (sink : Option σ) (container source : Text) :
    m (Except Uncaught Report × Option σ) := do
  let (outcome, _, sink) ← i.inspectSourceNext {} sink container source
  return (outcome, sink)

/-- What a report says of a failure to fetch: the number of its status, and the words for it. They
are asked for in the order in which the log and the report need them. -/
def reasonOf : FetchFailure → Except Uncaught (Option Int × Text)
  | .status code words => do
    discard (code.shown.mapError .raised)
    let words ← words.mapError .raised
    let number ← code.number.mapError fun complaint => .refused [⟨["status_code"], complaint⟩]
    return (number, words)
  | .transport words => return (none, ← words.mapError .raised)
  | .raised raised => do
    let fault ← raised.told.mapError .raised
    return (none, fault.kind.name ++ (": " : Text) ++ fault.message)

/-- The report of a container that was not fetched. -/
def notFetched (container : Text) (reason : Option Int × Text) (started : Nat) : m Report := do
  return {
    container
    status := .fetchFailed
    statusCode := reason.1
    error := some reason.2
    startedAt := ← Host.now
    elapsed := ← elapsedSince started }

/-- The report of an identifier that is none of a container. -/
def notIdentified (container : Text) (started : Nat) : m Report := do
  return {
    container
    status := .invalidContainer
    error := some "Container id must look like GTM-XXXXXXX"
    startedAt := ← Host.now
    elapsed := ← elapsedSince started }

/-- Fetches a container and inspects its source, with what earlier inspections left. -/
def inspectNext (i : Inspector m σ) (kept : Kept) (sink : Option σ) (container : Text) :
    m (Except Uncaught Report × Kept × Option σ) := do
  let container := container.strip
  let started ← Host.ticks
  let kept := kept.renewed
  if Container.isIdentifier container then
    match ← i.fetcher container with
    | .ok source => i.process kept sink container source started
    | .error failure =>
      match reasonOf failure with
      | .error uncaught => return (.error uncaught, kept, sink)
      | .ok reason => return (.ok (← notFetched container reason started), kept, sink)
  else return (.ok (← notIdentified container started), kept, sink)

/-- Fetches a container and inspects its source. -/
def inspect (i : Inspector m σ) (sink : Option σ) (container : Text) :
    m (Except Uncaught Report × Option σ) := do
  let (outcome, _, sink) ← i.inspectNext {} sink container
  return (outcome, sink)

end Inspector

end TagAudit
