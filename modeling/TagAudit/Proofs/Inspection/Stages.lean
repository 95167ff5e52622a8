import Mathlib.Data.List.Basic
import TagAudit.Host.Machine
import TagAudit.Inspection.Inspector
import TagAudit.Proofs.Container.Decoding
import TagAudit.Proofs.Outcome
import TagAudit.Table.Memory

/-!
# Stages of an inspection

An inspection of a source runs in five stages. A stage that fails leaves an issue and something for
the later stages to go on with: the empty model, no vendor identifiers, or the tables written so
far.

The sink may come from outside the program, and what it raises cannot always be told. Then the
inspection ends there, without a report.

* `Stage`, `issuesOf`: the stages in their order, and the issues of those that failed.
* `Subject`: a source with what is found in it before anything is written.
* `Writes`, `Writing`: how a sink is called, whatever it does on each call.
* `Tells`: sinks that raise only what can be told.
* `process_accounts`: an inspection runs through its stages and accounts for each, if all can be
  told.
* `inspectSourceNext_accounted`, `inspectSource_accounts`: so does an inspection of a source,
  whatever was inspected before.
* `inspectSource_wordless`: a sink that raises what cannot be put in words.
-/

namespace TagAudit.Inspection

open Inspector (Kept)
open Outcome

/-! ## Stages -/

/-- The stages of an inspection of a source. -/
inductive Stage where
  | locate
  | decode
  | scan
  | tables
  | debug

namespace Stage

/-- The stages in the order in which they run. -/
def all : List Stage := [.locate, .decode, .scan, .tables, .debug]

/-- The operation that issues of a stage name. -/
def name : Stage → Text
  | .locate => "locate"
  | .decode => "decode"
  | .scan => "scan_vendors"
  | .tables => "write_tables"
  | .debug => "write_debug"

/-- The issue of a stage that failed. Scanning has a severity of its own and tells no
circumstances; everywhere else the fault is classified. -/
def issue (container : Text) (stage : Stage) (fault : Fault) : Issue :=
  match stage with
  | .scan => { component := Inspector.name, operation := stage.name, severity := .low,
               category := .dataQuality, fault }
  | _ => Issue.ofFault Inspector.name stage.name (Inspector.context container) fault

/-- The ledger after a stage, with its issue if it failed. -/
def note (stage : Stage) (container : Text) (fault : Option Fault) (ledger : Ledger) : Ledger :=
  { ledger with issues := ledger.issues ++ (fault.map (stage.issue container)).toList }

end Stage

/-- The issues of the stages that failed, one for each, in the order of the stages. -/
def issuesOf (container : Text) (faults : Stage → Option Fault) : List Issue :=
  Stage.all.filterMap fun stage => (faults stage).map (stage.issue container)

/-- What an outcome failed with. -/
def fault? {ε α : Type} : Except ε α → Option ε
  | .ok _ => none
  | .error fault => some fault

/-- The fault that a stage with code from outside failed with, if any, or what telling it raises. -/
def toldOf : Option Raised → Except Raised (Option Fault)
  | none => .ok none
  | some raised => raised.told.map some

section

variable {α : Type} {ledger : Ledger} (hledger : ledger.component = Inspector.name)
  (container : Text) (outcome : Except Fault α)

include hledger

/-- A guarded stage, which is any but the scan. -/
theorem guard_eq_note {stage : Stage} (hstage : stage ≠ .scan) :
    ledger.guard stage.name (Inspector.context container) outcome =
      (outcome.toOption, stage.note container (fault? outcome) ledger) := by
  cases outcome with
  | ok value => simp [Ledger.guard, Stage.note, fault?, Except.toOption]
  | error fault =>
    cases stage with
    | scan => exact absurd rfl hstage
    | _ =>
      rw [Ledger.guard, hledger]
      rfl

theorem attempt_eq_note (default : α) :
    ledger.attempt Stage.scan.name .low .dataQuality default outcome =
      (outcome.toOption.getD default, Stage.scan.note container (fault? outcome) ledger) := by
  cases outcome with
  | ok value => simp [Ledger.attempt, Stage.note, fault?, Except.toOption]
  | error fault =>
    rw [Ledger.attempt, Ledger.issueOf, hledger]
    rfl

/-- A stage of writing. What cannot be told leaves the ledger alone. -/
theorem writeStage_eq {stage : Stage} (hstage : stage ≠ .scan) (outcome : Except Raised Unit) :
    Inspector.writeStage stage.name container outcome ledger =
      match toldOf (fault? outcome) with
      | .ok fault => (.ok (), stage.note container fault ledger)
      | .error failure => (.error failure, ledger) := by
  cases outcome with
  | ok => simp [Inspector.writeStage, Ledger.watch, Stage.note, fault?, toldOf, Except.map]
  | error raised =>
    cases raised with
    | wordless => rfl
    | fault fault =>
      cases stage with
      | scan => exact absurd rfl hstage
      | _ =>
        rw [Inspector.writeStage, Ledger.watch, Raised.told, hledger]
        rfl

end

/-! ## Finding -/

/-- A source of a container, with the bounds on locating and the component that issues of decoding
are recorded under. -/
structure Subject where
  limits : Source.Limits
  component : Text
  container : Text
  source : Text

namespace Subject

variable (s : Subject)

/-- The document in the source. -/
def document : Document := Source.locate s.limits s.source s.container

/-- What comes of decoding the document; nothing is decoded if none was located. -/
def decoding : Option (Except Fault Model) :=
  if s.document.located then some (Model.ofDocument s.document s.component) else none

/-- The model of the source, empty if there is none. -/
def model : Model := (s.decoding.bind Except.toOption).getD {}

/-- What comes of scanning. -/
def scanning : Except Fault (List VendorHit) :=
  Vendor.scan Vendor.Library.standard s.source s.model.tags

/-- The vendor identifiers in the source; none if scanning fails. -/
def vendors : List VendorHit := s.scanning.toOption.getD []

/-- The fault of each stage that failed, given those of the stages of writing. Locating does not
fail: a strategy that fails counts as having found nothing. -/
def faults (tables debug : Option Fault) : Stage → Option Fault
  | .locate => none
  | .decode => s.decoding.bind fault?
  | .scan => fault? s.scanning
  | .tables => tables
  | .debug => debug

section

variable (ledger : Ledger) (hledger : ledger.component = Inspector.name)

include hledger

/-- Decoding does not depend on what the decoder was used for before. -/
theorem decodeNext_eq {decoder : Container.Decoder} (hname : decoder.name = s.component) :
    ∃ decoder', decoder'.name = s.component ∧
      Inspector.decodeNext decoder s.container s.document ledger =
        (s.model, decoder', Stage.decode.note s.container (s.decoding.bind fault?) ledger) := by
  unfold Inspector.decodeNext model decoding
  split
  case isTrue =>
    refine ⟨_, (Container.decode_name decoder s.document).trans hname, ?_⟩
    have hguard := guard_eq_note hledger s.container (decoder.decode s.document).1
      (show Stage.decode ≠ .scan by nofun)
    rw [Stage.name] at hguard
    dsimp only
    rw [hguard, Container.decode_eq_ofDocument, hname]
    rfl
  case isFalse => exact ⟨decoder, hname, by simp [Stage.note]⟩

theorem scanStage_eq : Inspector.scanStage s.source s.model.tags ledger =
    (s.vendors, Stage.scan.note s.container (fault? s.scanning) ledger) :=
  attempt_eq_note hledger s.container s.scanning []

end

end Subject

/-! ## Writing -/

section

variable {ω σ : Type}

/-- Tables are written one after the other, from a sink and a world to those afterwards, until one
cannot be made or the sink raises something on it, which is what comes of it all. -/
inductive Writes (writer : TableWriter (StateM ω) σ) :
    List (Except Fault Table) → σ × ω → Option Raised → σ × ω → Prop where
  | done {state : σ × ω} : Writes writer [] state none state
  | unmade {fault : Fault} {rest : List (Except Fault Table)} {state : σ × ω} :
    Writes writer (.error fault :: rest) state (some (.fault fault)) state
  | refused {t : Table} {rest : List (Except Fault Table)} {sink sink' : σ} {world world' : ω}
    {raised : Raised} : writer sink t world = ((.error raised, sink'), world') →
    Writes writer (.ok t :: rest) (sink, world) (some raised) (sink', world')
  | written {t : Table} {rest : List (Except Fault Table)} {sink sink' : σ} {world world' : ω}
    {raised : Option Raised} {last : σ × ω} : writer sink t world = ((.ok (), sink'), world') →
    Writes writer rest (sink', world') raised last →
    Writes writer (.ok t :: rest) (sink, world) raised last

theorem writes_writeAll (writer : TableWriter (StateM ω) σ) (tables : List (Except Fault Table))
    (sink : σ) (world : ω) : ∃ outcome sink' world',
    writeAll writer sink tables world = ((outcome, sink'), world') ∧
      Writes writer tables (sink, world) (fault? outcome) (sink', world') := by
  induction tables generalizing sink world with
  | nil => exact ⟨_, _, _, rfl, .done⟩
  | cons table rest ih =>
    cases table with
    | error fault => exact ⟨_, _, _, rfl, .unmade⟩
    | ok t =>
      rw [writeAll, run_bind]
      cases hcall : writer sink t world with
      | mk out world' =>
        obtain ⟨outcome, sink'⟩ := out
        cases outcome with
        | error raised => exact ⟨_, _, _, rfl, .refused hcall⟩
        | ok =>
          obtain ⟨outcome, last, end', hrest, hwrites⟩ := ih sink' world'
          exact ⟨outcome, last, end', hrest, .written hcall hwrites⟩

/-- A writer that raises only what can be told. -/
def Tells (writer : TableWriter (StateM ω) σ) : Prop :=
  ∀ ⦃sink : σ⦄ ⦃t : Table⦄ ⦃world : ω⦄ ⦃raised : Raised⦄ ⦃sink' : σ⦄ ⦃world' : ω⦄,
    writer sink t world = ((.error raised, sink'), world') → ∃ fault, raised.told = .ok fault

/-- A fault can be told. -/
theorem told_of_mapError {α : Type} {outcome : Except Fault α} {raised : Raised}
    (h : outcome.mapError Raised.fault = .error raised) : ∃ fault, raised.told = .ok fault := by
  cases outcome with
  | ok => cases h
  | error fault =>
    cases h
    exact ⟨fault, rfl⟩

theorem Writes.told {writer : TableWriter (StateM ω) σ} (htells : Tells writer)
    {tables : List (Except Fault Table)} {state state' : σ × ω} {raised : Option Raised}
    (h : Writes writer tables state raised state') : ∃ fault, toldOf raised = .ok fault := by
  induction h with
  | done => exact ⟨none, rfl⟩
  | @unmade fault => exact ⟨some fault, rfl⟩
  | refused hcall =>
    obtain ⟨fault, hfault⟩ := htells hcall
    exact ⟨some fault, by rw [toldOf, hfault]; rfl⟩
  | written _ _ ih => exact ih

theorem tells_memoryStore : Tells (MemoryStore.writer (StateM ω)) := by
  intro store t world raised store' world' h
  have houtcome : (store.write t).1.mapError Raised.fault = .error raised := congrArg (·.1.1) h
  exact told_of_mapError houtcome

variable [Host (StateM ω)]

theorem tells_fileStore : Tells (FileStore.writer : TableWriter (StateM ω) FileStore) := by
  intro store t world raised store' world' h
  have houtcome : ((store.write t : StateM ω _) world).1.1.mapError Raised.fault =
      .error raised := congrArg (·.1.1) h
  exact told_of_mapError houtcome

/-- The stages of writing, from a sink and a world to those afterwards: the tables of records, and
then the table of diagnostics if the settings ask for it. Without a sink nothing is written. They
come to the faults of both, or to what telling one of them raises. -/
inductive Writing (i : Inspector (StateM ω) σ) (s : Subject) :
    Option σ × ω → Except Raised (Option Fault × Option Fault) → Option σ × ω → Prop where
  | noSink {world : ω} : Writing i s (none, world) (.ok (none, none)) (none, world)
  /-- Why the tables of records are not written cannot be told, and nothing else is written. -/
  | untold {sink sink' : σ} {world world' : ω} {raised : Option Raised} {failure : Raised} :
    Writes i.writer (recordTables s.container s.model s.vendors) (sink, world) raised
      (sink', world') →
    toldOf raised = .error failure →
    Writing i s (some sink, world) (.error failure) (some sink', world')
  | tables {sink sink' : σ} {world world' : ω} {raised : Option Raised} {fault : Option Fault} :
    i.settings.output.writeDebug = false →
    Writes i.writer (recordTables s.container s.model s.vendors) (sink, world) raised
      (sink', world') →
    toldOf raised = .ok fault →
    Writing i s (some sink, world) (.ok (fault, none)) (some sink', world')
  | debug {sink sink' sink'' : σ} {world world' world'' last : ω} {now : Moment}
    {raised raised' : Option Raised} {fault : Option Fault} :
    i.settings.output.writeDebug = true →
    Writes i.writer (recordTables s.container s.model s.vendors) (sink, world) raised
      (sink', world') →
    toldOf raised = .ok fault →
    (Host.now : StateM ω _) world' = (now, world'') →
    Writes i.writer [.ok (debugTable (Diagnostics.of s.source s.container now))] (sink', world'')
      raised' (sink'', last) →
    Writing i s (some sink, world) ((toldOf raised').map (fault, ·)) (some sink'', last)

variable {i : Inspector (StateM ω) σ} {s : Subject}

/-- Where all can be told, writing comes to faults at most. -/
theorem Writing.told (htells : Tells i.writer) {state state' : Option σ × ω}
    {faults : Except Raised (Option Fault × Option Fault)} (h : Writing i s state faults state') :
    ∃ tables debug, faults = .ok (tables, debug) := by
  cases h with
  | noSink => exact ⟨_, _, rfl⟩
  | untold hwrites huntold =>
    obtain ⟨fault, htold⟩ := hwrites.told htells
    rw [htold] at huntold
    cases huntold
  | tables => exact ⟨_, _, rfl⟩
  | debug _ _ _ _ hwrites =>
    obtain ⟨fault, htold⟩ := hwrites.told htells
    exact ⟨_, fault, by rw [htold]; rfl⟩

variable (i s)

variable (ledger : Ledger) (hledger : ledger.component = Inspector.name)

/-- How the stages of writing end, with the ledger behind them: what can be told is noted. -/
def WritingEnds (container : Text) (ledger : Ledger) (ended : Except Raised Unit × Ledger) :
    Except Raised (Option Fault × Option Fault) → Prop
  | .ok (tables, debug) => ended = (.ok (),
      Stage.debug.note container debug (Stage.tables.note container tables ledger))
  | .error failure => ended.1 = .error failure

include hledger

theorem writeDebug_writes (hdebug : i.settings.output.writeDebug = true) (sink : σ) (world : ω) :
    ∃ now world' raised sink' last,
      (Host.now : StateM ω _) world = (now, world') ∧
      Writes i.writer [.ok (debugTable (Diagnostics.of s.source s.container now))] (sink, world')
        raised (sink', last) ∧
      i.writeDebug s.container s.source sink ledger world =
        ((match toldOf raised with
          | .ok fault => (.ok (), Stage.debug.note s.container fault ledger)
          | .error failure => (.error failure, ledger), sink'), last) := by
  unfold Inspector.writeDebug
  rw [if_pos hdebug, run_bind]
  cases hnow : (Host.now : StateM ω _) world with
  | mk now world' =>
    dsimp only
    rw [run_bind]
    cases hcall : i.writer sink (debugTable (Diagnostics.of s.source s.container now)) world' with
    | mk out last =>
      obtain ⟨outcome, sink'⟩ := out
      refine ⟨now, world', fault? outcome, sink', last, rfl, ?_, ?_⟩
      · cases outcome with
        | error raised => exact .refused hcall
        | ok => exact .written hcall .done
      · have hstage := writeStage_eq hledger s.container (show Stage.debug ≠ .scan by nofun) outcome
        exact congrArg (fun ended => ((ended, sink'), last)) hstage

theorem writeTables_writing (sink : Option σ) (world : ω) : ∃ faults ended sink' world',
    Writing i s (sink, world) faults (sink', world') ∧
    i.writeTables s.container s.source s.model s.vendors sink ledger world =
      ((ended, sink'), world') ∧
    WritingEnds s.container ledger ended faults := by
  cases sink with
  | none =>
    refine ⟨_, _, none, world, .noSink, rfl, ?_⟩
    simp [WritingEnds, Stage.note]
  | some sink =>
    obtain ⟨outcome, sink', world', hall, hwrites⟩ :=
      writes_writeAll i.writer (recordTables s.container s.model s.vendors) sink world
    have hstage : Inspector.writeStage "write_tables" s.container outcome ledger = _ :=
      writeStage_eq hledger s.container (show Stage.tables ≠ .scan by nofun) outcome
    unfold Inspector.writeTables
    dsimp only
    rw [run_bind, hall]
    dsimp only
    rw [hstage]
    cases htold : toldOf (fault? outcome) with
    | error failure => exact ⟨_, _, _, _, .untold hwrites htold, rfl, rfl⟩
    | ok fault =>
      dsimp only
      rw [run_bind]
      cases hdebug : i.settings.output.writeDebug with
      | false =>
        refine ⟨_, _, _, _, .tables hdebug hwrites htold, ?_, rfl⟩
        simp [Inspector.writeDebug, hdebug, Stage.note]
        rfl
      | true =>
        obtain ⟨now, middle, raised, sink'', last, hnow, hwrite, hrun⟩ :=
          writeDebug_writes i s (Stage.tables.note s.container fault ledger) hledger hdebug
            sink' world'
        rw [hrun]
        refine ⟨_, _, _, _, .debug hdebug hwrites htold hnow hwrite, rfl, ?_⟩
        cases toldOf raised <;> rfl

end

/-! ## Accounts -/

/-- A report of a source: what was found in it, with the issues of decoding in front of those of the
stages that failed, and how much all that is. -/
structure Accounts (s : Subject) (faults : Stage → Option Fault) (report : Report) : Prop where
  container : report.container = s.container
  status : report.status = if s.document.located then .success else .parseFailed
  strategy : report.strategy = s.document.strategy
  sourceLength : report.sourceLength = s.source.length
  statusCode : report.statusCode = none
  error : report.error =
    if s.document.located then none
    else some ("Could not locate container data in source" : Text)
  model : report.model = { tags := s.model.tags, triggers := s.model.triggers, vars := s.model.vars
                           issues := s.model.issues ++ issuesOf s.container faults }
  vendors : report.vendors = s.vendors
  tagCount : report.tagCount = report.model.tags.length
  triggerCount : report.triggerCount = report.model.triggers.length
  variableCount : report.variableCount = report.model.vars.length
  vendorCount : report.vendorCount = report.vendors.length
  issueCount : report.issueCount = report.model.issues.length

/-- The issues that the stages leave in a ledger, one after the other. -/
theorem issues_note (s : Subject) (tables debug : Option Fault) :
    (Stage.debug.note s.container debug (Stage.tables.note s.container tables
      (Stage.scan.note s.container (fault? s.scanning)
        (Stage.decode.note s.container (s.decoding.bind fault?) Kept.emptyLedger)))).issues =
      issuesOf s.container (s.faults tables debug) := by
  unfold issuesOf
  rw [List.filterMap_eq_flatMap_toList]
  simp [Stage.note, Stage.all, Subject.faults, Kept.emptyLedger]

/-- What comes of an inspection of a source, and what is kept of it, by what writing comes to: the
report that accounts for all stages, and no issue; or what telling a stage raises. -/
inductive Accounted (s : Subject) : Except Raised (Option Fault × Option Fault) →
    Except Uncaught Report × Kept → Prop where
  | report {tables debug : Option Fault} {report : Report} {decoder : Container.Decoder} :
    Accounts s (s.faults tables debug) report →
    Accounted s (.ok (tables, debug)) (.ok report, ⟨some Kept.emptyLedger, decoder⟩)
  | uncaught {failure : Raised} {kept : Kept} :
    Accounted s (.error failure) (.error (.raised failure), kept)

section

variable {ω σ : Type} [Host (StateM ω)]

/-- The report of a source accounts for its stages. -/
theorem accounts_reportOf (s : Subject) {issues : List Issue} {faults : Stage → Option Fault}
    (hissues : issues = issuesOf s.container faults) (started : Nat) (world : ω) :
    Accounts s faults ((Inspector.reportOf s.container s.source s.document s.model s.vendors
      issues started : StateM ω Report) world).1 where
  container := rfl
  status := rfl
  strategy := rfl
  sourceLength := rfl
  statusCode := rfl
  error := rfl
  model := congrArg (fun issues => Model.mk s.model.tags s.model.triggers s.model.vars
    (s.model.issues ++ issues)) hissues
  vendors := rfl
  tagCount := rfl
  triggerCount := rfl
  variableCount := rfl
  vendorCount := rfl
  issueCount := rfl

/-- **An inspection** runs through its stages and accounts for each of them, if all can be told. -/
theorem process_accounts (i : Inspector (StateM ω) σ) (kept : Kept) (sink : Option σ)
    (container source : Text) (started : Nat) (world : ω)
    (hledger : kept.ledger = some Kept.emptyLedger) :
    let s : Subject := ⟨i.settings.locator, kept.decoder.name, container, source⟩
    ∃ outcome kept' sink' world' faults written,
      i.process kept sink container source started world = ((outcome, kept', sink'), world') ∧
      kept'.decoder.name = kept.decoder.name ∧
      Writing i s (sink, world) faults (sink', written) ∧
      Accounted s faults (outcome, kept') := by
  intro s
  have hkept : kept.ledgerInUse = Kept.emptyLedger := by
    unfold Kept.ledgerInUse
    rw [hledger]
    rfl
  let decoded := Stage.decode.note container (s.decoding.bind fault?) Kept.emptyLedger
  let scanned := Stage.scan.note container (fault? s.scanning) decoded
  obtain ⟨decoder, hname, hdecode⟩ : ∃ decoder, decoder.name = kept.decoder.name ∧
      Inspector.decodeNext kept.decoder container
        (Source.locate i.settings.locator source container) Kept.emptyLedger =
          (s.model, decoder, decoded) :=
    s.decodeNext_eq Kept.emptyLedger rfl rfl
  have hscan : Inspector.scanStage source s.model.tags decoded = (s.vendors, scanned) :=
    s.scanStage_eq decoded rfl
  obtain ⟨faults, ended, sink', written, hwriting, hwrite, hends⟩ :=
    writeTables_writing i s scanned rfl sink world
  unfold Inspector.process
  rw [hkept, hdecode]
  dsimp only
  rw [hscan]
  dsimp only
  rw [run_bind, hwrite]
  obtain ⟨told, ledger⟩ := ended
  cases faults with
  | error failure =>
    obtain rfl : told = .error failure := hends
    exact ⟨_, _, _, _, _, _, rfl, hname, hwriting, .uncaught⟩
  | ok faults =>
    obtain ⟨tables, debug⟩ := faults
    obtain ⟨rfl, rfl⟩ := Prod.mk.inj hends
    refine ⟨_, _, _, _, _, _, rfl, hname, hwriting, .report ?_⟩
    exact accounts_reportOf s (issues_note s tables debug) started written

theorem inspectSourceNext_accounted (i : Inspector (StateM ω) σ) (kept : Kept) (sink : Option σ)
    (container source : Text) (world : ω) :
    let s : Subject := ⟨i.settings.locator, kept.decoder.name, container.strip, source⟩
    let started := (Host.ticks : StateM ω Nat) world
    ∃ outcome kept' sink' world' faults written,
      i.inspectSourceNext kept sink container source world =
        ((outcome, kept', sink'), world') ∧
      Writing i s (sink, started.2) faults (sink', written) ∧
      Accounted s faults (outcome, kept') := by
  intro s started
  obtain ⟨outcome, kept', sink', world', faults, written, hrun, -, hwriting, haccounted⟩ :=
    process_accounts i kept.renewed sink container.strip source started.1 started.2 rfl
  refine ⟨outcome, kept', sink', world', faults, written, ?_, hwriting, haccounted⟩
  rw [Inspector.inspectSourceNext, run_bind]
  exact hrun

/-- There is a report if all that the sink raises can be told. -/
theorem Accounted.exists_report {i : Inspector (StateM ω) σ} (htells : Tells i.writer) {s : Subject}
    {state state' : Option σ × ω} {faults : Except Raised (Option Fault × Option Fault)}
    {outcome : Except Uncaught Report} {kept : Kept} (h : Accounted s faults (outcome, kept))
    (hwriting : Writing i s state faults state') : ∃ report, outcome = .ok report := by
  obtain ⟨tables, debug, rfl⟩ := hwriting.told htells
  cases h with
  | report => exact ⟨_, rfl⟩

/-- **Every stage is accounted for.** Whatever the source, the settings, the sink and what it does
on each call, and whatever was inspected before: if all that the sink raises can be told, an
inspection of a source returns a report, which succeeds if a document is located, tells how much was
found, and holds the issues of decoding and behind them one issue for each stage that failed, in the
order of the stages; no issue is kept. If something that it raises cannot be told, there is no
report, and what telling it raises is let out. -/
theorem inspectSource_accounts (i : Inspector (StateM ω) σ) (kept : Kept) (sink : Option σ)
    (container source : Text) (world : ω) :
    let s : Subject := ⟨i.settings.locator, kept.decoder.name, container.strip, source⟩
    let started := (Host.ticks : StateM ω Nat) world
    ∃ outcome kept' sink' world' faults written,
      i.inspectSourceNext kept sink container source world =
        ((outcome, kept', sink'), world') ∧
      Writing i s (sink, started.2) faults (sink', written) ∧
      Accounted s faults (outcome, kept') ∧
      (Tells i.writer → ∃ report, outcome = .ok report) := by
  intro s started
  obtain ⟨outcome, kept', sink', world', faults, written, hrun, hwriting, haccounted⟩ :=
    inspectSourceNext_accounted i kept sink container source world
  exact ⟨outcome, kept', sink', world', faults, written, hrun, hwriting, haccounted,
    fun htells => haccounted.exists_report htells hwriting⟩

end

/-- An inspector whose sink raises what cannot be put in words, as it would take an integer that is
too long to be written. -/
def wordlessInspector : Inspector InMemory Unit where
  settings := {}
  fetcher := fun _ => return .error (.transport (.ok ""))
  writer := fun sink _ => return (.error (.wordless .key (.fault .longInteger)), sink)

/-- Such a sink leaves a source without a report. -/
theorem inspectSource_wordless : ¬∃ report,
    (wordlessInspector.inspectSourceNext {} (some ()) "GTM-A1" [] default).1.1 = .ok report := by
  rintro ⟨report, hreport⟩
  have hnone : (wordlessInspector.inspectSourceNext {} (some ()) "GTM-A1" [] default).1.1.toOption
      |>.isNone := by decide +kernel
  rw [hreport] at hnone
  cases hnone

end TagAudit.Inspection
