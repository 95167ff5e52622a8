import Mathlib
import TagAudit.Command.Run
import TagAudit.Host.Machine
import TagAudit.Proofs.Command.Printing
import TagAudit.Proofs.Container.Identifier
import TagAudit.Proofs.Inspection.Stages
import TagAudit.Proofs.Report.Rendering
import TagAudit.Proofs.Source.Cascade

/-!
# What the exit code of an inspection depends on

After an inspection its results are written and printed, and the command exits with a code for the
status of the report. Faults of files are let pass on the way, a text without an encoding is not.

* `Saves`: the ways in which a summary is saved, or is not saved and the command goes on.
* `Delivers`: what has to hold for all results to come out.
* `finish_exitsIf`: then the command exits with the code of the report, and else it is broken off.
* `runParse_exits_iff`: the exit code of a command that inspects a source in a file.
-/

namespace TagAudit

open Data (not_holdsLong_object)
open Outcome

/-! ## A report in one line -/

theorem encodable_of_ascii {t : Text} (h : ∀ c ∈ t, Json.IsAscii c) : t.IsEncodable :=
  fun c hc => (h c hc).noSurrogate

theorem Report.encodable_describe {r : Report} (hcontainer : r.container.IsEncodable)
    (hstrategy : (r.strategy.getD "None").IsEncodable)
    (hstatus : r.status = .success ∨ r.status = .parseFailed) : r.describe.IsEncodable := by
  have hnumber (n : Nat) : (Text.ofNat n).IsEncodable := encodable_of_ascii (Json.ascii_ofNat n)
  unfold Report.describe
  obtain hstatus | hstatus := hstatus
  all_goals
    rw [hstatus]
    simp only [Text.isEncodable_append, hnumber, hcontainer, hstrategy, and_true]
    decide

/-! ## The file of a summary -/

section

variable {ω : Type} [Host (StateM ω)]

/-- What the host does goes well, or fails by a fault of files. -/
def Passes (outcome : Except Fault Unit) : Prop :=
  ∀ fault, outcome = .error fault → fault.kind = .os

theorem passes_ok : Passes (.ok ()) := nofun

theorem passes_error_iff {fault : Fault} : Passes (.error fault) ↔ fault.kind = .os :=
  ⟨fun h => h fault rfl, fun h _ heq => Except.error.inj heq ▸ h⟩

theorem letFilesPass_eq_ok_iff {fault : Fault} :
    letFilesPass fault = .ok () ↔ fault.kind = .os := by
  unfold letFilesPass
  split <;> simp_all

/-- The ways in which a command goes on after a summary was to be saved: the host refuses the
directory, or it refuses the file, or the summary has an encoding and is written, if the host does
not refuse that either. -/
inductive Saves (s : Summary) (verbose : Bool) (format : SummaryFormat) (directory : Path)
    (world : ω) : Prop where
  | unmade {fault : Fault} {world' : ω} :
    (Host.makeDirectories directory : StateM ω _) world = (.error fault, world') →
    fault.kind = .os → Saves s verbose format directory world
  | unopened {t : Text} {fault : Fault} {world' world'' : ω} :
    (Host.makeDirectories directory : StateM ω _) world = (.ok (), world') →
    s.render format verbose = .ok t →
    (Host.write (summaryPath directory format) [] : StateM ω _) world' = (.error fault, world'') →
    fault.kind = .os → Saves s verbose format directory world
  | opened {t : Text} {world' world'' : ω} :
    (Host.makeDirectories directory : StateM ω _) world = (.ok (), world') →
    s.render format verbose = .ok t → s.IsFit verbose format →
    (Host.write (summaryPath directory format) [] : StateM ω _) world' = (.ok (), world'') →
    Passes ((Host.write (summaryPath directory format) (t.flatMap Utf8.octetsOf) : StateM ω _)
      world'').1 → Saves s verbose format directory world

theorem Summary.isFit_iff_of_render {s : Summary} {verbose : Bool} {format : SummaryFormat}
    {t : Text} (h : s.render format verbose = .ok t) : s.IsFit verbose format ↔ t.IsEncodable := by
  rw [← s.exists_render_iff verbose format, h]
  simp only [Except.ok.injEq, exists_eq_left']

/-- Writing to a file that was opened. -/
theorem passes_writeText_iff {p : Path} {t : Text} {world world' : ω}
    (hopen : (Host.write p [] : StateM ω _) world = (.ok (), world')) :
    Passes ((Host.writeText p t : StateM ω _) world).1 ↔ t.IsEncodable ∧
      Passes ((Host.write p (t.flatMap Utf8.octetsOf) : StateM ω _) world').1 := by
  unfold Host.writeText
  rw [run_bind, hopen]
  dsimp only
  cases hencode : Utf8.encode t with
  | error fault =>
    have hplain : ¬t.IsEncodable := fun h => by
      rw [Utf8.encode_eq_ok_iff.mpr ⟨h, rfl⟩] at hencode
      cases hencode
    refine iff_of_false (fun h => ?_) fun h => hplain h.1
    have hkind := h fault rfl
    rw [Utf8.kind_of_encode_eq_error hencode] at hkind
    cases hkind
  | ok octets =>
    obtain ⟨hplain, rfl⟩ := Utf8.encode_eq_ok_iff.mp hencode
    exact (and_iff_right hplain).symm

section

variable {s : Summary} {verbose : Bool} {format : SummaryFormat} {directory : Path} {world : ω}

/-- What saving comes to once the directory is made and the summary is rendered. -/
theorem saveSummary_made {t : Text} {world' : ω}
    (hmake : (Host.makeDirectories directory : StateM ω _) world = (.ok (), world')) :
    ((saveSummary directory format (.ok t) : StateM ω _) world).1 = .ok () ↔
      Passes ((Host.writeText (summaryPath directory format) t : StateM ω _) world').1 := by
  unfold saveSummary
  rw [run_bind, hmake]
  dsimp only
  rw [run_bind]
  cases ((Host.writeText (summaryPath directory format) t : StateM ω _) world').1 with
  | error fault => exact letFilesPass_eq_ok_iff.trans passes_error_iff.symm
  | ok => exact iff_of_true rfl passes_ok

/-- **Saving** goes well, or fails and is let pass, in these ways only. -/
theorem saveSummary_eq_ok_iff :
    ((saveSummary directory format (s.render format verbose) : StateM ω _) world).1 = .ok () ↔
      Saves s verbose format directory world := by
  constructor
  · intro h
    cases hmake : (Host.makeDirectories directory : StateM ω _) world with
    | mk made world' =>
      cases made with
      | error fault =>
        unfold saveSummary at h
        rw [run_bind, hmake] at h
        exact .unmade hmake (letFilesPass_eq_ok_iff.mp h)
      | ok =>
        cases hrender : s.render format verbose with
        | error fault =>
          unfold saveSummary at h
          rw [run_bind, hmake, hrender] at h
          cases h
        | ok t =>
          rw [hrender, saveSummary_made hmake] at h
          cases hopen : (Host.write (summaryPath directory format) [] : StateM ω _) world' with
          | mk opened world'' =>
            cases opened with
            | error fault =>
              unfold Host.writeText at h
              rw [run_bind, hopen] at h
              exact .unopened hmake hrender hopen (passes_error_iff.mp h)
            | ok =>
              obtain ⟨hplain, hwritten⟩ := (passes_writeText_iff hopen).mp h
              exact .opened hmake hrender ((Summary.isFit_iff_of_render hrender).mpr hplain) hopen
                hwritten
  · intro h
    cases h with
    | unmade hmake hos =>
      unfold saveSummary
      rw [run_bind, hmake]
      exact letFilesPass_eq_ok_iff.mpr hos
    | unopened hmake hrender hopen hos =>
      rw [hrender, saveSummary_made hmake]
      unfold Host.writeText
      rw [run_bind, hopen]
      exact passes_error_iff.mpr hos
    | opened hmake hrender hfit hopen hwritten =>
      rw [hrender, saveSummary_made hmake, passes_writeText_iff hopen]
      exact ⟨(Summary.isFit_iff_of_render hrender).mp hfit, hwritten⟩

end

/-! ## Results -/

/-- What has to hold for the results of an inspection to come out. -/
structure Delivers (settings : Settings) (o : RunOptions) (r : Report) (sink : Option FileStore)
    (summary : Summary) (world : ω) : Prop where
  /-- Saving the summary goes well, or is let pass. -/
  saved : ∀ directory ∈ settings.output.summaryDirectory?,
    Saves summary (settings.logging.level = .debug) (.ofName o.summaryFormat) directory world
  /-- As JSON, everything is printed but numbers that are too long. -/
  json : o.json = true → ¬(Data.object r.toMembers).HoldsLong ∧
    (o.summary = true → ¬(Data.object summary.toMembers).HoldsLong)
  /-- Otherwise the files that were written are printed by their paths. -/
  paths : o.json = false → ∀ store ∈ sink, ∀ p ∈ store.written, p.text.IsEncodable
  /-- The summary is printed as it is rendered. -/
  summary : o.json = false → o.summary = true →
    summary.IsFit (settings.logging.level = .debug) (.ofName o.summaryFormat)

theorem exists_reportJson_iff {r : Report} {summary : Option Summary} :
    (∃ t, reportJson r summary = .ok t ∧ t.IsEncodable) ↔ ¬(Data.object r.toMembers).HoldsLong ∧
      ∀ s ∈ summary, ¬(Data.object s.toMembers).HoldsLong := by
  have hmembers : ¬(Data.object (r.toMembers ++
        (summary.map fun s => (("summary" : Text), Data.object s.toMembers)).toList)).HoldsLong ↔
      ¬(Data.object r.toMembers).HoldsLong ∧
        ∀ s ∈ summary, ¬(Data.object s.toMembers).HoldsLong := by
    rw [not_holdsLong_object, not_holdsLong_object, List.forall_mem_append]
    refine and_congr_right' ?_
    cases summary <;> simp
  rw [← hmembers]
  exact Json.exists_writeAscii_iff

theorem printable_reportLines_iff {r : Report} (hr : r.describe.IsEncodable) {written : List Path}
    {rendered : Option (Except Fault Text)} :
    (∀ message ∈ reportLines r written rendered, ∃ t, message = .ok t ∧ t.IsEncodable) ↔
      (∀ p ∈ written, p.text.IsEncodable) ∧
        ∀ message ∈ rendered, ∃ t, message = .ok t ∧ t.IsEncodable := by
  have hprints (t : Text) : (∃ s, (.ok t : Except Fault Text) = .ok s ∧ s.IsEncodable) ↔
      t.IsEncodable := by simp only [Except.ok.injEq, exists_eq_left']
  have hmark : ("   📄 " : Text).IsEncodable := by decide
  have hempty : Text.IsEncodable [] := nofun
  unfold reportLines
  rw [List.forall_mem_append, List.forall_mem_cons, hprints, and_iff_right hr, List.forall_mem_map]
  simp only [hprints, Text.isEncodable_append, hmark, true_and]
  refine and_congr_right' ?_
  cases rendered <;> simp [hempty]

/-- What is printed after an inspection. -/
def resultLines (o : RunOptions) (r : Report) (sink : Option FileStore) (summary : Summary)
    (rendered : Except Fault Text) : List (Except Fault Text) :=
  if o.json then [reportJson r (if o.summary then some summary else none)]
  else reportLines r ((sink.map (·.written)).getD []) (if o.summary then some rendered else none)

theorem printable_resultLines_iff {o : RunOptions} {r : Report} (hr : r.describe.IsEncodable)
    {sink : Option FileStore} {summary : Summary} {verbose : Bool} {format : SummaryFormat} :
    (∀ message ∈ resultLines o r sink summary (summary.render format verbose),
        ∃ t, message = .ok t ∧ t.IsEncodable) ↔
      (o.json = true → ¬(Data.object r.toMembers).HoldsLong ∧
        (o.summary = true → ¬(Data.object summary.toMembers).HoldsLong)) ∧
      (o.json = false → ∀ store ∈ sink, ∀ p ∈ store.written, p.text.IsEncodable) ∧
      (o.json = false → o.summary = true → summary.IsFit verbose format) := by
  have hgiven {α : Type} {a : α} {p : α → Prop} :
      (∀ b ∈ if o.summary then some a else none, p b) ↔ (o.summary = true → p a) := by
    cases o.summary <;> simp
  have hwritten : (∀ p ∈ (sink.map (·.written)).getD [], p.text.IsEncodable) ↔
      ∀ store ∈ sink, ∀ p ∈ store.written, p.text.IsEncodable := by
    cases sink <;> simp
  unfold resultLines
  cases o.json with
  | true =>
    rw [if_pos rfl, List.forall_mem_singleton, exists_reportJson_iff, hgiven]
    simp
  | false =>
    rw [if_neg Bool.false_ne_true, printable_reportLines_iff hr, hgiven, hwritten,
      Summary.exists_render_iff]
    simp

/-- Saves a rendered summary where there is a directory for it. -/
def saveGiven (directory? : Option Path) (format : SummaryFormat)
    (rendered : Except Fault Text) : StateM ω (Except Fault Unit) :=
  match directory? with
  | some directory => saveSummary directory format rendered
  | none => pure (.ok ())

theorem saveGiven_eq_ok_iff {s : Summary} {verbose : Bool} {format : SummaryFormat}
    {directory? : Option Path} {world : ω} :
    (saveGiven directory? format (s.render format verbose) world).1 = .ok () ↔
      ∀ directory ∈ directory?, Saves s verbose format directory world := by
  cases directory? with
  | none => exact iff_of_true rfl (by rintro _ ⟨⟩)
  | some directory => simpa [saveGiven] using saveSummary_eq_ok_iff

/-- What comes of an inspection depends on the saving of its summary alone. -/
theorem finish_eq {settings : Settings} {o : RunOptions} {r : Report} {sink : Option FileStore}
    {world world' : ω} {now : Moment} (hnow : (Host.now : StateM ω _) world = (now, world')) :
    let format := SummaryFormat.ofName o.summaryFormat
    let summary := Summary.of r.container now r.model r.vendors
    let rendered := summary.render format (decide (settings.logging.level = .debug))
    ((finish settings o r sink : StateM ω _) world).1 =
      match (saveGiven settings.output.summaryDirectory? format rendered world').1 with
      | .error fault => .breaks fault
      | .ok () => .printing r.status.exitCode [] (resultLines o r sink summary rendered) := by
  intro format summary rendered
  unfold finish
  rw [run_bind, hnow]
  cases settings.output.summaryDirectory? with
  | none => rfl
  | some directory =>
    dsimp only
    rw [run_bind, saveGiven]
    cases (saveSummary directory format rendered : StateM ω _) world' with
    | mk outcome world'' => cases outcome <;> rfl

/-- **Results.** The command exits with the code of the report if all results come out, and else it
is broken off. -/
theorem finish_exitsIf {settings : Settings} {o : RunOptions} {r : Report} {sink : Option FileStore}
    {world world' : ω} {now : Moment} (hr : r.describe.IsEncodable)
    (hnow : (Host.now : StateM ω _) world = (now, world')) :
    ExitsIf ((finish settings o r sink : StateM ω _) world).1 r.status.exitCode
      (Delivers settings o r sink (Summary.of r.container now r.model r.vendors) world') := by
  let format := SummaryFormat.ofName o.summaryFormat
  let summary := Summary.of r.container now r.model r.vendors
  let verbose := decide (settings.logging.level = .debug)
  have hsaved := @saveGiven_eq_ok_iff ω _ summary verbose format
    settings.output.summaryDirectory? world'
  rw [finish_eq hnow]
  cases hresult : (saveGiven settings.output.summaryDirectory? format
      (summary.render format verbose) world').1 with
  | error fault =>
    refine .broken (fun h => ?_) rfl
    rw [hsaved.mpr h.saved] at hresult
    cases hresult
  | ok =>
    have hprinted := @printable_resultLines_iff o r hr sink summary verbose format
    refine (printing_exitsIf r.status.exitCode [] _).of_iff (hprinted.trans ?_)
    exact ⟨fun h => ⟨hsaved.mp hresult, h.1, h.2.1, h.2.2⟩, fun h => ⟨h.json, h.paths, h.summary⟩⟩

/-! ## Parsing -/

theorem encodable_strategy (limits : Source.Limits) (text id : Text) :
    ((Source.locate limits text id).strategy.getD "None").IsEncodable := by
  obtain ⟨-, hdoc⟩ | ⟨strategy, members, -, -, hdoc⟩ := Source.locate_cases limits text id
  · rw [hdoc]
    decide
  · have hname : strategy.name.IsEncodable := by cases strategy <;> decide
    rw [hdoc]
    exact hname

theorem encodable_of_isIdentifier {t : Text} (h : Container.isIdentifier t.strip = true) :
    t.strip.IsEncodable := by
  obtain ⟨s, hs, -, hall⟩ := Container.isIdentifier_strip_iff.mp h
  rw [hs, Text.isEncodable_append]
  refine ⟨by decide, encodable_of_ascii fun c hc => ?_⟩
  obtain hupper | hdigit := hall c hc
  · simp only [CodePoint.isAsciiUpper, Bool.and_eq_true, decide_eq_true_eq] at hupper
    exact ⟨by omega, by omega⟩
  · exact Json.ascii_of_isAsciiDigit hdigit

/-- A source has a report, which can be printed in one line and has the exit code of what was
located. -/
theorem inspectSource_exitCode (i : Inspector (StateM ω) FileStore)
    (hwriter : Inspection.Tells i.writer) (sink : Option FileStore) (container source : Text)
    (world : ω) (hcontainer : Container.isIdentifier container.strip = true) :
    ∃ report, ((i.inspectSource sink container source) world).1.1 = .ok report ∧
      report.describe.IsEncodable ∧ report.status.exitCode.number =
        if (Source.locate i.settings.locator source container.strip).located then 0 else 1 := by
  obtain ⟨outcome, kept', sink', world', faults, written, hrun, hwriting, haccounted⟩ :=
    Inspection.inspectSourceNext_accounted i {} sink container source world
  obtain ⟨report, rfl⟩ := haccounted.exists_report hwriter hwriting
  obtain @⟨tables, debug, _, _, haccounts⟩ := haccounted
  have hreport : ((i.inspectSource sink container source) world).1.1 = .ok report := by
    unfold Inspector.inspectSource
    rw [run_bind, hrun]
    rfl
  have hstatus : report.status =
      if (Source.locate i.settings.locator source container.strip).located then .success
      else .parseFailed := haccounts.status
  refine ⟨report, hreport, ?_, ?_⟩
  · refine Report.encodable_describe ?_ ?_ ?_
    · rw [haccounts.container]
      exact encodable_of_isIdentifier hcontainer
    · rw [haccounts.strategy]
      exact encodable_strategy i.settings.locator source container.strip
    · rw [hstatus]
      split
      · exact .inl rfl
      · exact .inr rfl
  · rw [hstatus]
    split <;> rfl

/-- Settings that load are those that a command runs under, unless log lines cannot be laid out. -/
theorem prepare_loaded {s : Surroundings (StateM ω)} {o : RunOptions} {settings : Settings}
    {world world' : ω} (hflags : (o.verbose && o.quiet) = false) (hprint : o.printConfig = false)
    (hload : (Settings.load o.config o.environment s.env o.overrides : StateM ω _) world =
      (.ok settings, world')) :
    prepare s o world = (if LogFormat.isUsable settings.logging.format then .ok settings
      else .error (.breaks (LogFormat.refused settings.logging.format)), world') := by
  unfold prepare
  rw [hflags, if_neg Bool.false_ne_true, run_bind, hload, hprint]
  dsimp only
  cases LogFormat.isUsable settings.logging.format <;> rfl

section

variable (s : Surroundings (StateM ω)) (o : RunOptions) (file : Path) (container : Text)
  {settings : Settings} {source : Text} {world world₁ world₂ : ω}

/-- A source in a file is inspected, and the command ends with the code of its report, if a document
is located that of success. -/
theorem runParse_exitsIf (hflags : (o.verbose && o.quiet) = false) (hprint : o.printConfig = false)
    (hload : (Settings.load o.config o.environment s.env o.overrides : StateM ω _) world =
      (.ok settings, world₁))
    (hcontainer : Container.isIdentifier container.strip = true)
    (hread : (Host.readLenient file : StateM ω _) world₁ = (.ok source, world₂)) :
    let located := (Source.locate settings.locator source container.strip).located
    let inspected :=
      (s.inspector settings).inspectSource settings.output.store? container source world₂
    let timed := (Host.now : StateM ω _) inspected.2
    ∃ report, inspected.1.1 = .ok report ∧
      report.status.exitCode.number = (if located then 0 else 1) ∧
      ExitsIf (runParse s file container o world).1 report.status.exitCode
        (LogFormat.isUsable settings.logging.format = true ∧
          Delivers settings o report inspected.1.2
            (Summary.of report.container timed.1 report.model report.vendors) timed.2) := by
  intro located inspected timed
  obtain ⟨report, hreport, hdescribe, hcode⟩ := inspectSource_exitCode (s.inspector settings)
    Inspection.tells_fileStore settings.output.store? container source world₂ hcontainer
  have hfinish := @finish_exitsIf ω _ settings o report inspected.1.2 inspected.2 timed.2 timed.1
    hdescribe rfl
  refine ⟨report, hreport, hcode, ?_⟩
  unfold runParse withContainer
  rw [run_bind, prepare_loaded hflags hprint hload]
  cases hformat : LogFormat.isUsable settings.logging.format with
  | false => exact .broken (fun h => nomatch h.1) rfl
  | true =>
    have hinspected : inspected.1 = (.ok report, inspected.1.2) := Prod.ext hreport rfl
    rw [if_pos rfl]
    dsimp only
    rw [if_pos hcontainer, run_bind, hread]
    dsimp only
    rw [run_bind, show (s.inspector settings).inspectSource settings.output.store? container source
      world₂ = inspected from rfl, hinspected]
    exact hfinish.of_iff (and_iff_right rfl).symm

/-- **The exit code of parsing.** On any host, with any flags that may be given together and any
settings that load, for a file that can be read and a container that can be one: there is a report,
and the exit code is 0 if a document is located and 1 if none is, exactly if log lines can be laid
out by the settings and all results come out. Otherwise the command is broken off; it never exits
with another code. -/
theorem runParse_exits_iff (hflags : (o.verbose && o.quiet) = false)
    (hprint : o.printConfig = false)
    (hload : (Settings.load o.config o.environment s.env o.overrides : StateM ω _) world =
      (.ok settings, world₁))
    (hcontainer : Container.isIdentifier container.strip = true)
    (hread : (Host.readLenient file : StateM ω _) world₁ = (.ok source, world₂)) :
    let located := (Source.locate settings.locator source container.strip).located
    let code : Nat := if located then 0 else 1
    let inspected :=
      (s.inspector settings).inspectSource settings.output.store? container source world₂
    let timed := (Host.now : StateM ω _) inspected.2
    let ending := (runParse s file container o world).1.ending
    (ending = .exit code ∨ ∃ fault, ending = .broken fault) ∧
      ∃ report, inspected.1.1 = .ok report ∧
        let summary := Summary.of report.container timed.1 report.model report.vendors
        (ending = .exit code ↔ LogFormat.isUsable settings.logging.format = true ∧
          Delivers settings o report inspected.1.2 summary timed.2) := by
  intro located code inspected timed ending
  obtain ⟨report, hreport, hcode, hends⟩ :=
    runParse_exitsIf s o file container hflags hprint hload hcontainer hread
  rw [show code = report.status.exitCode.number from hcode.symm]
  exact ⟨hends.exit_or_broken, report, hreport, hends.exit_iff⟩

end

end

/-! ## Two sources -/

/-- Nothing is set in the environment, and nothing can be fetched. -/
def lonely : Surroundings (StateM Machine) where
  env := []
  fetcher _ := fun _ => return .error (.transport (.ok "no route"))

/-- A machine with one file, a source. -/
def sourceMachine (source : Text) : Machine where
  files := { entries := [(["gtm.js"], .file (source.flatMap Utf8.octetsOf))] }
  time := { year := 2024, month := 5, day := 6, hour := 7, minute := 8, second := 9 }

/-- A source with one tag, of a type in ASCII. -/
def wholeSource : Text := "var data = \x7b\"tags\":[\x7b\"function\":\"__ua\"\x7d]\x7d"

/-- A source with one tag, whose type is half of a pair of surrogates, spelled by an escape. -/
def halfSource : Text := "var data = \x7b\"tags\":[\x7b\"function\":\"\\ud800\"\x7d]\x7d"

theorem load_lonely (machine : Machine) :
    (Settings.load none none lonely.env [] : StateM Machine _) machine = (.ok {}, machine) := rfl

theorem readLenient_halfSource : (Host.readLenient (Path.ofText "gtm.js") : StateM Machine _)
    (sourceMachine halfSource) = (.ok halfSource, sourceMachine halfSource) := by
  cbv

theorem isIdentifier_A1 : Container.isIdentifier (Text.strip "GTM-A1") = true := by
  decide +kernel

/-- Settings in a file, which ask for a summary. -/
def savingText : Text := "output:\n  write_summary: true\n"

/-- A machine with a source and those settings. -/
def savingMachine : Machine where
  files := { entries := [(["gtm.js"], .file (wholeSource.flatMap Utf8.octetsOf)),
    (["settings.yaml"], .file (savingText.flatMap Utf8.octetsOf))] }
  time := { year := 2024, month := 5, day := 6, hour := 7, minute := 8, second := 9 }

/-- Options that save the tables and a summary, and print the summary too. -/
def savingOptions (json : Bool) : RunOptions where
  config := some (Path.ofText "settings.yaml")
  out := some (Path.ofText "out")
  summary := true
  json := json

/-- What the settings and the options come to. -/
def savingSettings : Settings where
  output := { directory := some (Path.ofText "out"), writeSummary := true }

theorem load_saving (json : Bool) :
    (Settings.load (savingOptions json).config (savingOptions json).environment lonely.env
      (savingOptions json).overrides : StateM Machine _) savingMachine =
        (.ok savingSettings, savingMachine) := by
  have hsettings : ((Settings.load (savingOptions json).config (savingOptions json).environment
      lonely.env (savingOptions json).overrides : StateM Machine _) savingMachine).1.toOption =
        some savingSettings := by
    cases json <;> decide +kernel
  refine Prod.ext ?_ rfl
  cases hload : ((Settings.load (savingOptions json).config (savingOptions json).environment
      lonely.env (savingOptions json).overrides : StateM Machine _) savingMachine).1 with
  | error failure =>
    rw [hload] at hsettings
    cases hsettings
  | ok settings =>
    rw [hload] at hsettings
    exact congrArg Except.ok (Option.some.inj hsettings)

theorem readLenient_saving : (Host.readLenient (Path.ofText "gtm.js") : StateM Machine _)
    savingMachine = (.ok wholeSource, savingMachine) := by
  cbv

/-- The inspection that a command makes on that machine, and the machine behind it. -/
def savingInspection : (Except Uncaught Report × Option FileStore) × Machine :=
  (lonely.inspector savingSettings).inspectSource savingSettings.output.store? "GTM-A1" wholeSource
    savingMachine

/-- All that a command makes of that inspection comes out, with these options. -/
def SavingDelivers (report : Report) (json : Bool) : Prop :=
  let timed := (Host.now : StateM Machine _) savingInspection.2
  Delivers savingSettings (savingOptions json) report savingInspection.1.2
    (Summary.of report.container timed.1 report.model report.vendors) timed.2

/-- The source in ASCII is inspected. Its tables and its summary are saved, and the summary is
printed as text and as JSON. -/
theorem runParse_wholeSource :
    ∃ report, savingInspection.1.1 = .ok report ∧ SavingDelivers report false ∧
      SavingDelivers report true := by
  have hlocated : (Source.locate savingSettings.locator wholeSource (Text.strip "GTM-A1")).located =
      true := by decide +kernel
  have hplain : (runParse lonely (Path.ofText "gtm.js") "GTM-A1" (savingOptions false)
      savingMachine).1.ending = .exit 0 := by decide +kernel
  have hjson : (runParse lonely (Path.ofText "gtm.js") "GTM-A1" (savingOptions true)
      savingMachine).1.ending = .exit 0 := by decide +kernel
  have hexits (json : Bool) := (runParse_exits_iff lonely (savingOptions json)
    (Path.ofText "gtm.js") "GTM-A1" rfl rfl (load_saving json) isIdentifier_A1
    readLenient_saving).2
  simp only [hlocated, if_true] at hexits
  unfold SavingDelivers savingInspection
  obtain ⟨report, hreport, hdelivers⟩ := hexits false
  obtain ⟨report', hreport', hdelivers'⟩ := hexits true
  rw [hreport] at hreport'
  cases hreport'
  exact ⟨report, hreport, (hdelivers.mp hplain).2, (hdelivers'.mp hjson).2⟩

/-- A surrogate in the type of a tag breaks off a command that is to print a summary, although a
document is located. -/
theorem runParse_halfSource :
    (Source.locate {} halfSource (Text.strip "GTM-A1")).located = true ∧
      ∃ fault, (runParse lonely (Path.ofText "gtm.js") "GTM-A1" { summary := true }
        (sourceMachine halfSource)).1.ending = .broken fault := by
  have htypes : ((lonely.inspector {}).inspectSource ({} : Settings).output.store? "GTM-A1"
      halfSource (sourceMachine halfSource)).1.1.toOption.map (·.model.tags.map (·.type)) =
        some [[CodePoint.ofNat 0xD800]] := by decide +kernel
  obtain ⟨report, hreport, -, hends⟩ := runParse_exitsIf lonely { summary := true }
    (Path.ofText "gtm.js") "GTM-A1" rfl rfl (load_lonely (sourceMachine halfSource)) isIdentifier_A1
    readLenient_halfSource
  refine ⟨by decide +kernel, ?_⟩
  cases hends with
  | broken _ hending => exact ⟨_, hending⟩
  | exits hdelivers =>
    have hmem := List.mem_singleton_self [CodePoint.ofNat 0xD800]
    rw [hreport] at htypes
    rw [← Option.some.inj htypes] at hmem
    obtain ⟨tag, htag, htype⟩ := List.mem_map.mp hmem
    have hc : CodePoint.ofNat 0xD800 ∈ tag.type := htype ▸ List.mem_singleton_self _
    exact absurd (hdelivers.2.summary rfl rfl) (Summary.not_isFit_of_type htag hc (by decide))

end TagAudit
