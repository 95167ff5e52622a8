import TagAudit.Command.Basic
import TagAudit.Command.Outcome
import TagAudit.Config.Layers
import TagAudit.Config.LogFormat
import TagAudit.Inspection.Inspector
import TagAudit.Report.Summary

/-!
# Running commands

What each command does on a host.

* `Command.run` runs a command, `runArguments` the one that a command line spells.
* `finish` prints what came of an inspection. Its exit code depends on the report alone, unless
  something cannot be printed.
-/

namespace TagAudit

open Yaml (Entries Key Value)

/-- The version of the program. -/
def version : Text := "0.1.0"

/-- What commands are run with, besides a host. -/
structure Surroundings (m : Type → Type) where
  env : Variables
  /-- What fetches containers under some settings. -/
  fetcher : FetchSettings → Fetcher m

/-! ## Settings -/

/-- A group of overrides, unless it is empty. -/
def overrideGroup (name : Text) (entries : Entries) : Entries :=
  if entries.isEmpty then [] else [(.text name, .map entries)]

/-- The level of logging that options ask for. -/
def RunOptions.level? (o : RunOptions) : Option LogLevel :=
  if o.verbose then some .debug else if o.quiet then some .error else none

/-- An override of a text. -/
def overrideText (key : String) (t : Text) : Key × Value := (.text key, .text t)

/-- What options lay over all other layers of the settings. -/
def RunOptions.overrides (o : RunOptions) : Entries :=
  overrideGroup "output"
    ((o.out.map fun p => overrideText "directory" p.text).toList ++
      (o.format.map fun f => overrideText "format" f.name).toList ++
      (if o.debugTable then [(.text "write_debug", .bool true)] else [])) ++
  overrideGroup "logging" (o.level?.map fun l => overrideText "level" l.name).toList

/-- What is printed of settings. -/
def printSettings (s : Settings) : Outcome :=
  .printing .success [] [.ok "# Effective Configuration", Yaml.write s.toMembers]

variable {m : Type → Type} [Monad m] [Host m]

/-- The settings that a command runs under, or its outcome if it ends before that. -/
def prepare (s : Surroundings m) (o : RunOptions) : m (Except Outcome Settings) := do
  if o.verbose && o.quiet then
    return .error (.complains .config "❌ --verbose and --quiet are mutually exclusive")
  match ← Settings.load o.config o.environment s.env o.overrides with
  | .error (.misshapen fault) => return .error (.breaks fault)
  | .error failure =>
    return .error (.complains .config (("❌ Configuration error: " : Text) ++ failure.message))
  | .ok settings =>
    let format := settings.logging.format
    if !LogFormat.isUsable format then return .error (.breaks (LogFormat.refused format))
    else if o.printConfig then return .error (printSettings settings)
    else return .ok settings

/-! ## Results -/

/-- A report in one line. -/
def Report.describe (r : Report) : Text :=
  let number := Text.ofNat
  match r.status with
  | .success =>
    ("✅ " : Text) ++ r.container ++ (": " : Text) ++
      number r.tagCount ++ (" tags, " : Text) ++ number r.triggerCount ++ (" triggers, " : Text) ++
      number r.variableCount ++ (" variables, " : Text) ++
      number r.vendorCount ++ (" vendor ids (via " : Text) ++ r.strategy.getD "None" ++
      (", " : Text) ++ number r.issueCount ++ (" issues)" : Text)
  | .parseFailed =>
    ("⚠️  " : Text) ++ r.container ++ (": container data not found in " : Text) ++
      number r.sourceLength ++ (" characters; " : Text) ++ number r.vendorCount ++
      (" vendor ids found by scan" : Text)
  | .fetchFailed | .invalidContainer =>
    ("❌ " : Text) ++ r.container ++ (": " : Text) ++ r.status.name ++ (": " : Text) ++
      r.error.getD "None"

/-- The exit code of a command that made a report. -/
def Status.exitCode : Status → ExitCode
  | .success => .success
  | .parseFailed => .parseFailed
  | .fetchFailed => .fetch
  | .invalidContainer => .config

/-- A fault of files is let pass. -/
def letFilesPass (fault : Fault) : Except Fault Unit :=
  if fault.kind = .os then .ok () else .error fault

/-- The file of a summary. -/
def summaryPath (directory : Path) (format : SummaryFormat) : Path :=
  directory.join (Path.ofText (("GTM_Summary." : Text) ++ format.suffix))

/-- Writes a rendered summary into a directory, which is made if it is not there. -/
def saveSummary (directory : Path) (format : SummaryFormat) (rendered : Except Fault Text) :
    m (Except Fault Unit) := do
  match ← Host.makeDirectories directory with
  | .error fault => return letFilesPass fault
  | .ok () =>
    match rendered with
    | .error fault => return .error fault
    | .ok t =>
      match ← Host.writeText (summaryPath directory format) t with
      | .error fault => return letFilesPass fault
      | .ok () => return .ok ()

/-- The directory that a summary is to be written to. -/
def OutputSettings.summaryDirectory? (s : OutputSettings) : Option Path :=
  if s.writeSummary then s.directory else none

/-- A report as JSON, with its summary if one is given. -/
def reportJson (r : Report) (summary : Option Summary) : Except Fault Text :=
  Json.write (.indented true) (.object (r.toMembers ++
    (summary.map fun s => (("summary" : Text), Data.object s.toMembers)).toList))

/-- What is printed of a report and of the files written for it. -/
def reportLines (r : Report) (written : List Path) (rendered : Option (Except Fault Text)) :
    List (Except Fault Text) :=
  .ok r.describe :: written.map (fun p => .ok (("   📄 " : Text) ++ p.text)) ++
    match rendered with
    | some t => [.ok [], t]
    | none => []

/-- Writes the summary, if the settings ask for it, and prints what came of an inspection. -/
def finish (settings : Settings) (o : RunOptions) (r : Report) (sink : Option FileStore) :
    m Outcome := do
  let format := SummaryFormat.ofName o.summaryFormat
  let summary := Summary.of r.container (← Host.now) r.model r.vendors
  let rendered := summary.render format (decide (settings.logging.level = .debug))
  let saved ← match settings.output.summaryDirectory? with
    | some directory => saveSummary directory format rendered
    | none => pure (.ok ())
  match saved with
  | .error fault => return .breaks fault
  | .ok () =>
    let lines :=
      if o.json then [reportJson r (if o.summary then some summary else none)]
      else
        reportLines r ((sink.map (·.written)).getD []) (if o.summary then some rendered else none)
    return .printing r.status.exitCode [] lines

/-- What comes of an inspection that a command makes: its results, or whatever ended it. -/
def conclude (settings : Settings) (o : RunOptions) :
    Except Uncaught Report × Option FileStore → m Outcome
  | (.ok report, sink) => finish settings o report sink
  | (.error uncaught, _) => return .breaks uncaught.fault

/-! ## Commands -/

/-- An inspector of a command. -/
def Surroundings.inspector (s : Surroundings m) (settings : Settings) : Inspector m FileStore :=
  { settings, fetcher := s.fetcher settings.fetch, writer := FileStore.writer }

/-- What a command does under its settings, if its container can be one. -/
def withContainer (s : Surroundings m) (o : RunOptions) (container : Text)
    (act : Settings → m Outcome) : m Outcome := do
  match ← prepare s o with
  | .error outcome => return outcome
  | .ok settings =>
    if Container.isIdentifier container.strip then act settings
    else
      return .complains .config (("❌ Invalid container id: " : Text) ++ container.quote ++
        (" (expected GTM-XXXXXXX)" : Text))

/-- Fetches a container and inspects it. -/
def runInspect (s : Surroundings m) (container : Text) (o : RunOptions) : m Outcome :=
  withContainer s o container fun settings => do
    conclude settings o
      (← (s.inspector settings).inspect settings.output.store? container)

/-- Inspects a source in a file. -/
def runParse (s : Surroundings m) (file : Path) (container : Text) (o : RunOptions) : m Outcome :=
  withContainer s o container fun settings => do
    match ← Host.readLenient file with
    | .error fault =>
      if fault.kind = .os then
        return .complains .config (("❌ Cannot read " : Text) ++ file.text ++ (": " : Text) ++
          fault.message)
      else return .breaks fault
    | .ok source =>
      conclude settings o
        (← (s.inspector settings).inspectSource settings.output.store? container source)

/-- Writes a file with the default settings. -/
def runInitConfig (file : Path) (force : Bool) : m Outcome := do
  match ← Host.holds file, Yaml.write Settings.template with
  | .error fault, _ | _, .error fault => return .breaks fault
  | .ok there, .ok content =>
    if there && !force then
      return .complains .config (("❌ " : Text) ++ file.text ++
        (" already exists (use --force to overwrite)" : Text))
    else
      match ← Host.writeText file content with
      | .error fault =>
        if fault.kind = .os then
          return .complains .config (("❌ Failed to save config file: " : Text) ++ fault.message)
        else return .breaks fault
      | .ok () =>
        return .prints .success (("✅ Wrote default configuration to " : Text) ++ file.text)

/-- What the program can be told. -/
def usage : Text := "Usage: gtm-inspector COMMAND [OPTIONS] [ARGUMENTS]

Commands:
  version                    Print the version
  inspect CONTAINER_ID       Fetch a container and inspect it
  parse FILE -i CONTAINER_ID Inspect a source in a file
  init-config [PATH]         Write a file with the default settings (--force to overwrite)

Options of inspect and parse:
  -c, --config PATH          File with settings
  -e, --env NAME             Environment: development, staging, production or test
  -o, --out PATH             Directory for tables
  --format NAME              Format of tables: json, ndjson or csv
  --debug-table              Write the table of diagnostics too
  --summary                  Print a summary
  --summary-format NAME      Format of summaries: text, json or yaml
  --json                     Print the report as JSON
  -v, --verbose              Log everything
  -q, --quiet                Log errors only
  --print-config             Print the settings and exit"

/-- Runs a command. -/
def Command.run (s : Surroundings m) : Command → m Outcome
  | .help => return .prints .success usage
  | .version => return .prints .success (("GTM Inspector v" : Text) ++ TagAudit.version)
  | .inspect container o => runInspect s container o
  | .parse file container o => runParse s file container o
  | .initConfig file force => runInitConfig file force

/-- Runs the command that a command line spells. -/
def runArguments (s : Surroundings m) (arguments : List Text) : m Outcome := do
  match Command.ofArguments arguments with
  | .error e => return .complains .usage (("Error: " : Text) ++ e.message)
  | .ok command => command.run s

end TagAudit
