import TagAudit.Host.Path
import TagAudit.Source.Locate
import TagAudit.Table.Format

/-!
# Settings

What an inspection can be told: where to fetch from, how hard to search, where to write, and what to
say meanwhile. Every setting has a default.
-/

namespace TagAudit

/-- The environments that a configuration may have sections for. -/
inductive Environment where
  | development
  | staging
  | production
  | test
deriving DecidableEq

namespace Environment

/-- All environments. -/
def all : List Environment := [.development, .staging, .production, .test]

/-- The name of an environment. -/
def name : Environment → Text
  | .development => "development"
  | .staging => "staging"
  | .production => "production"
  | .test => "test"

/-- The environment of a name. -/
def ofName? (name : Text) : Option Environment := all.find? fun e => decide (e.name = name)

end Environment

/-- How grave a message has to be to be logged. -/
inductive LogLevel where
  | debug
  | info
  | warning
  | error
  | critical
deriving DecidableEq

namespace LogLevel

/-- All levels. -/
def all : List LogLevel := [.debug, .info, .warning, .error, .critical]

/-- The name of a level. -/
def name : LogLevel → Text
  | .debug => "DEBUG"
  | .info => "INFO"
  | .warning => "WARNING"
  | .error => "ERROR"
  | .critical => "CRITICAL"

/-- A capital letter of ASCII for each letter that has one. -/
def capital (c : CodePoint) : CodePoint :=
  if c.isAsciiLower then CodePoint.ofNat (c.val - 0x20)
  else if c.val = 0x131 then 'I'
  else if c.val = 0x17F then 'S'
  else c

/-- The level of a name in any case. -/
def ofName? (name : Text) : Option LogLevel :=
  all.find? fun l => decide (l.name = name.map capital)

end LogLevel

/-- How to download a container. -/
structure FetchSettings where
  endpoint : Text := "https://www.googletagmanager.com/gtm.js"
  /-- Seconds to wait for an answer. -/
  timeout : Binary64 := Binary64.ofInt 30
  userAgent : Option Text := none
deriving DecidableEq

/-- Where and how tables are written. -/
structure OutputSettings where
  /-- Nothing is written to files without a directory. -/
  directory : Option Path := none
  format : TableFormat := .csv
  /-- Whether to write the table of diagnostics too. -/
  writeDebug : Bool := false
  /-- Whether to write the summary to a file too. -/
  writeSummary : Bool := false
deriving DecidableEq

/-- What to log, and how. -/
structure LoggingSettings where
  level : LogLevel := .warning
  format : Text := "%(asctime)s %(levelname)s %(name)s: %(message)s"
deriving DecidableEq

/-- All settings. -/
structure Settings where
  environment : Environment := .production
  fetch : FetchSettings := {}
  locator : Source.Limits := {}
  output : OutputSettings := {}
  logging : LoggingSettings := {}
deriving DecidableEq

namespace Settings

/-- A group of settings as data. -/
def ofFields (entries : List (String × Data)) : Data :=
  .object (entries.map fun (k, v) => ((k : Text), v))

/-- A text or null. -/
def optional : Option Text → Data
  | some t => .text t
  | none => .null

/-- The limits of a search as data. -/
def limits (l : Source.Limits) : Data := ofFields [
  ("max_scan_chars", .int l.window),
  ("max_brace_positions", .int l.bracePositions),
  ("min_candidate_length", .int l.minLength),
  ("max_candidates", .int l.maxCandidates),
  ("tail_margin", .int l.tailMargin)]

/-- All settings as data. -/
def toMembers (s : Settings) : Members Data := [
  ("environment", .text s.environment.name),
  ("fetch", ofFields [
    ("endpoint", .text s.fetch.endpoint),
    ("timeout_seconds", .float s.fetch.timeout),
    ("user_agent", optional s.fetch.userAgent)]),
  ("locator", limits s.locator),
  ("output", ofFields [
    ("directory", optional (s.output.directory.map (·.text))),
    ("format", .text s.output.format.name),
    ("write_debug", .bool s.output.writeDebug),
    ("write_summary", .bool s.output.writeSummary)]),
  ("logging", ofFields [
    ("level", .text s.logging.level.name),
    ("format", .text s.logging.format)])]

/-- What a new configuration file says: the defaults, and sections for two environments. -/
def template : Members Data := [
  ("environment", .text Environment.production.name),
  ("fetch", ofFields [
    ("endpoint", .text ({} : FetchSettings).endpoint),
    ("timeout_seconds", .float ({} : FetchSettings).timeout),
    ("user_agent", .null)]),
  ("locator", limits {}),
  ("output", ofFields [
    ("directory", .null),
    ("format", .text TableFormat.csv.name),
    ("write_debug", .bool false),
    ("write_summary", .bool false)]),
  ("logging", ofFields [("level", .text LogLevel.warning.name)]),
  ("environments", ofFields [
    ("development", ofFields [
      ("output", ofFields [("write_debug", .bool true), ("write_summary", .bool true)]),
      ("logging", ofFields [("level", .text LogLevel.debug.name)])]),
    ("test", ofFields [("fetch", ofFields [("timeout_seconds", .float (Binary64.ofInt 5))])])])]

end Settings

end TagAudit
