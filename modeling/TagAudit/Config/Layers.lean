import TagAudit.Config.Check
import TagAudit.Host.Basic
import TagAudit.Yaml.Reader

/-!
# Layers of configuration

Settings come from four layers, each laid over those before it: a file, the section of the file for
the environment, variables, and overrides.

* `variableLayer` is the layer of the variables.
* `effective` is the mapping that all layers make.
* `Settings.load` reads the file and checks that mapping; `Settings.loadBy` does so with any reader
  of documents.
-/

namespace TagAudit

open Yaml (Value Entries Key)

/-- Variables of the environment that the program runs in. -/
abbrev Variables := Members Text

/-- Why there are no settings. -/
inductive ConfigFailure where
  | fileMissing (p : Path)
  | fileUnreadable (fault : Fault)
  | fileMalformed (m : Yaml.Malformed)
  | fileNoMapping
  /-- A key at the top is no text. -/
  | oddKey
  | invalid (problems : List Problem)
  /-- A layer has a shape that layers cannot have. -/
  | misshapen (fault : Fault)

/-- The name of a variable of the program. -/
def variableName (name : String) : Text := ("GTM_INSPECTOR_" : Text) ++ (name : Text)

/-- A layer that sets one value in one section. -/
def setting (group key : String) (v : Value) : Entries :=
  [(.text group, .map [(.text key, v)])]

/-- The layer of a variable that sets a text, unless it is empty. -/
def textVariable (env : Variables) (name group key : String) : Entries :=
  match env.get? (variableName name) with
  | some (c :: t) => setting group key (.text (c :: t))
  | _ => []

/-- The layer of the variables; the one for debugging sets the level whatever the one for the level
says. -/
def variableLayer (env : Variables) : Entries :=
  let debug : Entries :=
    if env.get? (variableName "DEBUG") = some ("true" : Text) then
      (setting "output" "write_debug" (.bool true)).merge
        (setting "logging" "level" (.text LogLevel.debug.name))
    else []
  (((textVariable env "TIMEOUT" "fetch" "timeout_seconds").merge
    (textVariable env "ENDPOINT" "fetch" "endpoint")).merge
    (textVariable env "OUTPUT_DIR" "output" "directory")).merge
    (textVariable env "LOG_LEVEL" "logging" "level") |>.merge debug

/-! ## Environments -/

/-- The name of the environment: the one asked for, or else that of the variable, or else that of
the file, or else production. -/
def environmentValue (file : Entries) (asked : Option Text) (env : Variables) : Value :=
  match asked.or (env.get? (variableName "ENV")) with
  | some name => .text name
  | none => (file.at? "environment").getD (.text Environment.production.name)

/-- The item of a list that an environment picks, which has to be its number. -/
def pickItem (items : List Value) (environment : Value) : Except Fault Value :=
  let pick (n : Int) : Except Fault Value :=
    if n < -(twoPow 63 : Nat) || (twoPow 63 : Nat) ≤ n then .error beyond
    else
      let i := if n < 0 then n + items.length else n
      match items[i.toNat]? with
      | some v => if i < 0 then .error outside else .ok v
      | none => .error outside
  match environment.int? with
  | some n => pick n
  | none => .error .unusable
where
  /-- There is no item of that number. -/
  outside : Fault := .worded .index "list index out of range"
  /-- No list is that long. -/
  beyond : Fault := .worded .index "cannot fit 'int' into an index-sized integer"

/-- The octet that an environment picks: it has to occur, and then the one at the index of its own
number is picked. -/
def pickOctet (octets : Octets) (environment : Value) : Except Fault (Option Value) :=
  match environment.int? with
  | some n =>
    if n < 0 || 256 ≤ n then .error noOctet
    else if octets.contains (UInt8.ofNat n.toNat) then
      match octets[n.toNat]? with
      | some octet => .ok (some (.int octet.toNat))
      | none => .error outside
    else .ok none
  | none => .error .unusable
where
  /-- No octet is that large, or it is below zero. -/
  noOctet : Fault := .worded .value "byte must be in range(0, 256)"
  /-- There is no octet of that index. -/
  outside : Fault := .worded .index "index out of range"

/-- The section for an environment, if there is one. Sections stand in a mapping, which is empty if
nothing is there; what is no mapping has none, or cannot be asked. -/
def sectionOf (sections environment : Value) : Except Fault (Option Value) :=
  match if sections.isTruthy then sections else .map [] with
  | .map entries =>
    match environment.key? with
    | some key => .ok (Entries.get? entries key)
    | none => .error .unusable
  | .text t =>
    match environment with
    | .text name => if name.isInfixOf t then .error .unusable else .ok none
    | _ => .error .unusable
  | .bytes octets =>
    match environment with
    | .bytes part => if part.isInfixOf octets then .error .unusable else .ok none
    | _ => pickOctet octets environment
  | .list items =>
    if items.any environment.same then (pickItem items environment).map some else .ok none
  | .set keys =>
    match environment, environment.key? with
    -- A set is no key, and all the same can be looked for in another one.
    | .set _, _ => .ok none
    | _, some key => if keys.contains key then .error .unusable else .ok none
    | _, none => .error .unusable
  -- No environment is a pair.
  | .pairs _ => .ok none
  | _ => .error .unusable

/-- Whether an environment can be put in words; an integer may be too long for that. -/
def nameable : Value → Except Fault Unit
  | .int n => (writeInteger n).map fun _ => ()
  | _ => .ok ()

/-- A mapping with the section for an environment laid over it. The section has to be a mapping too,
and the log says which environment it is for. -/
def withSection (base : Entries) (environment : Value) : Option Value → Except Fault Entries
  | none => .ok base
  | some (.map entries) => (nameable environment).map fun () => base.merge entries
  | some _ => .error .noMembers

/-- The mapping that all layers make. The environment is the one that was chosen, unless the
overrides have another one. -/
def effective (file : Entries) (asked : Option Text) (env : Variables) (overrides : Entries) :
    Except Fault Entries := do
  let environment := environmentValue file asked env
  let sections := (file.at? "environments").getD .null
  let base := file.erase (.text "environments")
  let chosen ← withSection base environment (← sectionOf sections environment)
  return ((chosen.set (.text "environment") environment).merge (variableLayer env)).merge
    overrides

/-! ## Loading -/

/-- Whether a key is a text. -/
def isTextKey : Key → Bool
  | .text _ => true
  | _ => false

/-- The settings that a mapping spells. -/
def Settings.ofEntries (entries : Entries) : Except ConfigFailure Settings :=
  if entries.any fun e => !isTextKey e.1 then .error .oddKey
  else
    match Settings.check entries with
    | .valid settings => .ok settings
    | .invalid problems => .error (.invalid problems)

/-- The settings of all layers. -/
def Settings.ofLayers (file : Entries) (asked : Option Text) (env : Variables)
    (overrides : Entries) : Except ConfigFailure Settings :=
  match effective file asked env overrides with
  | .ok entries => Settings.ofEntries entries
  | .error fault => .error (.misshapen fault)

/-- The layer of a document that was read. A document without a value is an empty layer. -/
def layerOf : Except Yaml.Failure Value → Except ConfigFailure Entries
  | .error (.malformed m) => .error (.fileMalformed m)
  | .error (.badValue fault) => .error (.misshapen fault)
  | .ok (.map entries) => .ok entries
  | .ok v => if v.isTruthy then .error .fileNoMapping else .ok []

section

variable {m : Type → Type} [Monad m] [Host m] (parse : Text → Except Yaml.Failure Value)

/-- The layer of a configuration file. -/
def readLayer (p : Path) : m (Except ConfigFailure Entries) := do
  match ← Host.holds p with
  | .error fault => return .error (.misshapen fault)
  | .ok false => return .error (.fileMissing p)
  | .ok true =>
    match ← Host.readText p with
    | .ok t => return layerOf (parse t)
    | .error fault =>
      return .error (if fault.kind = .os then .fileUnreadable fault else .misshapen fault)

/-- Loads the settings from a file, if one is given, and from the other layers. -/
def Settings.loadBy (p : Option Path) (asked : Option Text) (env : Variables)
    (overrides : Entries) : m (Except ConfigFailure Settings) := do
  match p with
  | none => return Settings.ofLayers [] asked env overrides
  | some p =>
    return (← readLayer parse p).bind fun file => Settings.ofLayers file asked env overrides

/-- Loads the settings from a YAML file and the other layers. -/
def Settings.load : Option Path → Option Text → Variables → Entries →
    m (Except ConfigFailure Settings) :=
  Settings.loadBy Yaml.read

end

/-! ## Wording -/

/-- What is wrong, in words. -/
def ConfigFailure.message : ConfigFailure → Text
  | .fileMissing p => ("Config file not found: " : Text) ++ p.text
  | .fileUnreadable fault => ("Failed to read config file: " : Text) ++ fault.message
  | .fileMalformed m =>
    ("Failed to parse YAML config: " : Text) ++ (m.reason : Text) ++ (" in line " : Text) ++
      Text.ofNat (m.line + 1) ++ (", column " : Text) ++ Text.ofNat (m.column + 1)
  | .fileNoMapping => "Config file must contain a YAML dictionary"
  | .oddKey => "Invalid configuration: keywords must be strings"
  | .invalid problems =>
    ("Invalid configuration: " : Text) ++ Problem.list "InspectorConfig" problems
  | .misshapen fault => fault.message

end TagAudit
