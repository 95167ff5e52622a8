import TagAudit.Command.Arguments
import TagAudit.Config.Settings

/-!
# Commands

What the program can be told to do.

* `Command.ofArguments` is the command that a command line spells.
-/

namespace TagAudit

/-- What inspecting commands can be told besides the container. -/
structure RunOptions where
  config : Option Path := none
  environment : Option Text := none
  out : Option Path := none
  format : Option TableFormat := none
  debugTable : Bool := false
  /-- Whether to print a summary. -/
  summary : Bool := false
  summaryFormat : Text := "text"
  json : Bool := false
  verbose : Bool := false
  quiet : Bool := false
  printConfig : Bool := false
deriving DecidableEq

/-- What the program can be told to do. -/
inductive Command where
  | help
  | version
  /-- Fetch a container and inspect it. -/
  | inspect (container : Text) (options : RunOptions)
  /-- Inspect a source in a file. -/
  | parse (file : Path) (container : Text) (options : RunOptions)
  /-- Write a file with the default settings. -/
  | initConfig (file : Path) (force : Bool)
deriving DecidableEq

namespace Command

/-- An option without a value. -/
def flag (long : String) (short : Option CodePoint := none) : OptionForm :=
  { long, short, takesValue := false }

/-- An option with a value. -/
def valued (long : String) (short : Option CodePoint := none) : OptionForm :=
  { long, short, takesValue := true }

/-- The option that asks for help. -/
def helpForm : OptionForm := flag "help"

/-- The options of inspecting commands. -/
def runForms : List OptionForm := [
  valued "config" (some 'c'), valued "env" (some 'e'), valued "out" (some 'o'), valued "format",
  flag "debug-table", flag "summary", valued "summary-format", flag "json",
  flag "verbose" (some 'v'), flag "quiet" (some 'q'), flag "print-config", helpForm]

/-- The format that an option names. -/
def formatOf (a : Arguments) : Except UsageError (Option TableFormat) :=
  match a.value? "format" with
  | none => .ok none
  | some name =>
    match TableFormat.ofName? name with
    | some format => .ok (some format)
    | none => .error (.badChoice "format" name)

/-- The options of an inspecting command. -/
def runOptions (a : Arguments) : Except UsageError RunOptions := do
  return {
    config := (a.value? "config").map Path.ofText
    environment := a.value? "env"
    out := (a.value? "out").map Path.ofText
    format := ← formatOf a
    debugTable := a.has "debug-table"
    summary := a.has "summary"
    summaryFormat := (a.value? "summary-format").getD "text"
    json := a.has "json"
    verbose := a.has "verbose"
    quiet := a.has "quiet"
    printConfig := a.has "print-config" }

/-- The one argument of a command besides its options. -/
def single? (a : Arguments) : Except UsageError (Option Text) :=
  match a.others with
  | [] => .ok none
  | [argument] => .ok (some argument)
  | _ :: extra :: _ => .error (.unexpectedArgument extra)

/-- An argument that has to be there. -/
def required (name : String) : Option Text → Except UsageError Text
  | some t => .ok t
  | none => .error (.missingArgument name)

/-- The command that prints the version. -/
def readVersion (a : Arguments) : Except UsageError Command :=
  match a.others with
  | [] => .ok .version
  | extra :: _ => .error (.unexpectedArgument extra)

/-- The command that fetches. -/
def readInspect (a : Arguments) : Except UsageError Command := do
  let container ← required "CONTAINER_ID" (← single? a)
  return .inspect container (← runOptions a)

/-- The command that reads a file. -/
def readParse (a : Arguments) : Except UsageError Command := do
  let file ← required "FILE" (← single? a)
  let container ← required "--container-id" (a.value? "container-id")
  return .parse (Path.ofText file) container (← runOptions a)

/-- The command that writes a file with settings. -/
def readInitConfig (a : Arguments) : Except UsageError Command := do
  return .initConfig (Path.ofText ((← single? a).getD "gtm_inspector.yaml")) (a.has "force")

/-- A command whose options have the given forms; asking for help comes before all else. -/
def readWith (forms : List OptionForm) (read : Arguments → Except UsageError Command)
    (arguments : List Text) : Except UsageError Command := do
  let a ← Arguments.read forms arguments
  if a.has "help" then return .help else read a

/-- The command of a name, with its arguments. -/
def ofName (name : Text) (arguments : List Text) : Except UsageError Command :=
  if name = ("version" : Text) then readWith [helpForm] readVersion arguments
  else if name = ("inspect" : Text) then readWith runForms readInspect arguments
  else if name = ("parse" : Text) then
    readWith (valued "container-id" (some 'i') :: runForms) readParse arguments
  else if name = ("init-config" : Text) then
    readWith [flag "force", helpForm] readInitConfig arguments
  else .error (.unknownCommand name)

/-- The command that a command line spells. -/
def ofArguments : List Text → Except UsageError Command
  | [] => .error .missingCommand
  | argument :: rest =>
    if argument = ("--" : Text) then
      match rest with
      | [] => .error .missingCommand
      | name :: rest => ofName name rest
    else if argument = ("--help" : Text) then .ok .help
    else if Arguments.holdsOptions argument then
      .error (.unknownOption (Arguments.splitAttached argument).1)
    else ofName argument rest

end Command

end TagAudit
