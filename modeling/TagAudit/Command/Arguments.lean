import TagAudit.Text.Basic

/-!
# Arguments of a command

Options and other arguments, as they stand on a command line in any order. An option has a long name
behind two hyphens and may have a letter behind one; letters may stand together, the last of them
with its value attached. What follows two hyphens alone is no option.

* `Arguments.read` reads a command line.
* `Arguments.value?` is what an option was given; the last time counts.
-/

namespace TagAudit

/-- How an option is written. -/
structure OptionForm where
  /-- The name behind two hyphens. -/
  long : Text
  /-- The letter behind one hyphen. -/
  short : Option CodePoint := none
  /-- Whether a value belongs to the option. -/
  takesValue : Bool
deriving DecidableEq

/-- What is wrong with a command line. -/
inductive UsageError where
  | unknownOption (name : Text)
  | missingValue (name : Text)
  | unexpectedValue (name : Text)
  | missingArgument (name : Text)
  | unexpectedArgument (argument : Text)
  | badChoice (name value : Text)
  | unknownCommand (name : Text)
  | missingCommand
deriving DecidableEq

/-- What is wrong, in words. -/
def UsageError.message : UsageError → Text
  | .unknownOption name => ("No such option: " : Text) ++ name
  | .missingValue name => ("Option '" : Text) ++ name ++ ("' requires an argument." : Text)
  | .unexpectedValue name => ("Option '" : Text) ++ name ++ ("' does not take a value." : Text)
  | .missingArgument name => ("Missing '" : Text) ++ name ++ ("'." : Text)
  | .unexpectedArgument argument =>
    ("Got unexpected extra argument (" : Text) ++ argument ++ (")" : Text)
  | .badChoice name value =>
    ("Invalid value for '" : Text) ++ name ++ ("': '" : Text) ++ value ++ ("'." : Text)
  | .unknownCommand name => ("No such command '" : Text) ++ name ++ ("'." : Text)
  | .missingCommand => "Missing command."

/-- What stands on a command line. -/
structure Arguments where
  /-- The long names of the options given, with their values, in order. -/
  options : List (Text × Option Text) := []
  /-- The other arguments, in order. -/
  others : List Text := []
deriving DecidableEq

namespace Arguments

/-- The arguments with one more option. -/
def addOption (a : Arguments) (name : Text) (value : Option Text) : Arguments :=
  { a with options := a.options ++ [(name, value)] }

/-- Whether an option was given. -/
def has (a : Arguments) (name : Text) : Bool := a.options.any fun o => decide (o.1 = name)

/-- The value that an option was given last. -/
def value? (a : Arguments) (name : Text) : Option Text :=
  (a.options.reverse.find? fun o => decide (o.1 = name)).bind (·.2)

/-! ## Reading -/

/-- The arguments after one that holds options, and the option that waits for a value, if one
does. -/
abbrev Opened := Arguments × Option OptionForm

/-- An option with an attached value, or without one. -/
def openOption (a : Arguments) (form : OptionForm) (attached : Option Text) :
    Except UsageError Opened :=
  match form.takesValue, attached with
  | true, some value => .ok (a.addOption form.long (some value), none)
  | true, none => .ok (a, some form)
  | false, some _ => .error (.unexpectedValue form.long)
  | false, none => .ok (a.addOption form.long none, none)

/-- The letters of an argument behind its hyphen. What follows the letter of an option with a value
is that value. -/
def openLetters (forms : List OptionForm) (a : Arguments) : Text → Except UsageError Opened
  | [] => .ok (a, none)
  | c :: rest =>
    match forms.find? fun form => decide (form.short = some c) with
    | none => .error (.unknownOption ['-', c])
    | some form =>
      if form.takesValue then openOption a form (if rest.isEmpty then none else some rest)
      else openLetters forms (a.addOption form.long none) rest

/-- A name and what is attached to it by an equals sign. -/
def splitAttached (argument : Text) : Text × Option Text :=
  match Text.splitOnce? "=" argument with
  | some (name, value) => (name, some value)
  | none => (argument, none)

/-- An argument that starts with a hyphen. -/
def openArgument (forms : List OptionForm) (a : Arguments) (argument : Text) :
    Except UsageError Opened :=
  let (name, attached) := splitAttached argument
  match forms.find? fun form => decide (("--" : Text) ++ form.long = name) with
  | some form => openOption a form attached
  | none =>
    if ("--" : Text).isPrefixOf argument then .error (.unknownOption name)
    else openLetters forms a (argument.drop 1)

/-- Whether an argument holds options. -/
def holdsOptions (argument : Text) : Bool :=
  decide (argument.head? = some ('-' : CodePoint)) && 1 < argument.length

/-- The arguments after those read so far. -/
def readFrom (forms : List OptionForm) (a : Arguments) : List Text → Except UsageError Arguments
  | [] => .ok a
  | argument :: rest =>
    if argument = ("--" : Text) then .ok { a with others := a.others ++ rest }
    else if holdsOptions argument then
      match openArgument forms a argument with
      | .error e => .error e
      | .ok (a, none) => readFrom forms a rest
      | .ok (a, some form) =>
        match rest with
        | value :: rest => readFrom forms (a.addOption form.long (some value)) rest
        | [] => .error (.missingValue form.long)
    else readFrom forms { a with others := a.others ++ [argument] } rest

/-- Reads a command line with options of the given forms. -/
def read (forms : List OptionForm) (arguments : List Text) : Except UsageError Arguments :=
  readFrom forms {} arguments

end Arguments

end TagAudit
