import TagAudit.Config.Settings
import TagAudit.Yaml.Value

/-!
# Checking settings

The settings that a mapping spells. A value of another kind counts as the one that it stands for
where that is plain: a number for its numeral, a truth value for its word. All that is wrong is
reported together, each problem with the path to its value.

* `Check` collects problems.
* `Settings.check`, `FetchSettings.check` and `checkLimits` check mappings.
-/

namespace TagAudit

/-- What can be wrong with a value. -/
inductive Complaint where
  | greaterThan
  | greaterThanEqual
  | lessThanEqual
  | floatType
  | floatParsing
  | intType
  | intParsing
  | intParsingSize
  | intFromFloat
  | finiteNumber
  | stringType
  | stringUnicode
  | boolType
  | boolParsing
  | enumeration
  | pathType
  | modelType
  | notAllowed
deriving DecidableEq

/-- The name of a complaint in reports. -/
def Complaint.name : Complaint → Text
  | .greaterThan => "greater_than"
  | .greaterThanEqual => "greater_than_equal"
  | .lessThanEqual => "less_than_equal"
  | .floatType => "float_type"
  | .floatParsing => "float_parsing"
  | .intType => "int_type"
  | .intParsing => "int_parsing"
  | .intParsingSize => "int_parsing_size"
  | .intFromFloat => "int_from_float"
  | .finiteNumber => "finite_number"
  | .stringType => "string_type"
  | .stringUnicode => "string_unicode"
  | .boolType => "bool_type"
  | .boolParsing => "bool_parsing"
  | .enumeration => "enum"
  | .pathType => "path_type"
  | .modelType => "model_type"
  | .notAllowed => "value_error"

/-- A complaint about the value at the end of a path of keys. -/
structure Problem where
  path : List Text
  complaint : Complaint
deriving DecidableEq

/-- A path of keys as one text. -/
def Problem.place (p : Problem) : Text := Text.join "." p.path

/-- All that is wrong with a record of some name, in words. -/
def Problem.list (record : Text) (problems : List Problem) : Text :=
  Text.ofNat problems.length ++
    (if problems.length = 1 then " validation error" else " validation errors" : Text) ++
    (" for " : Text) ++ record ++
    (problems.map fun p => ("\n" : Text) ++ p.place ++ (": " : Text) ++ p.complaint.name).flatten

/-- A checked value, or all that is wrong with it. -/
inductive Check (α : Type) where
  | valid (value : α)
  | invalid (problems : List Problem)

namespace Check

variable {α β : Type}

/-- A checked function at a checked argument. -/
def apply (f : Check (α → β)) (x : Check α) : Check β :=
  match f, x with
  | .valid f, .valid x => .valid (f x)
  | .valid _, .invalid problems => .invalid problems
  | .invalid problems, .valid _ => .invalid problems
  | .invalid first, .invalid second => .invalid (first ++ second)

instance : Applicative Check where
  pure := .valid
  seq f x := apply f (x ())

/-- The problems of a value inside another one. -/
def under (key : Text) : Check α → Check α
  | .valid x => .valid x
  | .invalid problems => .invalid (problems.map fun p => { p with path := key :: p.path })

/-- One value, or one complaint. -/
def of : Except Complaint α → Check α
  | .ok x => .valid x
  | .error complaint => .invalid [⟨[], complaint⟩]

/-- The value of a key, or a default where it is missing. -/
def field (entries : Yaml.Entries) (key : Text) (default : α) (read : Yaml.Value → Check α) :
    Check α :=
  match entries.at? key with
  | some v => (read v).under key
  | none => .valid default

/-- A value that has to be a mapping. -/
def mapping (read : Yaml.Entries → Check α) (v : Yaml.Value) : Check α :=
  match v with
  | .map entries => read entries
  | _ => .invalid [⟨[], .modelType⟩]

end Check

/-! ## Numerals -/

/-- Single underscores dropped from between the digits of a numeral; none where there are none to
drop, or where they stand otherwise. -/
def dropUnderscores? (t : Text) : Option Text :=
  let mark : CodePoint := '_'
  if !t.contains mark || t.head? = some mark || t.getLast? = some mark ||
      ("__" : Text).isInfixOf t then none
  else some (t.filter fun (c : CodePoint) => decide (c ≠ mark))

/-- A sign, and what follows it. -/
def signOf : Text → Bool × Text
  | c :: rest =>
    if c = '-' then (true, rest) else if c = '+' then (false, rest) else (false, c :: rest)
  | [] => (false, [])

/-- The values of ASCII digits; none if there is anything else. -/
def asciiDigits? (t : Text) : Option (List Nat) :=
  if t.all CodePoint.isAsciiDigit then some (t.map fun c => c.val - 0x30) else none

/-- The number of a decimal numeral, or of a word for infinity or for what is no number. -/
def bareFloat? (t : Text) : Option Binary64 := do
  let (negative, body) := signOf t
  let word := body.lower
  if word = ("inf" : Text) || word = ("infinity" : Text) then return .infinite negative
  if word = ("nan" : Text) then return .nan
  let (mantissa, exponent) ← match Text.splitOnce? "e" word with
    | some (mantissa, exponent) => do
      let (minus, digits) := signOf exponent
      let values ← asciiDigits? digits
      if values.isEmpty then none
      let n : Int := Numeral.toNat 10 values
      pure (mantissa, if minus then -n else n)
    | none => pure (word, (0 : Int))
  let (whole, places) := (Text.splitOnce? "." mantissa).getD (mantissa, [])
  let values ← asciiDigits? (whole ++ places)
  if values.isEmpty then none
  return Binary64.ofDecimal negative (Numeral.toNat 10 values) (exponent - places.length)

/-- The number that a text spells; underscores only where no blanks are. -/
def spelledFloat? (t : Text) : Option Binary64 :=
  (bareFloat? t.strip).or ((dropUnderscores? t).bind bareFloat?)

/-- The integer that a text spells, with zeros behind its point if it has one. -/
def spelledInt (t : Text) : Except Complaint Int :=
  let (negative, body) := signOf t.strip
  let (whole, places) := (Text.splitOnce? "." body).getD (body, [])
  let whole := (dropUnderscores? whole).getD whole
  match asciiDigits? whole with
  | none => .error .intParsing
  | some digits =>
    if digits.isEmpty || !places.all (fun c => decide (c.val = 0x30)) then .error .intParsing
    else if Fault.digitLimit < digits.length then .error .intParsingSize
    else
      let n : Int := Numeral.toNat 10 digits
      .ok (if negative then -n else n)

/-! ## Values -/

open Yaml (Value Entries)

/-- The text that octets encode. -/
def readOctets (octets : Octets) (complaint : Complaint) : Except Complaint Text :=
  match Utf8.decode? octets with
  | some t => .ok t
  | none => .error complaint

/-- A text, also in octets. -/
def readText : Value → Except Complaint Text
  | .text t => .ok t
  | .bytes octets => readOctets octets .stringUnicode
  | _ => .error .stringType

/-- A text or null. -/
def readOptionalText : Value → Except Complaint (Option Text)
  | .null => .ok none
  | v => (readText v).map some

/-- The bound below which a number with places has a whole part that counts as an integer. -/
def wholeBound : Nat := twoPow 63

/-- The integer that a number is equal to. -/
def wholeFloat (x : Binary64) : Except Complaint Int :=
  match x with
  | .nan | .infinite _ => .error .finiteNumber
  | x =>
    match x.toInt? with
    | some n => if n.natAbs < wholeBound then .ok n else .error .intParsingSize
    | none => .error .intFromFloat

/-- An integer. -/
def readInt : Value → Except Complaint Int
  | .int n => .ok n
  | .bool b => .ok (if b then 1 else 0)
  | .float x => wholeFloat x
  | .nan _ => wholeFloat .nan
  | .text t => spelledInt t
  | .bytes octets => do spelledInt (← readOctets octets .intParsing)
  | _ => .error .intType

/-- An integer or null. -/
def readOptionalInt : Value → Except Complaint (Option Int)
  | .null => .ok none
  | v => (readInt v).map some

/-- An integer that is not below a bound. -/
def readCount (least : Nat) (v : Value) : Except Complaint Nat := do
  let n ← readInt v
  if n < least then .error .greaterThanEqual else .ok n.toNat

/-- The number that a text spells. -/
def spelledFloat (t : Text) : Except Complaint Binary64 :=
  match spelledFloat? t with
  | some x => .ok x
  | none => .error .floatParsing

/-- A number. -/
def readFloat : Value → Except Complaint Binary64
  | .float x => .ok x
  | .nan _ => .ok .nan
  | .int n => .ok (Binary64.ofInt n)
  | .bool b => .ok (Binary64.ofInt (if b then 1 else 0))
  | .text t => spelledFloat t
  | .bytes octets => do spelledFloat (← readOctets octets .floatParsing)
  | _ => .error .floatType

/-- Whether a number is at most a whole one. -/
def atMost (n : Nat) : Binary64 → Bool
  | .nan => false
  | .infinite negative => negative
  | .finite negative m e => negative || m * twoPow e.toNat ≤ n * twoPow (-e).toNat

/-- The longest timeout in seconds. -/
def maxTimeout : Nat := 300

/-- A timeout: above zero, and not too long. -/
def readTimeout (v : Value) : Except Complaint Binary64 := do
  let x ← readFloat v
  if !atMost maxTimeout x then .error .lessThanEqual
  else if !x.isPositive then .error .greaterThan
  else .ok x

/-- The words for true. -/
def onWords : List Text := ["1", "on", "t", "true", "y", "yes"]

/-- The words for false. -/
def offWords : List Text := ["0", "off", "f", "false", "n", "no"]

/-- A truth value that an integer stands for. -/
def boolOfInt (n : Int) : Except Complaint Bool :=
  if n = 0 then .ok false
  else if n = 1 then .ok true
  else if n.natAbs < wholeBound then .error .boolParsing
  else .error .boolType

/-- The truth value that a word stands for. -/
def boolOfWord (t : Text) : Except Complaint Bool :=
  if onWords.contains t.lower then .ok true
  else if offWords.contains t.lower then .ok false
  else .error .boolParsing

/-- A truth value. -/
def readBool : Value → Except Complaint Bool
  | .bool b => .ok b
  | .int n => boolOfInt n
  | .float x =>
    match wholeFloat x with
    | .ok n => boolOfInt n
    | .error _ => .error .boolType
  | .text t => boolOfWord t
  | .bytes octets => do boolOfWord (← readOctets octets .boolParsing)
  | _ => .error .boolType

/-- A format of tables. -/
def readFormat : Value → Except Complaint TableFormat
  | .text t =>
    match TableFormat.ofName? t with
    | some format => .ok format
    | none => .error .enumeration
  | _ => .error .enumeration

/-- A directory or null. -/
def readDirectory : Value → Except Complaint (Option Path)
  | .null => .ok none
  | .text t => .ok (some (Path.ofText t))
  | _ => .error .pathType

/-- A text that names something. -/
def readName {α : Type} (ofName? : Text → Option α) (v : Value) : Except Complaint α := do
  match ofName? (← readText v) with
  | some x => .ok x
  | none => .error .notAllowed

/-! ## Settings -/

/-- A field that is read by itself. -/
def checkField {α : Type} (entries : Entries) (key : Text) (default : α)
    (read : Value → Except Complaint α) : Check α :=
  Check.field entries key default fun v => Check.of (read v)

/-- The limits of a search. -/
def checkLimits (entries : Entries) : Check Source.Limits :=
  let count (key : Text) (default least : Nat) : Check Nat :=
    checkField entries key default (readCount least)
  let base : Source.Limits := {}
  Source.Limits.mk <$> count "max_scan_chars" base.window 1
    <*> count "max_brace_positions" base.bracePositions 1
    <*> count "min_candidate_length" base.minLength 0
    <*> count "max_candidates" base.maxCandidates 1
    <*> count "tail_margin" base.tailMargin 0

/-- The settings of a download. -/
def FetchSettings.check (entries : Entries) : Check FetchSettings :=
  let base : FetchSettings := {}
  FetchSettings.mk <$> checkField entries "endpoint" base.endpoint readText
    <*> checkField entries "timeout_seconds" base.timeout readTimeout
    <*> checkField entries "user_agent" base.userAgent readOptionalText

/-- The settings of output. -/
def OutputSettings.check (entries : Entries) : Check OutputSettings :=
  let base : OutputSettings := {}
  OutputSettings.mk <$> checkField entries "directory" base.directory readDirectory
    <*> checkField entries "format" base.format readFormat
    <*> checkField entries "write_debug" base.writeDebug readBool
    <*> checkField entries "write_summary" base.writeSummary readBool

/-- The settings of logging. -/
def LoggingSettings.check (entries : Entries) : Check LoggingSettings :=
  let base : LoggingSettings := {}
  LoggingSettings.mk <$> checkField entries "level" base.level (readName LogLevel.ofName?)
    <*> checkField entries "format" base.format readText

/-- All settings. -/
def Settings.check (entries : Entries) : Check Settings :=
  let base : Settings := {}
  Settings.mk
    <$> checkField entries "environment" base.environment (readName Environment.ofName?)
    <*> Check.field entries "fetch" base.fetch (Check.mapping FetchSettings.check)
    <*> Check.field entries "locator" base.locator (Check.mapping checkLimits)
    <*> Check.field entries "output" base.output (Check.mapping OutputSettings.check)
    <*> Check.field entries "logging" base.logging (Check.mapping LoggingSettings.check)

end TagAudit
