import TagAudit.Data.Basic

/-!
# Issues

An issue records one operation that failed without stopping the run: which component failed at what,
how bad it is, and the fault behind it.

* `classify` gives severity and category of a fault.
* `Issue.ofFault` is the issue of a fault.
-/

namespace TagAudit

/-- How bad an issue is. -/
inductive Severity where
  | critical
  | high
  | medium
  | low
  | info
deriving DecidableEq

/-- The word for a severity. -/
def Severity.name : Severity → Text
  | critical => "critical"
  | high => "high"
  | medium => "medium"
  | low => "low"
  | info => "info"

/-- The severity of a word. -/
def Severity.ofName (name : Text) : Except Fault Severity :=
  match [critical, high, medium, low, info].find? fun s => decide (s.name = name) with
  | some s => .ok s
  | none => .error (.worded .value (name.quote ++ (" is not a valid IssueSeverity" : Text)))

/-- What an issue is about. -/
inductive Category where
  | network
  | parsing
  | decoding
  | configuration
  | dataQuality
  | memory
  | unknown
deriving DecidableEq

/-- The word for a category. -/
def Category.name : Category → Text
  | network => "network"
  | parsing => "parsing"
  | decoding => "decoding"
  | configuration => "configuration"
  | dataQuality => "data_quality"
  | memory => "memory"
  | unknown => "unknown"

/-- The category of a word. -/
def Category.ofName (name : Text) : Except Fault Category :=
  match [network, parsing, decoding, configuration, dataQuality, memory, unknown].find?
    fun c => decide (c.name = name) with
  | some c => .ok c
  | none => .error (.worded .value (name.quote ++ (" is not a valid IssueCategory" : Text)))

/-- Whether a class of faults is about lack of memory. -/
def Fault.Kind.isMemory : Fault.Kind → Bool
  | .memory => true
  | .derived _ base => base.isMemory
  | _ => false

/-- Whether a class of faults is about a value that cannot be read or written. -/
def Fault.Kind.isValue : Fault.Kind → Bool
  | .value | .json | .literal | .evaluation | .encoding | .validation => true
  | .derived _ base => base.isValue
  | _ => false

/-- Whether a class of faults is about data of an unexpected shape. -/
def Fault.Kind.isShape : Fault.Kind → Bool
  | .key | .index | .attribute | .type => true
  | .derived _ base => base.isShape
  | _ => false

/-- Words that point to the network, wherever in a message they stand. -/
def networkWords : List Text := ["timeout", "connection", "network", "dns"]

/-- Severity and category of a fault: lack of memory is critical, then the words of the message
decide, then the class of the fault. -/
def classify (fault : Fault) : Severity × Category :=
  if fault.kind.isMemory then (.critical, .memory)
  else if networkWords.any fun word => Text.isInfixOf word fault.message.lower then
    (.medium, .network)
  else if fault.kind.isValue then (.low, .parsing)
  else if fault.kind.isShape then (.low, .dataQuality)
  else (.medium, .unknown)

/-- One failed operation. -/
structure Issue where
  component : Text
  operation : Text
  severity : Severity
  category : Category
  fault : Fault
  /-- What the operation was about. -/
  context : Members Data := []

/-- The message of an issue. -/
def Issue.message (issue : Issue) : Text :=
  issue.operation ++ (" failed: " : Text) ++ issue.fault.message

/-- The issue of a fault, with severity and category by its class. -/
def Issue.ofFault (component operation : Text) (context : Members Data) (fault : Fault) : Issue :=
  let (severity, category) := classify fault
  { component, operation, severity, category, fault, context }

end TagAudit
