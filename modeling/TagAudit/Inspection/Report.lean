import TagAudit.Config.Check
import TagAudit.Container.Record
import TagAudit.Host.Moment

/-!
# Reports

What came of inspecting a container.

* `Report.counts` say how much was found.
* `Report.toMembers` is the report as data, without the records.
* `Uncaught` is why there is no report.
-/

namespace TagAudit

/-- How an inspection ended. -/
inductive Status where
  | success
  /-- The source holds no container that could be found. -/
  | parseFailed
  | fetchFailed
  /-- The identifier is none of a container, and nothing was fetched. -/
  | invalidContainer
deriving DecidableEq

/-- The name of a status. -/
def Status.name : Status → Text
  | .success => "success"
  | .parseFailed => "parse_failed"
  | .fetchFailed => "fetch_failed"
  | .invalidContainer => "invalid_container"

/-- What came of an inspection. -/
structure Report where
  container : Text
  status : Status
  /-- The strategy that found the container. -/
  strategy : Option Text := none
  tagCount : Nat := 0
  triggerCount : Nat := 0
  variableCount : Nat := 0
  vendorCount : Nat := 0
  issueCount : Nat := 0
  sourceLength : Nat := 0
  /-- The status of the reply, where that is why nothing was fetched. -/
  statusCode : Option Int := none
  error : Option Text := none
  startedAt : Moment
  /-- How long the inspection took, in milliseconds. -/
  elapsed : Nat
  model : Model := {}
  vendors : List VendorHit := []

namespace Report

/-- Whether the source was inspected, whatever was found in it. -/
def succeeded (r : Report) : Bool :=
  match r.status with
  | .success | .parseFailed => true
  | .fetchFailed | .invalidContainer => false

/-- How much was found. -/
def counts (r : Report) : List (Text × Nat) := [
  ("tags", r.tagCount),
  ("triggers", r.triggerCount),
  ("variables", r.variableCount),
  ("vendors", r.vendorCount)]

/-- A number, or null. -/
def optionalNumber : Option Int → Data
  | some n => .int n
  | none => .null

/-- A text, or null. -/
def optionalText : Option Text → Data
  | some t => .text t
  | none => .null

/-- A report as data, without the records. -/
def toMembers (r : Report) : Members Data := [
  ("container_id", .text r.container),
  ("status", .text r.status.name),
  ("strategy", optionalText r.strategy),
  ("counts", .object (r.counts.map fun (name, n) => (name, .int n))),
  ("issues", .int r.issueCount),
  ("source_length", .int r.sourceLength),
  ("status_code", optionalNumber r.statusCode),
  ("error_message", optionalText r.error),
  ("started_at", .text r.startedAt.iso),
  ("processing_time_ms", .int r.elapsed)]

end Report

/-- Why an inspection ends without a report. -/
inductive Uncaught where
  /-- What telling something raises. -/
  | raised (raised : Raised)
  /-- What was to be reported makes no report. -/
  | refused (problems : List Problem)

/-- What ended an inspection, as a fault. What cannot be put in words has none. -/
def Uncaught.fault : Uncaught → Fault
  | .raised (.fault f) => f
  | .raised (.wordless kind _) => .worded kind []
  | .refused problems => .worded .validation (Problem.list "InspectionReport" problems)

end TagAudit
