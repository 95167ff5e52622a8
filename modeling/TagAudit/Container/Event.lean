import TagAudit.Container.Condition
import TagAudit.Pattern.Basic

/-!
# Events of triggers

Which event the conditions of a rule test, and what kind of trigger that makes.

* `isPlausible` refuses operands that look like addresses.
* `eventName` is the operand of the first condition that tests for an event.
* `triggerType` is the kind of trigger.
-/

namespace TagAudit.Container

/-- The longest event name. -/
def maxEventName : Nat := 100

/-- A class without regard to case. -/
def caseless (items : List ClassItem) : Pattern := .one { items, caseless := true }

/-- A text without regard to case. -/
def caselessLiteral (t : Text) : Pattern := .all (t.map fun c => caseless [.range c.val c.val])

/-- Address-like texts: `//` at the start, perhaps behind a scheme, `www.` or `/` at the start, or a
usual ending of hosts and pages in front of a separator or the end. -/
def addressPattern : Pattern :=
  let letters : ClassItem := .range 0x61 0x7A
  let scheme := Pattern.all [caseless [letters],
    .many { items := [letters, .range 0x30 0x39, .range 0x2B 0x2B, .range 0x2E 0x2E,
      .range 0x2D 0x2D], caseless := true } 0 none, .literal ":"]
  let ending := Pattern.anyOf [caselessLiteral "com", caselessLiteral "net", caselessLiteral "org",
    caselessLiteral "io",
    .all [caselessLiteral "htm", .optional (caselessLiteral "l")],
    caselessLiteral "php",
    .all [caselessLiteral "asp", .optional (caselessLiteral "x")]]
  .anyOf [
    .all [.start, .optional scheme, .literal "//"],
    .all [.start, caselessLiteral "www", .literal "."],
    .all [.start, .literal "/"],
    .all [.literal ".", ending, .anyOf [.one (.anyOf "/?#:"), .stop]]]

/-- Whether an operand can be the name of an event. -/
def isPlausible (operand : Text) : Bool :=
  !operand.isEmpty && decide (operand.length ≤ maxEventName) &&
    (addressPattern.search? operand).isNone

/-- The event that a list of conditions tests: the first plausible operand of a condition on the
event that is not negated and tests for equality or a part. Empty if there is none. -/
def eventName : List Condition → Except Fault Text
  | [] => .ok []
  | c :: rest =>
    if c.negated then eventName rest
    else do
      if (← c.testsEvent) && (equalityOperators ++ containsOperators).contains c.operator &&
          isPlausible c.operand then return c.operand
      else eventName rest

/-- Lifecycle events and the triggers that test for them. -/
def lifecycleTriggers : List (Text × Text) := [
  ("gtm.js", "Page View"),
  ("gtm.init_consent", "Consent Initialization"),
  ("gtm.init", "Initialization"),
  ("gtm.dom", "DOM Ready"),
  ("gtm.load", "Window Loaded"),
  ("gtm.click", "Click - All Elements"),
  ("gtm.linkClick", "Click - Just Links"),
  ("gtm.formSubmit", "Form Submission"),
  ("gtm.historyChange", "History Change"),
  ("gtm.historyChange-v2", "History Change"),
  ("gtm.timer", "Timer"),
  ("gtm.scrollDepth", "Scroll Depth"),
  ("gtm.elementVisibility", "Element Visibility"),
  ("gtm.video", "YouTube Video"),
  ("gtm.triggerGroup", "Trigger Group")]

/-- Whether a condition tests for the given event and nothing else. -/
def Condition.isTestOf (c : Condition) (event : Text) : Except Fault Bool := do
  return (← c.testsEvent) && decide (c.operand = event)

/-- The kind of trigger that conditions make, given the event that they test. -/
def triggerType (conditions : List Condition) (event : Text) : Except Fault Text :=
  if !event.isEmpty then do
    let tests ← conditions.mapM (·.isTestOf event)
    match lifecycleTriggers.find? fun (e, _) => decide (e = event) with
    | none => return "Custom Event"
    | some (_, label) =>
      if tests.all id then return label
      else return label ++ (" (conditional)" : Text)
  else
    match conditions with
    | [] => .ok "Custom Trigger"
    | first :: _ => do
      let onEvent ←
        if equalityOperators.contains first.operator then first.testsEvent else pure false
      if onEvent then return "Page View"
      else if containsOperators.contains first.operator then return "Page View (conditional)"
      else return "Custom Trigger"

end TagAudit.Container
