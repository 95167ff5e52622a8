import TagAudit.Issue.Basic

/-!
# Ledgers of issues

A ledger collects the issues of one component, in the order in which they arise. An operation runs
under a ledger in one of three ways, which differ in what is recorded when it fails.

* `Ledger.guard` records a classified issue and gives nothing.
* `Ledger.watch` does so for code from outside the program. What that raises needs words to be
  recorded; without them nothing is.
* `Ledger.attempt` records an issue of given severity and category and gives a default.

`Ledger.drain` hands the issues over and leaves the ledger empty.
-/

namespace TagAudit

/-- The issues of one component, oldest first. -/
structure Ledger where
  component : Text
  issues : List Issue := []

namespace Ledger

/-- The ledger with one more issue. -/
def add (l : Ledger) (issue : Issue) : Ledger := { l with issues := l.issues ++ [issue] }

/-- The issue that a ledger would record for a fault. -/
def issueOf (l : Ledger) (operation : Text) (severity : Severity) (category : Category)
    (context : Members Data) (fault : Fault) : Issue :=
  { component := l.component, operation, severity, category, fault, context }

/-- The outcome of an operation; its fault becomes a classified issue. -/
def guard {α : Type} (l : Ledger) (operation : Text) (context : Members Data)
    (outcome : Except Fault α) : Option α × Ledger :=
  match outcome with
  | .ok value => (some value, l)
  | .error fault => (none, l.add (Issue.ofFault l.component operation context fault))

/-- The outcome of an operation that runs code from outside the program. What it raises becomes a
classified issue if it can be told. Otherwise the ledger stays as it is, and what telling it raises
is let out. -/
def watch {α : Type} (l : Ledger) (operation : Text) (context : Members Data)
    (outcome : Except Raised α) : Except Raised (Option α) × Ledger :=
  match outcome with
  | .ok value => (.ok (some value), l)
  | .error raised =>
    match raised.told with
    | .ok fault => (.ok none, l.add (Issue.ofFault l.component operation context fault))
    | .error failure => (.error failure, l)

/-- The outcome of an operation, or a default in place of its fault, which becomes an issue of the
given severity and category. -/
def attempt {α : Type} (l : Ledger) (operation : Text) (severity : Severity) (category : Category)
    (default : α) (outcome : Except Fault α) : α × Ledger :=
  match outcome with
  | .ok value => (value, l)
  | .error fault => (default, l.add (l.issueOf operation severity category [] fault))

/-- Whether a critical issue was recorded. -/
def hasCritical (l : Ledger) : Bool := l.issues.any fun issue => decide (issue.severity = .critical)

/-- The issues, and the ledger without them. -/
def drain (l : Ledger) : List Issue × Ledger := (l.issues, { l with issues := [] })

end Ledger

end TagAudit
