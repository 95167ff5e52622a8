import TagAudit.Pattern.Basic
import TagAudit.Text.Utf8

/-!
# Outcomes of commands

What a command has printed and how it ended. Only texts that have an encoding can be printed; one
that has none ends the command.

* `Outcome.printing` is the outcome of printing messages one after the other.
-/

namespace TagAudit

/-- How a command ends. -/
inductive Ending where
  | exit (code : Nat)
  /-- Something went wrong that no command answers for. -/
  | broken (fault : Fault)
deriving DecidableEq

/-- What a command has printed, and how it ended. -/
structure Outcome where
  out : Text := []
  /-- What was printed about errors. -/
  err : Text := []
  ending : Ending

/-- The codes that commands exit with. -/
inductive ExitCode where
  | success
  | parseFailed
  | usage
  | config
  | fetch
deriving DecidableEq

/-- The number of an exit code. -/
def ExitCode.number : ExitCode → Nat
  | .success => 0
  | .parseFailed => 1
  | .usage => 2
  | .config => 3
  | .fetch => 4

namespace Outcome

/-! ## Printing -/

/-- A sequence that tells a terminal how to show what follows. -/
def stylePattern : Pattern :=
  .all [.one (.single '\x1b'), .one (.single '['),
    .many { items := [.range 0x3B 0x3B, .range 0x3F 0x3F, .range 0x30 0x39] } 0 none,
    .one { items := [.range 0x41 0x5A, .range 0x61 0x7A] }]

/-- A message as it is printed: without styles, and with a line end. -/
def line (message : Text) : Text := stylePattern.replaceAll (fun _ => []) (message ++ ("\n" : Text))

/-- Prints messages one after the other until one cannot be made or printed, and then exits. -/
def printing (code : ExitCode) (done : Text) : List (Except Fault Text) → Outcome
  | [] => { out := done, ending := .exit code.number }
  | .error fault :: _ => { out := done, ending := .broken fault }
  | .ok message :: rest =>
    match Utf8.surrogates? (line message) with
    | some fault => { out := done, ending := .broken fault }
    | none => printing code (done ++ line message) rest

/-- Prints a message and exits. -/
def prints (code : ExitCode) (message : Text) : Outcome := printing code [] [.ok message]

/-- A text in which what has no encoding is spelled by its number. -/
def spelled (t : Text) : Text := t.flatMap fun c => if c.isSurrogate then Fault.codeText c else [c]

/-- Prints a message about an error and exits. -/
def complains (code : ExitCode) (message : Text) : Outcome :=
  { err := spelled (line message), ending := .exit code.number }

/-- Ends with a fault before anything is printed. -/
def breaks (fault : Fault) : Outcome := { ending := .broken fault }

end Outcome

end TagAudit
