import TagAudit.Host.Moment
import TagAudit.Host.Path
import TagAudit.Text.Utf8

/-!
# Hosts

What the program asks of the machine that it runs on: files, and the time. A host is a monad with
these operations, so that commands run on real files and on files in memory alike.

* `makeDirectories` makes a directory with those above it.
* `writeText` writes a text to a file. The file is emptied before the text is encoded.
-/

namespace TagAudit

/-- What a host can do. -/
class Host (m : Type → Type) where
  /-- Whether a path names something. -/
  holds : Path → m (Except Fault Bool)
  /-- Whether a path names a directory. -/
  holdsDirectory : Path → m Bool
  /-- The content of a file. -/
  read : Path → m (Except Fault Octets)
  /-- Makes one directory. -/
  makeDirectory : Path → m (Except Fault Unit)
  /-- Puts a content in place of what a file held, and makes the file if it is not there. -/
  write : Path → Octets → m (Except Fault Unit)
  /-- The time. -/
  now : m Moment
  /-- Milliseconds since some moment in the past. -/
  ticks : m Nat

namespace Host

variable {m : Type → Type} [Monad m] [Host m]

/-- The outcome of making a directory, where one that is there already is as good. -/
def orThere (p : Path) : Except Fault Unit → m (Except Fault Unit)
  | .ok () => return .ok ()
  | .error fault => do
    if fault.kind = .os && !fault.isMissing && (← holdsDirectory p) then return .ok ()
    return .error fault

/-- Makes a directory with those above it, of which there are at most `depth`. -/
def makeDirectoriesUpTo (depth : Nat) (p : Path) : m (Except Fault Unit) := do
  match ← makeDirectory p with
  | .ok () => return .ok ()
  | .error fault =>
    match depth with
    | above + 1 =>
      if fault.isMissing then
        match ← makeDirectoriesUpTo above p.parent with
        | .ok () => orThere p (← makeDirectory p)
        | .error fault => return .error fault
      else orThere p (.error fault)
    | 0 => orThere p (.error fault)

/-- Makes a directory with those above it; one that is there is left alone. -/
def makeDirectories (p : Path) : m (Except Fault Unit) := makeDirectoriesUpTo p.parts.length p

/-- Writes a text to a file. -/
def writeText (p : Path) (t : Text) : m (Except Fault Unit) := do
  match ← write p [] with
  | .error fault => return .error fault
  | .ok () =>
    match Utf8.encode t with
    | .error fault => return .error fault
    | .ok octets => write p octets

/-- The text of a file that is encoded well, with unified line breaks. -/
def readText (p : Path) : m (Except Fault Text) := do
  match ← read p with
  | .error fault => return .error fault
  | .ok octets =>
    match Utf8.decode? octets with
    | some t => return .ok t.unifyBreaks
    | none => return .error (.worded (.other "UnicodeDecodeError") "malformed text")

/-- The text of a file, malformed pieces shown as U+FFFD, with unified line breaks. -/
def readLenient (p : Path) : m (Except Fault Text) := do
  return (← read p).map fun octets => (Utf8.decode octets).unifyBreaks

end Host

end TagAudit
