import TagAudit.Host.Basic
import TagAudit.Table.Format

/-!
# Tables in files

A store that writes every table to a file of its own in one directory, and remembers the files that
it wrote.

* `FileStore.write` writes a table. What cannot be rendered leaves the file alone; a file that was
  opened before its text turned out to have no encoding is left empty.
-/

namespace TagAudit

/-- A directory for tables. -/
structure FileStore where
  directory : Path
  format : TableFormat
  /-- The files written, each once, in the order of their first success. -/
  written : List Path := []
deriving DecidableEq

namespace FileStore

/-- The file of a table. -/
def pathOf (store : FileStore) (name : Text) : Path :=
  store.directory.join (Path.ofText (name ++ ("." : Text) ++ store.format.name))

/-- The store after a file was written. -/
def noting (store : FileStore) (p : Path) : FileStore :=
  if p ∈ store.written then store else { store with written := store.written ++ [p] }

/-- What the writer of a table reports of a fault: of what the host refused, which table it was. -/
def reported (name : Text) (p : Path) (fault : Fault) : Fault :=
  if fault.kind = .os then
    .worded .sink (("Failed to write table " : Text) ++ name ++ (" to " : Text) ++ p.text ++
      (": " : Text) ++ fault.message)
  else fault

variable {m : Type → Type} [Monad m] [Host m]

/-- Writes a text to a file in a directory, which is made if it is not there. -/
def save (directory p : Path) (t : Text) : m (Except Fault Unit) := do
  match ← Host.makeDirectories directory with
  | .error fault => return .error fault
  | .ok () => Host.writeText p t

/-- Writes a table to its file. -/
def write (store : FileStore) (t : Table) : m (Except Fault Unit × FileStore) := do
  let p := store.pathOf t.name
  match t.render store.format with
  | .error fault => return (.error fault, store)
  | .ok content =>
    match ← save store.directory p content with
    | .error fault => return (.error (reported t.name p fault), store)
    | .ok () => return (.ok (), store.noting p)

/-- The writer into a directory. -/
def writer : TableWriter m FileStore := fun store t => do
  let (outcome, store) ← store.write t
  return (outcome.mapError .fault, store)

end FileStore

end TagAudit
