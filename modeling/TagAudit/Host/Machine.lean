import TagAudit.Host.Basic

/-!
# A host in memory

Files in memory and a clock that stands still: a host on which commands run as pure functions.

* `FileTree.locate` finds what a path names.
* `InMemory` is the monad of the host.
-/

namespace TagAudit

/-- What is at a place in a tree of files. -/
inductive Entry where
  | directory
  | file (content : Octets)
deriving DecidableEq, Inhabited

/-- Files below a root: entries by the names that lead to them. -/
structure FileTree where
  entries : List (List Text × Entry) := []
  /-- The names that lead to the working directory. -/
  home : List Text := []
deriving Inhabited

namespace FileTree

/-- What is at a place. -/
def at? (tree : FileTree) (place : List Text) : Option Entry :=
  if place.isEmpty then some .directory
  else (tree.entries.find? fun e => decide (e.1 = place)).map (·.2)

/-- The tree with an entry at a place. -/
def put (tree : FileTree) (place : List Text) (entry : Entry) : FileTree :=
  if tree.entries.any fun e => decide (e.1 = place) then
    { tree with entries := tree.entries.map fun e => if e.1 = place then (place, entry) else e }
  else { tree with entries := tree.entries ++ [(place, entry)] }

/-- How long a name may be, in octets. -/
def nameLimit : Nat := 255

/-- The place that names lead to from another place. The way has to go through directories; at
its end there may be nothing. -/
def walk (tree : FileTree) (here : List Text) : List Text → Except Fault.Obstacle (List Text)
  | [] => .ok here
  | name :: rest =>
    match tree.at? here with
    | none => .error .missing
    | some (.file _) => .error .notDirectory
    | some .directory =>
      if name = (".." : Text) then walk tree here.dropLast rest
      else if nameLimit < (name.flatMap Utf8.octetsOf).length then .error .longName
      else walk tree (here ++ [name]) rest

/-- Whether a host can pass on a code point in a path. -/
def isPassable (c : CodePoint) : Bool := !c.isSurrogate || (0xDC80 ≤ c.val && c.val ≤ 0xDCFF)

/-- The place that a path names. -/
def locate (tree : FileTree) (p : Path) : Except Fault (List Text) :=
  let shown := p.text
  match Utf8.surrogates? (shown.map fun c => if isPassable c then 'x' else c) with
  | some fault => .error fault
  | none =>
    if shown.any fun c => c.val == 0 then .error (.worded .value "embedded null byte")
    else
      (tree.walk (if p.isAbsolute then [] else tree.home) p.parts).mapError (.storage · shown)

/-- Whether a path names something. -/
def holds (tree : FileTree) (p : Path) : Except Fault Bool :=
  match tree.locate p with
  | .ok place => .ok (tree.at? place).isSome
  | .error fault@(.storage .longName _) => .error fault
  | .error _ => .ok false

/-- Whether a path names a directory. -/
def holdsDirectory (tree : FileTree) (p : Path) : Bool :=
  match tree.locate p with
  | .ok place => decide (tree.at? place = some .directory)
  | .error _ => false

/-- The content of a file. -/
def read (tree : FileTree) (p : Path) : Except Fault Octets := do
  let place ← tree.locate p
  match tree.at? place with
  | some (.file content) => return content
  | some .directory => throw (.storage .isDirectory p.text)
  | none => throw (.storage .missing p.text)

/-- The tree with one more directory. -/
def makeDirectory (tree : FileTree) (p : Path) : Except Fault FileTree := do
  let place ← tree.locate p
  match tree.at? place with
  | some _ => throw (.storage .taken p.text)
  | none => return tree.put place .directory

/-- The tree with a content in place of what a file held. -/
def write (tree : FileTree) (p : Path) (content : Octets) : Except Fault FileTree := do
  let place ← tree.locate p
  match tree.at? place with
  | some .directory => throw (.storage .isDirectory p.text)
  | _ => return tree.put place (.file content)

/-- The files below the working directory, by the names that lead to them from there. -/
def files (tree : FileTree) : List (List Text × Octets) :=
  tree.entries.filterMap fun (place, entry) =>
    match entry with
    | .file content =>
      if tree.home.isPrefixOf place then some (place.drop tree.home.length, content) else none
    | .directory => none

end FileTree

/-- A machine in memory. -/
structure Machine where
  files : FileTree
  time : Moment
deriving Inhabited

/-- The monad of a host in memory. -/
abbrev InMemory := StateM Machine

namespace InMemory

/-- Changes the files; they stay as they are if that fails. -/
def change (f : FileTree → Except Fault FileTree) : InMemory (Except Fault Unit) := fun machine =>
  match f machine.files with
  | .ok files => (.ok (), { machine with files })
  | .error fault => (.error fault, machine)

instance : Host InMemory where
  holds p := return (← get).files.holds p
  holdsDirectory p := return (← get).files.holdsDirectory p
  read p := return (← get).files.read p
  makeDirectory p := change (·.makeDirectory p)
  write p content := change (·.write p content)
  now := return (← get).time
  ticks := return 0

end InMemory

end TagAudit
