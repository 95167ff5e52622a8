import TagAudit.Text.Basic

/-!
# Paths

A path names a file from the root or from the working directory. Empty parts and single dots say
nothing and are dropped; double dots are kept, for what they name depends on the files.

* `ofText` reads a path, `text` writes it.
* `join` is a path seen from another one.
-/

namespace TagAudit

/-- A path to a file. -/
structure Path where
  /-- The slashes at the front: none for a path from the working directory. -/
  root : Text
  parts : List Text
deriving DecidableEq, Inhabited

namespace Path

/-- The slashes at the front of a path: two are kept apart from any other number. -/
def rootOf (t : Text) : Text :=
  match (t.takeWhile fun (c : CodePoint) => decide (c = '/')).length with
  | 0 => []
  | 2 => "//"
  | _ => "/"

/-- The path that a text spells. -/
def ofText (t : Text) : Path where
  root := rootOf t
  parts := (Text.splitOn '/' t).filter fun (part : Text) =>
    !part.isEmpty && decide (part ≠ ("." : Text))

/-- A path as a text; a dot for the one without parts. -/
def text (p : Path) : Text :=
  let body := p.root ++ Text.join "/" p.parts
  if body.isEmpty then "." else body

/-- Whether a path starts at the root. -/
def isAbsolute (p : Path) : Bool := !p.root.isEmpty

/-- A path as seen from another one. -/
def join (p q : Path) : Path := if q.isAbsolute then q else { p with parts := p.parts ++ q.parts }

/-- The path without its last part. -/
def parent (p : Path) : Path := { p with parts := p.parts.dropLast }

end Path

end TagAudit
