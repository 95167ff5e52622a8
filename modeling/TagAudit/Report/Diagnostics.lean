import TagAudit.Container.Record
import TagAudit.Host.Moment

/-!
# Diagnostics of a source

What a source looks like from outside, for finding out why no container was found in it: its length,
its ends, the marks of a container that it holds, and how many brackets open and close.
-/

namespace TagAudit

/-- What a source looks like. -/
structure Diagnostics where
  container : Text
  generatedAt : Moment
  length : Nat
  /-- The first code points. -/
  head : Text
  /-- The last code points. -/
  tail : Text
  /-- Marks of a container, with whether the source holds them. -/
  markers : List (Text × Bool)
  openBraces : Nat
  closeBraces : Nat
  openBrackets : Nat
  closeBrackets : Nat

namespace Diagnostics

/-- How much of the start of a source is shown. -/
def headLength : Nat := 2000

/-- How much of the end of a source is shown. -/
def tailLength : Nat := 1000

/-- The marks of a container. -/
def marks : List Text := ["\"tags\"", "\"macros\"", "\"predicates\"", "\"rules\"", "\"resource\"",
  "google_tag_manager", ".push("]

/-- What a source looks like. -/
def of (source container : Text) (generatedAt : Moment) : Diagnostics where
  container := container
  generatedAt := generatedAt
  length := source.length
  head := source.take headLength
  tail := source.drop (source.length - tailLength)
  markers := marks.map fun mark => (mark, mark.isInfixOf source)
  openBraces := source.count ('\x7b' : CodePoint)
  closeBraces := source.count ('\x7d' : CodePoint)
  openBrackets := source.count ('[' : CodePoint)
  closeBrackets := source.count (']' : CodePoint)

/-- Whether as many brackets of each kind open as close. -/
def balanced (d : Diagnostics) : Bool :=
  d.openBraces == d.closeBraces && d.openBrackets == d.closeBrackets

/-- The columns of the table of diagnostics. -/
def columns : List Text := ["key", "value"]

/-- The presence of a mark in words. -/
def presence (present : Bool) : Text := if present then "YES" else "NO"

/-- What there is to say about the extent of a source. -/
def extent (d : Diagnostics) : Members Data := [
  ("Container ID", .text d.container),
  ("JS Length", .text (Text.ofNat d.length ++ (" characters" : Text))),
  ("Date", .text d.generatedAt.iso),
  ("First 2000 characters", .text d.head),
  ("Last 1000 characters", .text d.tail)]

/-- How many brackets open and close. -/
def brackets (d : Diagnostics) : Members Data := [
  ("Opening braces \x7b", .int d.openBraces),
  ("Closing braces \x7d", .int d.closeBraces),
  ("Opening brackets [", .int d.openBrackets),
  ("Closing brackets ]", .int d.closeBrackets)]

/-- All there is to say about a source, in order. -/
def entries (d : Diagnostics) : Members Data :=
  d.extent ++ (d.markers.map fun (mark, present) =>
    (("Contains " : Text) ++ mark, .text (presence present))) ++ d.brackets

/-- The rows of the table of diagnostics. -/
def toRows (d : Diagnostics) : List Row :=
  d.entries.map fun (key, value) => columns.zip [.text key, value]

end Diagnostics

end TagAudit
