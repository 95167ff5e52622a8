import TagAudit.Text.Basic

/-!
# Balanced spans of a source

A container stands in the source of a script as an object literal. Its end is found without reading
the literal: braces are counted, strings are passed over, and a backslash always takes the code
point behind it along.

* `balanced` is the span that opens at the front of a text.
* `extract` is the span that opens at an offset, found within a window.
* `braces` lists the opening braces in front of a margin at the end, or the last of them. All of
  them are found from the front, the last ones from the margin backwards.
-/

namespace TagAudit.Source

/-- A quotation mark. -/
def isQuote (c : CodePoint) : Bool := c = '"' || c = '\''

/-- What the next code point means inside a span. -/
structure ScanState where
  /-- How many braces are open. -/
  depth : Nat
  /-- The mark that ends the string being passed over. -/
  quote : Option CodePoint
  /-- Whether a backslash takes the next code point along. -/
  escaped : Bool
deriving DecidableEq

/-- The state after a code point that does not close the span. -/
def ScanState.step (s : ScanState) (c : CodePoint) : ScanState :=
  if s.escaped then { s with escaped := false }
  else if c = '\\' then { s with escaped := true }
  else
    match s.quote with
    | some mark => if c = mark then { s with quote := none } else s
    | none =>
      if isQuote c then { s with quote := some c }
      else if c = '{' then { s with depth := s.depth + 1 }
      else if c = '}' then { s with depth := s.depth - 1 }
      else s

/-- Whether a code point closes the outermost brace. -/
def ScanState.closes (s : ScanState) (c : CodePoint) : Bool :=
  !s.escaped && s.quote.isNone && s.depth == 1 && c = '}'

/-- The span up to the closing brace, at most `window` code points further; what was passed stands
in reverse in `done`. -/
def scan (s : ScanState) (done : Text) : Nat → Text → Option Text
  | window + 1, c :: rest =>
    if s.closes c then some (c :: done).reverse else scan (s.step c) (c :: done) window rest
  | _, _ => none

/-- The balanced span that opens at the front of a text and closes within `window` code points. -/
def balanced (window : Nat) (text : Text) : Option Text :=
  match text with
  | c :: _ => if c = '{' then scan ⟨0, none, false⟩ [] window text else none
  | [] => none

/-- The balanced span that opens at an offset. -/
def extract (text : Text) (start window : Int) : Option Text :=
  if start < 0 then none else balanced window.toNat (text.drop start.toNat)

/-- The offsets of the opening braces in the first `count` code points, each with the text from
there on. The text starts at offset `start`; what was found stands in reverse in `done`. -/
def bracesFrom (start : Nat) (done : List (Nat × Text)) : Nat → Text → List (Nat × Text)
  | count + 1, c :: rest =>
    bracesFrom (start + 1) (if c = '{' then (start, c :: rest) :: done else done) count rest
  | _, _ => done.reverse

/-- A text in two parts. -/
structure Split where
  /-- How many code points the first part has. -/
  offset : Nat
  /-- The first part, in reverse. -/
  before : Text
  /-- The text from there on. -/
  here : Text

/-- A text split at an offset, or at its end if that comes first. -/
def splitAt (text : Text) (offset : Nat) : Split :=
  ⟨min offset text.length, (text.take offset).reverse, text.drop offset⟩

/-- The split at the last opening brace of the first part, whose length, text in reverse and rest
are given. -/
def braceBefore? : Nat → Text → Text → Option Split
  | offset + 1, c :: before, here =>
    if c = '{' then some ⟨offset, before, c :: here⟩ else braceBefore? offset before (c :: here)
  | _, _, _ => none

/-- The last opening braces of the first part, at most `limit`, each with the text from there on.
The search goes backwards and puts each one in front of those in `found`, so that they come in the
order of the text. -/
def bracesBefore (found : List (Nat × Text)) : Nat → Split → List (Nat × Text)
  | limit + 1, p =>
    match braceBefore? p.offset p.before p.here with
    | some q => bracesBefore ((q.offset, q.here) :: found) limit q
    | none => found
  | 0, _ => found

/-- The opening braces that stand at least `margin` code points before the end, each with the text
from there on; with a limit, only the last of them, searched from the margin backwards. -/
def braces (text : Text) (limit : Option Int) (margin : Int) : List (Nat × Text) :=
  let stop := (text.length - margin).toNat
  match limit with
  | none => bracesFrom 0 [] stop text
  | some count => bracesBefore [] count.toNat (splitAt text stop)

end TagAudit.Source
