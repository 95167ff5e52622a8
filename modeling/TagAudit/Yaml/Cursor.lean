import TagAudit.Text.Basic

/-!
# Places in a document

A cursor is the unread part of a document with the line and column at which it begins. Indentation
decides in a document, so every step keeps the column.
-/

namespace TagAudit.Yaml

/-- The unread part of a document. -/
structure Cursor where
  rest : Text
  index : Nat := 0
  line : Nat := 0
  column : Nat := 0

/-- What is wrong with a document, and where. -/
structure Malformed where
  reason : String
  line : Nat
  column : Nat

/-- A code point at which a line ends. -/
def endsLine (c : CodePoint) : Bool :=
  c = '\n' || c = '\r' || c.val = 0x85 || c.val = 0x2028 || c.val = 0x2029

/-- The byte order mark, which takes no column. -/
def isOrderMark (c : CodePoint) : Bool := c.val = 0xFEFF

/-- Whether a document may hold a code point. -/
def mayAppear (c : CodePoint) : Bool :=
  c = '\t' || c = '\n' || c = '\r' || (0x20 ≤ c.val && c.val ≤ 0x7E) || c.val = 0x85 ||
    (0xA0 ≤ c.val && c.val ≤ 0xD7FF) || (0xE000 ≤ c.val && c.val ≤ 0xFFFD) || 0x10000 ≤ c.val

/-- Whether a word ends before a text: there is a blank, or nothing. -/
def wordEnds : Text → Bool
  | [] => true
  | c :: _ => c = ' ' || c = '\t' || endsLine c

namespace Cursor

/-- The cursor behind one code point. -/
def next (k : Cursor) : Cursor :=
  match k.rest with
  | [] => k
  | c :: rest =>
    let k := { k with rest, index := k.index + 1 }
    if endsLine c && !(c = '\r' && rest.head? = some ('\n' : CodePoint)) then
      { k with line := k.line + 1, column := 0 }
    else if isOrderMark c then k
    else { k with column := k.column + 1 }

/-- The cursor behind so many code points. -/
def skip : Nat → Cursor → Cursor
  | 0, k => k
  | n + 1, k => skip n k.next

/-- The code points at the front that satisfy a predicate, and the cursor behind them. -/
def span (p : CodePoint → Bool) (k : Cursor) : Text × Cursor :=
  let taken := k.rest.takeWhile p
  (taken, k.skip taken.length)

/-- Says that something is wrong here. -/
def refuse {α : Type} (k : Cursor) (reason : String) : Except Malformed α :=
  .error ⟨reason, k.line, k.column⟩

/-- Whether the next code point is a given one. -/
def sees (k : Cursor) (c : CodePoint) : Bool := k.rest.head? = some c

/-- Whether a word ends here. -/
def atWordEnd (k : Cursor) : Bool := wordEnds k.rest

/-- The line break here as texts hold it, and the cursor behind it; two separators of lines stand
for themselves, and all other breaks for a line feed. -/
def lineBreak? (k : Cursor) : Option (Text × Cursor) :=
  match k.rest with
  | [] => none
  | c :: rest =>
    if c = '\r' && rest.head? = some ('\n' : CodePoint) then some (['\n'], k.next.next)
    else if c.val = 0x2028 || c.val = 0x2029 then some ([c], k.next)
    else if endsLine c then some (['\n'], k.next)
    else none

/-- Whether a line here starts or ends a document. -/
def atDocumentMark (k : Cursor) : Bool :=
  k.column = 0 && (("---" : Text).isPrefixOf k.rest || ("..." : Text).isPrefixOf k.rest) &&
    wordEnds (k.rest.drop 3)

end Cursor

end TagAudit.Yaml
