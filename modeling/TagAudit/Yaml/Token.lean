import TagAudit.Yaml.ScalarText

/-!
# Tokens of a document

The tokens of a YAML document. In block style the indentation says where collections start and end;
a key without a mark is recognised when its colon is found, and its token is then put where the key
began.

* `Scan.step` finds the next tokens.
* `tokens` are the tokens of a document.
-/

namespace TagAudit.Yaml

/-- A token. -/
inductive Token where
  | blockSequence
  | blockMapping
  | blockEnd
  | blockEntry
  | key
  | value
  | flowSequence
  | flowSequenceEnd
  | flowMapping
  | flowMappingEnd
  | flowEntry
  | documentStart
  | documentEnd
  | directive
  | reference (name : Text)
  | anchor (name : Text)
  | tag (name : Text)
  /-- A scalar; only a plain one is typed by its spelling. -/
  | scalar (text : Text) (isPlain : Bool)
deriving DecidableEq

/-- A place where a key without a mark may have begun. -/
structure PendingKey where
  /-- How many tokens there were before it. -/
  position : Nat
  /-- Whether nothing but a key can stand here. -/
  required : Bool
  index : Nat
  line : Nat
  column : Nat

/-- A scan of a document. -/
structure Scan where
  cursor : Cursor
  /-- How many brackets are open. -/
  depth : Nat := 0
  /-- The column of the innermost block collection. -/
  indent : Int := -1
  /-- The columns of the block collections around it. -/
  outer : List Int := []
  /-- Whether a key without a mark may begin here. -/
  keyAllowed : Bool := true
  /-- The pending keys by how many brackets are open. -/
  pending : List (Nat × PendingKey) := []
  /-- The tokens found, last first. -/
  found : List Token := []

namespace Scan

/-- How far behind the start of a key its colon may stand. -/
def keyReach : Nat := 1024

/-- Whether brackets are open. -/
def inFlow (s : Scan) : Bool := s.depth != 0

/-- The scan with one more token. -/
def add (s : Scan) (t : Token) : Scan := { s with found := t :: s.found }

/-- The scan with a token put in front of those found behind a position. -/
def insertAt (s : Scan) (position : Nat) (t : Token) : Scan :=
  let behind := s.found.length - position
  { s with found := s.found.take behind ++ t :: s.found.drop behind }

/-- The scan with the cursor moved. -/
def movedTo (s : Scan) (cursor : Cursor) : Scan := { s with cursor }

/-- The scan behind the next code point. -/
def next (s : Scan) : Scan := s.movedTo s.cursor.next

/-- Says that something is wrong here. -/
def refuse {α : Type} (s : Scan) (reason : String) : Except Malformed α := s.cursor.refuse reason

/-! ## Indentation -/

/-- Ends the block collections that stand deeper than a column. -/
def unwindFrom (column : Int) : List Int → Scan → Scan
  | [], s => s
  | outer :: rest, s =>
    if column < s.indent then
      unwindFrom column rest ({ s with indent := outer, outer := rest }.add .blockEnd)
    else s

/-- Ends the block collections that stand deeper than a column, outside brackets. -/
def unwind (column : Int) (s : Scan) : Scan :=
  if s.inFlow then s else unwindFrom column s.outer s

/-- Whether a column is deeper than the innermost block collection. -/
def isDeeper (s : Scan) (column : Nat) : Bool := s.indent < (column : Int)

/-- The scan with a block collection opened at a column. -/
def opened (s : Scan) (column : Nat) : Scan :=
  { s with indent := column, outer := s.indent :: s.outer }

/-! ## Keys without a mark -/

/-- The scan without the pending key between the innermost brackets; a required key is missed. -/
def dropKey (s : Scan) : Except Malformed Scan :=
  match s.pending.find? fun p => p.1 == s.depth with
  | some (_, key) =>
    if key.required then s.refuse "a key without its colon"
    else .ok { s with pending := s.pending.filter fun p => p.1 != s.depth }
  | none => .ok s

/-- The scan with a pending key noted here, if one may begin here. -/
def noteKey (s : Scan) : Except Malformed Scan :=
  if s.keyAllowed then do
    let s ← s.dropKey
    let k := s.cursor
    let required := !s.inFlow && s.indent == (k.column : Int)
    return { s with pending :=
      (s.depth, ⟨s.found.length, required, k.index, k.line, k.column⟩) :: s.pending }
  else .ok s

/-- The scan without the pending keys that are too far behind. -/
def dropStale (s : Scan) : Except Malformed Scan :=
  let isStale (key : PendingKey) : Bool :=
    key.line != s.cursor.line || keyReach < s.cursor.index - key.index
  if s.pending.any fun p => isStale p.2 && p.2.required then s.refuse "a key without its colon"
  else .ok { s with pending := s.pending.filter fun p => !isStale p.2 }

/-! ## Tokens -/

/-- A bracket that opens. -/
def openFlow (t : Token) (s : Scan) : Except Malformed Scan := do
  let s ← s.noteKey
  return ({ s with depth := s.depth + 1, keyAllowed := true }.add t).next

/-- A bracket that closes. -/
def closeFlow (t : Token) (s : Scan) : Except Malformed Scan := do
  let s ← s.dropKey
  return ({ s with depth := s.depth - 1, keyAllowed := false }.add t).next

/-- A comma. -/
def flowEntry (s : Scan) : Except Malformed Scan := do
  let s ← s.dropKey
  return ({ s with keyAllowed := true }.add .flowEntry).next

/-- A collection that opens here in block style, if this is deeper than the one around it. -/
def openBlock (t : Token) (reason : String) (s : Scan) : Except Malformed Scan :=
  if s.inFlow then .ok s
  else if !s.keyAllowed then s.refuse reason
  else if s.isDeeper s.cursor.column then .ok ((s.opened s.cursor.column).add t)
  else .ok s

/-- A dash. -/
def blockEntry (s : Scan) : Except Malformed Scan := do
  let s ← s.openBlock .blockSequence "an entry of a sequence cannot stand here"
  let s ← s.dropKey
  return ({ s with keyAllowed := true }.add .blockEntry).next

/-- A question mark. -/
def markedKey (s : Scan) : Except Malformed Scan := do
  let s ← s.openBlock .blockMapping "a key cannot stand here"
  let s ← s.dropKey
  return ({ s with keyAllowed := !s.inFlow }.add .key).next

/-- A colon: behind a pending key, or behind a marked one. -/
def value (s : Scan) : Except Malformed Scan := do
  match s.pending.find? fun p => p.1 == s.depth with
  | some (_, key) =>
    let s := { s with pending := s.pending.filter fun p => p.1 != s.depth, keyAllowed := false }
    let s := s.insertAt key.position .key
    let s :=
      if !s.inFlow && s.isDeeper key.column then
        (s.opened key.column).insertAt key.position .blockMapping
      else s
    return (s.add .value).next
  | none =>
    let s ← s.openBlock .blockMapping "a value cannot stand here"
    let s ← s.dropKey
    return ({ s with keyAllowed := !s.inFlow }.add .value).next

/-- A code point of the name of an anchor. -/
def isNamePart (c : CodePoint) : Bool :=
  c.isAsciiDigit || c.isAsciiLower || c.isAsciiUpper || c = '-' || c = '_'

/-- An anchor or a reference to one: a mark and a name. -/
def named (token : Text → Token) (s : Scan) : Except Malformed Scan := do
  let s ← s.noteKey
  let (name, after) := s.cursor.next.span isNamePart
  let ends := after.atWordEnd || (after.rest.head?.map fun c =>
    ("?:,]\x7d%@" : Text).contains c || c.val = 0x60).getD false
  if name.isEmpty || !ends then s.refuse "malformed name of an anchor"
  else return ({ s with keyAllowed := false }.add (token name)).movedTo after

/-- A tag. -/
def tagged (s : Scan) : Except Malformed Scan := do
  let s ← s.noteKey
  let (name, after) := s.cursor.span fun c => !wordEnds [c] && !(s.inFlow && isFlowMark c)
  return ({ s with keyAllowed := false }.add (.tag name)).movedTo after

/-- A quoted scalar. -/
def quoted (quote : CodePoint) (s : Scan) : Except Malformed Scan := do
  let s ← s.noteKey
  let (text, after) ← quotedText quote s.cursor
  return ({ s with keyAllowed := false }.add (.scalar text false)).movedTo after

/-- A block of lines. -/
def block (s : Scan) : Except Malformed Scan := do
  let s ← s.dropKey
  let (text, after) ← blockText (s.indent + 1) s.cursor
  return ({ s with keyAllowed := true }.add (.scalar text false)).movedTo after

/-- A plain scalar. -/
def plainScalar (s : Scan) : Except Malformed Scan := do
  let s ← s.noteKey
  let (text, after, broken) := plainText s.inFlow (s.indent + 1) s.cursor
  return ({ s with keyAllowed := broken }.add (.scalar text true)).movedTo after

/-- A line that starts or ends a document, of which `length` code points count. -/
def documentMark (t : Token) (length : Nat) (s : Scan) : Except Malformed Scan := do
  let s := s.unwind (-1)
  let s ← s.dropKey
  return ({ s with keyAllowed := false }.add t).movedTo (s.cursor.skip length)

/-- A directive: a line of its own. -/
def directive (s : Scan) : Except Malformed Scan := do
  let length := (s.cursor.rest.takeWhile fun c => !endsLine c).length
  s.documentMark .directive length

/-! ## Steps -/

/-- Passes over blanks, comments and line breaks; outside brackets a key may begin on a new line. -/
def skipBlanks : Nat → Scan → Scan
  | 0, s => s
  | fuel + 1, s =>
    let (_, k) := s.cursor.span fun c => c = ' '
    let (_, k) := if k.sees '#' then k.span fun c => !endsLine c else ([], k)
    match k.lineBreak? with
    | some (_, k) =>
      skipBlanks fuel { s with cursor := k, keyAllowed := s.keyAllowed || !s.inFlow }
    | none => s.movedTo k

/-- Whether a plain scalar may begin with these code points. -/
def startsPlain (inFlow : Bool) : Text → Bool
  | [] => false
  | c :: rest =>
    if ("-?:,[]\x7b\x7d#&*!|>'\"%@" : Text).contains c || c.val = 0x60 then
      !wordEnds rest && (c = '-' || (!inFlow && (c = '?' || c = ':')))
    else !wordEnds [c]

/-- Finds the token that begins at the cursor. -/
def token (c : CodePoint) (rest : Text) (s : Scan) : Except Malformed Scan :=
  if c = '%' && s.cursor.column = 0 then s.directive
  else if s.cursor.atDocumentMark then
    s.documentMark (if c = '-' then .documentStart else .documentEnd) 3
  else if c = '[' then s.openFlow .flowSequence
  else if c = '\x7b' then s.openFlow .flowMapping
  else if c = ']' then s.closeFlow .flowSequenceEnd
  else if c = '\x7d' then s.closeFlow .flowMappingEnd
  else if c = ',' then s.flowEntry
  else if c = '-' && wordEnds rest then s.blockEntry
  else if c = '?' && (s.inFlow || wordEnds rest) then s.markedKey
  else if c = ':' && (s.inFlow || wordEnds rest) then s.value
  else if c = '*' then s.named .reference
  else if c = '&' then s.named .anchor
  else if c = '!' then s.tagged
  else if (c = '|' || c = '>') && !s.inFlow then s.block
  else if c = '\'' || c = '"' then s.quoted c
  else if startsPlain s.inFlow (c :: rest) then s.plainScalar
  else s.refuse "a mark that cannot begin anything"

/-- All tokens from here on. -/
def run : Nat → Scan → Except Malformed (List Token)
  | 0, s => s.refuse "unexpected end"
  | fuel + 1, s => do
    let s := s.skipBlanks (s.cursor.rest.length + 1)
    let s ← s.dropStale
    let s := s.unwind s.cursor.column
    match s.cursor.rest with
    | [] => return (← (s.unwind (-1)).dropKey).found.reverse
    | c :: rest => run fuel (← s.token c rest)

end Scan

/-- The tokens of a document. -/
def tokens (t : Text) : Except Malformed (List Token) :=
  let k : Cursor := { rest := t }
  let k := if (t.head?.map isOrderMark).getD false then k.next else k
  if t.all mayAppear then Scan.run (t.length + 1) { cursor := k }
  else k.refuse "unprintable code point"

end TagAudit.Yaml
