import TagAudit.Yaml.Cursor

/-!
# Texts of scalars

The text that a scalar stands for: without quotes, between quotes, or as a block of lines. Inside
the first two a line break is a blank, and every further break a break.

* `plainText`, `quotedText` and `blockText` read a scalar that begins at a cursor.
-/

namespace TagAudit.Yaml

/-- The line breaks at a cursor, with the blanks between them left out. -/
def breaksFrom (isBlank : CodePoint → Bool) : Nat → Cursor → Text → Text × Cursor
  | 0, k, done => (done, k)
  | fuel + 1, k, done =>
    let (_, k) := k.span isBlank
    if k.atDocumentMark then (done, k)
    else
      match k.lineBreak? with
      | some (br, k) => breaksFrom isBlank fuel k (done ++ br)
      | none => (done, k)

/-- What a first line break and further ones stand for. -/
def joinBreaks (first further : Text) : Text :=
  if first ≠ (['\n'] : Text) then first ++ further
  else if further.isEmpty then [' '] else further

/-! ## Without quotes -/

/-- A mark that ends a plain scalar inside brackets. -/
def isFlowMark (c : CodePoint) : Bool := (",[]\x7b\x7d" : Text).contains c

/-- How much of a text belongs to one word of a plain scalar. -/
def plainLength (inFlow : Bool) (t : Text) : Nat := go 0 t
where
  go (length : Nat) : Text → Nat
    | [] => length
    | c :: rest =>
      let ends := wordEnds [c] ||
        (c = ':' && (wordEnds rest || (inFlow && (rest.head?.map isFlowMark).getD false))) ||
        (inFlow && (isFlowMark c || c = '?'))
      if ends then length else go (length + 1) rest

/-- What stands between two words of a plain scalar, and whether it holds a line break. -/
def plainGap (k : Cursor) : Text × Cursor × Bool :=
  let (blanks, k) := k.span fun c => c = ' '
  match k.lineBreak? with
  | none => (blanks, k, false)
  | some (br, k) =>
    let (further, after) := breaksFrom (fun c => c = ' ') k.rest.length k []
    if after.atDocumentMark then ([], after, true)
    else (joinBreaks br further, after, true)

/-- A plain scalar from a cursor on: its text, the cursor behind it, and whether a line break was
passed at its end. Further lines have to stand at `margin` at least, outside brackets. -/
def plainFrom (inFlow : Bool) (margin : Int) : Nat → Cursor → Text → Text → Bool →
    Text × Cursor × Bool
  | 0, k, _, done, broken => (done, k, broken)
  | fuel + 1, k, gap, done, broken =>
    let length := if k.sees '#' then 0 else plainLength inFlow k.rest
    if length = 0 then (done, k, broken)
    else
      let done := done ++ gap ++ k.rest.take length
      let (gap, k, broken) := plainGap (k.skip length)
      if gap.isEmpty || k.sees '#' || (!inFlow && (k.column : Int) < margin) then (done, k, broken)
      else plainFrom inFlow margin fuel k gap done broken

/-- The plain scalar at a cursor. -/
def plainText (inFlow : Bool) (margin : Int) (k : Cursor) : Text × Cursor × Bool :=
  plainFrom inFlow margin (k.rest.length + 1) k [] [] false

/-! ## Between quotes -/

/-- What a letter behind a backslash stands for. -/
def escaped? (c : CodePoint) : Option CodePoint :=
  let table : List (CodePoint × Nat) := [
    ('0', 0), ('a', 7), ('b', 8), ('t', 9), ('\t', 9), ('n', 10), ('v', 11), ('f', 12), ('r', 13),
    ('e', 0x1B), (' ', 0x20), ('"', 0x22), ('\\', 0x5C), ('/', 0x2F),
    ('N', 0x85), ('_', 0xA0), ('L', 0x2028), ('P', 0x2029)]
  (table.find? fun e => decide (e.1 = c)).map fun e => CodePoint.ofNat e.2

/-- How many digits a letter behind a backslash asks for. -/
def escapeWidth? (c : CodePoint) : Option Nat :=
  if c = 'x' then some 2 else if c = 'u' then some 4 else if c = 'U' then some 8 else none

/-- The escape at a cursor that stands behind its backslash. -/
def escapeAt (k : Cursor) : Except Malformed (Text × Cursor) :=
  match k.rest with
  | [] => k.refuse "unexpected end in an escape"
  | c :: rest =>
    match escaped? c, escapeWidth? c with
    | some e, _ => .ok ([e], k.next)
    | none, some width =>
      match (rest.take width).mapM CodePoint.hexValue? with
      | some digits =>
        let n := digits.foldl (fun n d => n * 16 + d) 0
        if digits.length = width && n < 0x110000 then
          .ok ([CodePoint.ofNat n], k.skip (width + 1))
        else k.refuse "incomplete escape"
      | none => k.refuse "incomplete escape"
    | none, none =>
      match k.lineBreak? with
      | some (_, k) =>
        let (further, after) := breaksFrom (fun c => c = ' ' || c = '\t') k.rest.length k []
        if after.atDocumentMark then
          after.refuse "document mark in a quoted scalar"
        else .ok (further, after)
      | none => k.refuse "unknown escape"

/-- The blanks and line breaks at a cursor inside a quoted scalar. -/
def quotedGap (k : Cursor) : Except Malformed (Text × Cursor) :=
  let isBlank (c : CodePoint) : Bool := c = ' ' || c = '\t'
  let (blanks, k) := k.span isBlank
  match k.lineBreak? with
  | none => .ok (blanks, k)
  | some (br, k) =>
    let (further, after) := breaksFrom isBlank k.rest.length k []
    if after.atDocumentMark then
      after.refuse "document mark in a quoted scalar"
    else .ok (joinBreaks br further, after)

/-- A quoted scalar from a cursor inside it on; `done` is what was read of it, last first. -/
def quotedFrom (quote : CodePoint) : Nat → Cursor → Text → Except Malformed (Text × Cursor)
  | 0, k, _ => k.refuse "quoted scalar without an end"
  | fuel + 1, k, done =>
    match k.rest with
    | [] => k.refuse "quoted scalar without an end"
    | c :: rest =>
      if c = quote then
        if quote = '\'' && rest.head? = some quote then
          quotedFrom quote fuel k.next.next (c :: done)
        else .ok (done.reverse, k.next)
      else if wordEnds [c] then do
        let (gap, k) ← quotedGap k
        quotedFrom quote fuel k (gap.reverse ++ done)
      else if quote = '"' && c = '\\' then do
        let (e, k) ← escapeAt k.next
        quotedFrom quote fuel k (e.reverse ++ done)
      else quotedFrom quote fuel k.next (c :: done)

/-- The quoted scalar at a cursor that stands before its first quote. -/
def quotedText (quote : CodePoint) (k : Cursor) : Except Malformed (Text × Cursor) :=
  quotedFrom quote (k.rest.length + 1) k.next []

/-! ## Blocks of lines -/

/-- What becomes of the line breaks at the end of a block. -/
inductive Chomping where
  | strip
  | clip
  | keep
deriving DecidableEq

/-- The head of a block: what becomes of its last breaks, and how much deeper its lines stand. -/
def blockHead (k : Cursor) : Except Malformed (Chomping × Option Nat × Cursor) :=
  let chomping (k : Cursor) : Option (Chomping × Cursor) :=
    if k.sees '+' then some (.keep, k.next)
    else if k.sees '-' then some (.strip, k.next) else none
  let digit (k : Cursor) : Option (Nat × Cursor) :=
    match k.rest with
    | c :: _ => if c.isAsciiDigit then some (c.val - 0x30, k.next) else none
    | [] => none
  let (mode, depth, k) : Chomping × Option Nat × Cursor :=
    match chomping k with
    | some (mode, k) =>
      match digit k with
      | some (n, k) => (mode, some n, k)
      | none => (mode, none, k)
    | none =>
      match digit k with
      | some (n, k) =>
        match chomping k with
        | some (mode, k) => (mode, some n, k)
        | none => (.clip, some n, k)
      | none => (.clip, none, k)
  if depth = some 0 then k.refuse "a block cannot stand at depth zero"
  else if k.atWordEnd && !k.sees '\t' then .ok (mode, depth, k)
  else k.refuse "unexpected mark in the head of a block"

/-- The rest of the line at a cursor, which may hold a comment. -/
def skipLineEnd (k : Cursor) : Except Malformed Cursor :=
  let (_, k) := k.span fun c => c = ' '
  let (_, k) := if k.sees '#' then k.span fun c => !endsLine c else ([], k)
  match k.lineBreak? with
  | some (_, k) => .ok k
  | none => if k.rest.isEmpty then .ok k else k.refuse "unexpected text in the head of a block"

/-- The cursor behind blanks that lead up to a column. -/
def skipToColumn (column : Nat) : Nat → Cursor → Cursor
  | 0, k => k
  | fuel + 1, k => if k.column < column && k.sees ' ' then skipToColumn column fuel k.next else k

/-- The breaks of empty lines, and the cursor at a line's text. -/
def blockBreaks (column : Nat) : Nat → Cursor → Text → Text × Cursor
  | 0, k, done => (done, k)
  | fuel + 1, k, done =>
    let k := skipToColumn column column k
    match k.lineBreak? with
    | some (br, k) => blockBreaks column fuel k (done ++ br)
    | none => (done, k)

/-- The breaks of the empty lines at the start of a block, and the column of the deepest blank. -/
def blockMargin : Nat → Cursor → Text → Nat → Text × Nat × Cursor
  | 0, k, done, deepest => (done, deepest, k)
  | fuel + 1, k, done, deepest =>
    if k.sees ' ' then blockMargin fuel k.next done (max deepest k.next.column)
    else
      match k.lineBreak? with
      | some (br, k) => blockMargin fuel k (done ++ br) deepest
      | none => (done, deepest, k)

/-- The lines of a block from a cursor on. `breaks` are those of the empty lines before. The answer
has the last line break and the breaks behind it apart. -/
def blockFrom (folded : Bool) (column : Nat) :
    Nat → Cursor → Text → Text → Text × Text × Text × Cursor
  | 0, k, breaks, done => (done, [], breaks, k)
  | fuel + 1, k, breaks, done =>
    let (line, after) := k.span fun c => !endsLine c
    let isText (k : Cursor) : Bool := !(k.sees ' ' || k.sees '\t')
    let done := done ++ breaks ++ line
    let (br, after) := (after.lineBreak?).getD ([], after)
    let (breaks, after) := blockBreaks column (after.rest.length + 1) after []
    if after.column = column && !after.rest.isEmpty then
      let joint : Text :=
        if folded && br = (['\n'] : Text) && isText k && isText after then
          if breaks.isEmpty then [' '] else []
        else br
      blockFrom folded column fuel after breaks (done ++ joint)
    else (done, br, breaks, after)

/-- The block of lines at a cursor that stands before its mark; its lines stand at `margin` at
least. -/
def blockText (margin : Int) (k : Cursor) : Except Malformed (Text × Cursor) := do
  let folded := k.sees '>'
  let (mode, depth, k) ← blockHead k.next
  let k ← skipLineEnd k
  let least := (max margin 1).toNat
  let (breaks, column, k) :=
    match depth with
    | some n =>
      let column := least + n - 1
      let (breaks, k) := blockBreaks column (k.rest.length + 1) k []
      (breaks, column, k)
    | none =>
      let (breaks, deepest, k) := blockMargin (k.rest.length + 1) k [] 0
      (breaks, max least deepest, k)
  let (body, last, breaks, k) :=
    if k.column = column && !k.rest.isEmpty then
      blockFrom folded column (k.rest.length + 1) k breaks []
    else ([], [], breaks, k)
  let tail : Text := match mode with
    | .strip => []
    | .clip => last
    | .keep => last ++ breaks
  return (body ++ tail, k)

end TagAudit.Yaml
