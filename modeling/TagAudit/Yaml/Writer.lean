import TagAudit.Data.Basic
import TagAudit.Yaml.Scalar

/-!
# Writing YAML

A mapping is written in block style and in ASCII: members in their order, two blanks deeper per
level, lists at the margin of the key that holds them. A scalar is plain if it reads back as a text
that way, else in single quotes if it can be, else in double quotes with escapes. Lines that have
passed the line width are folded at the next single blank.

* `Style.of` chooses the style of a text.
* `plain`, `singleQuoted` and `doubleQuoted` write a text in one style.
* `write` writes a document.
-/

namespace TagAudit.Yaml

/-- The styles of a scalar. -/
inductive Style where
  | plain
  | singleQuoted
  | doubleQuoted
deriving DecidableEq

/-- The width that a line has to pass before it is folded. -/
def lineWidth : Nat := 80

/-! ## Styles -/

/-- A line break inside a text. -/
def isBreak (c : CodePoint) : Bool := c = '\n'

/-- A code point that only an escape can write: all but the line break and printable ASCII. -/
def isSpecial (c : CodePoint) : Bool := !(isBreak c || (0x20 ≤ c.val && c.val ≤ 0x7E))

/-- A blank, or the end of the text. -/
def endsWord : Text → Bool
  | [] => true
  | c :: _ => c = '\x00' || c = ' ' || c = '\t' || c = '\r' || c = '\n' || c.val = 0x85 ||
    c.val = 0x2028 || c.val = 0x2029

/-- A mark at the front that makes a plain scalar something else. -/
def startsWithMark : Text → Bool
  | [] => false
  | c :: rest =>
    ("#,[]\x7b\x7d&*!|>'\"%@" : Text).contains c || c.val = 0x60 ||
      ((c = '?' || c = ':' || c = '-') && endsWord rest)

/-- A mark behind the front that ends a plain scalar: a colon before a blank, or a comment. -/
def holdsMark : Text → Bool
  | c :: d :: rest =>
    (d = ':' && endsWord rest) || (d = '#' && endsWord [c]) || holdsMark (d :: rest)
  | _ => false

/-- Whether some two neighbours are as given. -/
def adjacent (first second : CodePoint → Bool) : Text → Bool
  | c :: d :: rest => (first c && second d) || adjacent first second (d :: rest)
  | _ => false

/-- A blank between words. -/
def isSpace (c : CodePoint) : Bool := c = ' '

/-- Whether a text may be written without quotes. -/
def mayBePlain (t : Text) : Bool :=
  let outer (c? : Option CodePoint) : Bool := (c?.map isSpace).getD false
  !t.isEmpty && !outer t.head? && !outer t.getLast? && !t.any isBreak && !t.any isSpecial &&
    !startsWithMark t && !holdsMark t &&
    !("---" : Text).isPrefixOf t && !("..." : Text).isPrefixOf t &&
    decide (Spelling.of t = .text)

/-- Whether a text may be written in single quotes. -/
def mayBeSingleQuoted (t : Text) : Bool :=
  !t.any isSpecial && !adjacent isBreak isSpace t && !adjacent isSpace isBreak t

/-- The style of a text; a key on a line of its own may hold no breaks between single quotes. -/
def Style.of (inKey : Bool) (t : Text) : Style :=
  if mayBePlain t then .plain
  else if mayBeSingleQuoted t && !(inKey && t.any isBreak) then .singleQuoted
  else .doubleQuoted

/-! ## Scalars -/

/-- Where a scalar starts, and how it may go on. -/
structure Place where
  /-- The column of its first code point. -/
  column : Nat
  /-- The margin of its further lines. -/
  margin : Nat
  /-- Whether it may be folded. -/
  folds : Bool

/-- A line break and the margin of the next line. -/
def newLine (margin : Nat) : Text := ('\n' : CodePoint) :: List.replicate margin (' ' : CodePoint)

/-- The words of a text with the number of blanks before each: a text is a word, then blanks and a
word, and so on. -/
def words (t : Text) : List (Nat × Text) := go 0 [] [] t
where
  go (blanks : Nat) (word : Text) (done : List (Nat × Text)) : Text → List (Nat × Text)
    | [] => ((blanks, word.reverse) :: done).reverse
    | c :: rest =>
      if isSpace c then
        if word.isEmpty then go (blanks + 1) [] done rest
        else go 1 [] ((blanks, word.reverse) :: done) rest
      else go blanks (c :: word) done rest

/-- Words in a row, folded where one blank stands and the line has passed its width. -/
def fold (p : Place) (column : Nat) (first : Bool) : List (Nat × Text) → List Text
  | [] => []
  | (blanks, word) :: rest =>
    let mayFold := p.folds && blanks == 1 && !first && lineWidth < column &&
      !(word.isEmpty && rest.isEmpty)
    if mayFold then newLine p.margin :: word :: fold p (p.margin + word.length) false rest
    else
      List.replicate blanks (' ' : CodePoint) :: word ::
        fold p (column + blanks + word.length) false rest

/-- A text without quotes. -/
def plain (p : Place) (t : Text) : Text := (fold p p.column true (words t)).flatten

/-- A quote is written twice. -/
def doubleQuotes (t : Text) : Text :=
  t.flatMap fun (c : CodePoint) => if c = '\'' then [c, c] else [c]

/-- One line of a text between single quotes, from a column on. -/
def singleQuotedLine (p : Place) (column : Nat) (line : Text) : Text :=
  (fold p column true ((words line).map fun (n, w) => (n, doubleQuotes w))).flatten

/-- The further lines of a text between single quotes, behind so many breaks: the empty ones are
left out, and one break more than there are is written. -/
def singleQuotedRest (p : Place) (breaks : Nat) : List Text → List Text
  | [] => []
  | line :: rest =>
    if line.isEmpty && !rest.isEmpty then singleQuotedRest p (breaks + 1) rest
    else
      List.replicate breaks ('\n' : CodePoint) :: newLine p.margin ::
        singleQuotedLine p p.margin line :: singleQuotedRest p 1 rest

/-- A text in single quotes. -/
def singleQuoted (p : Place) (t : Text) : Text :=
  match Text.splitOn '\n' t with
  | [] => "''"
  | line :: rest =>
    ('\'' : CodePoint) :: singleQuotedLine p (p.column + 1) line ++
      (singleQuotedRest p 1 rest).flatten ++ (['\''] : Text)

/-- The escape of a code point in double quotes, if it needs one. -/
def escape? (c : CodePoint) : Option Text :=
  let short (letter : Char) : Option Text := some ['\\', letter]
  if c = '"' then short '"'
  else if c = '\\' then short '\\'
  else if 0x20 ≤ c.val && c.val ≤ 0x7E then none
  else if c.val = 0 then short '0'
  else if c.val = 7 then short 'a'
  else if c.val = 8 then short 'b'
  else if c.val = 9 then short 't'
  else if c.val = 10 then short 'n'
  else if c.val = 11 then short 'v'
  else if c.val = 12 then short 'f'
  else if c.val = 13 then short 'r'
  else if c.val = 0x1B then short 'e'
  else if c.val = 0x85 then short 'N'
  else if c.val = 0xA0 then short '_'
  else if c.val = 0x2028 then short 'L'
  else if c.val = 0x2029 then short 'P'
  else
    let digits (width : Nat) : Text := (Text.hex width c.val).map fun d =>
      if d.isAsciiLower then CodePoint.ofNat (d.val - 0x20) else d
    if c.val ≤ 0xFF then some (("\\x" : Text) ++ digits 2)
    else if c.val ≤ 0xFFFF then some (("\\u" : Text) ++ digits 4)
    else some (("\\U" : Text) ++ digits 8)

/-- The code points of a text between double quotes. `first` holds at the start of the text, and
`fresh` where the last thing written was an escape, a fold or the quote. -/
def doubleQuotedRest (p : Place) (column : Nat) (first fresh : Bool) : Text → List Text
  | [] => []
  | c :: rest =>
    let (written, column', escaped) := match escape? c with
      | some e => (e, column + e.length, true)
      | none => (([c] : Text), column + 1, false)
    let here := if escaped then column' - 1 else column
    let folds := p.folds && !first && !rest.isEmpty && (c = ' ' || escaped || fresh) &&
      lineWidth < here
    if folds then
      let next := if escaped then rest.head? else some c
      let guard : Text := if next = some (' ' : CodePoint) then ['\\'] else []
      let break_ : Text := ('\\' : CodePoint) :: newLine p.margin ++ guard
      let column'' := p.margin + guard.length
      if escaped then written :: break_ :: doubleQuotedRest p column'' false true rest
      else break_ :: written :: doubleQuotedRest p (column'' + 1) false false rest
    else written :: doubleQuotedRest p column' false escaped rest

/-- A text in double quotes. -/
def doubleQuoted (p : Place) (t : Text) : Text :=
  ('"' : CodePoint) :: (doubleQuotedRest p (p.column + 1) true true t).flatten ++ (['"'] : Text)

/-- A text in the style that suits it. -/
def writeText (inKey : Bool) (p : Place) (t : Text) : Text :=
  match Style.of inKey t with
  | .plain => plain p t
  | .singleQuoted => singleQuoted p t
  | .doubleQuoted => doubleQuoted p t

/-- The text of a number with a point. -/
def writeFloat : Binary64 → Text
  | .nan => ".nan"
  | .infinite false => ".inf"
  | .infinite true => "-.inf"
  | x =>
    let t := x.text
    if t.contains ('.' : CodePoint) then t
    else
      match Text.splitOnce? "e" t with
      | some (digits, exponent) => digits ++ (".0e" : Text) ++ exponent
      | none => t

/-- A scalar, or an empty collection; none for what takes lines of its own. -/
def writeInline (p : Place) : Data → Except Fault (Option Text)
  | .null => .ok (some "null")
  | .bool true => .ok (some "true")
  | .bool false => .ok (some "false")
  | .int n => (writeInteger n).map some
  | .float x => .ok (some (writeFloat x))
  | .text t => .ok (some (writeText false p t))
  | .array [] => .ok (some "[]")
  | .object [] => .ok (some "\x7b\x7d")
  | _ => .ok none

/-! ## Documents -/

/-- Whether a key may stand on the line of its value: it is not empty, not long and has no
breaks. -/
def isSimpleKey (key : Text) : Bool :=
  !key.isEmpty && key.length + 5 < 128 &&
    !key.any fun c => isBreak c || c.val = 0x85 || c.val = 0x2028 || c.val = 0x2029

mutual

/-- The members of a mapping with `margin` blanks before them; the first stands where the mapping
starts. -/
def writeMembers (margin : Nat) : List (Text × Data) → Except Fault (List Text)
  | [] => .ok []
  | (key, value) :: rest => do
    let entry ←
      if isSimpleKey key then
        let shown := writeText true ⟨margin, margin + 2, false⟩ key ++ (":" : Text)
        match ← writeInline ⟨margin + shown.length + 1, margin + 2, true⟩ value with
        | some t => pure (shown ++ (' ' : CodePoint) :: t)
        | none => do pure (shown ++ (← writeBelow margin value))
      else
        let shown := ("? " : Text) ++ writeText false ⟨margin + 2, margin + 2, true⟩ key
        let shown := shown ++ newLine margin ++ (": " : Text)
        do pure (shown ++ (← writeBeside (margin + 2) value))
    let others ← writeMembers margin rest
    return entry :: others
termination_by structural members => members

/-- A collection on the lines below its key, whose margin is given. -/
def writeBelow (margin : Nat) : Data → Except Fault Text
  | .array items => do
    return newLine margin ++ Text.join (newLine margin) (← writeItems margin items)
  | .object members => do
    let entries ← writeMembers (margin + 2) members
    return newLine (margin + 2) ++ Text.join (newLine (margin + 2)) entries
  | _ => .ok []
termination_by structural d => d

/-- A value that starts at its own margin, behind a mark. -/
def writeBeside (margin : Nat) : Data → Except Fault Text
  | .array (item :: items) => do
    return Text.join (newLine margin) (← writeItems margin (item :: items))
  | .object (entry :: members) => do
    return Text.join (newLine margin) (← writeMembers margin (entry :: members))
  | d => do return (← writeInline ⟨margin, margin, true⟩ d).getD []
termination_by structural d => d

/-- The items of a list, each behind a dash. -/
def writeItems (margin : Nat) : List Data → Except Fault (List Text)
  | [] => .ok []
  | item :: rest => do
    let first ← writeBeside (margin + 2) item
    let others ← writeItems margin rest
    return (("- " : Text) ++ first) :: others
termination_by structural items => items

end

/-- The document of a mapping. -/
def write (members : Members Data) : Except Fault Text :=
  match members with
  | [] => .ok "\x7b\x7d\n"
  | members => do return Text.join "\n" (← writeMembers 0 members) ++ (['\n'] : Text)

end TagAudit.Yaml
