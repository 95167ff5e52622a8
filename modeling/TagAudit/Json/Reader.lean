import TagAudit.Data.Basic

/-!
# Reading strict JSON

A reader takes the unread part of the text and returns a value with the part after it. Failures keep
the unread part at the place that they blame, so no position is carried along; `Failure.message`
computes line and column from it.

* `readString` decodes a string; two adjacent escapes that spell a surrogate pair denote one
  code point.
* `readNumber` reads a number: an integer, unless it has a fraction or an exponent.
* `readValue` reads a value with at most `depth` values around and including it.
* `readWithin` reads a whole text, with a limit to the nesting; `read` has the limit `depthLimit`.

Beyond the grammar of RFC 8259 the words `NaN`, `Infinity` and `-Infinity` are numbers.
-/

namespace TagAudit.Json

/-- What is wrong with a text that is no JSON. -/
inductive Problem where
  | expectingValue
  | expectingName
  | expectingColon
  | expectingComma
  | extraData
  | unterminatedString
  | controlCharacter
  | badEscape
  | badUnicodeEscape
  | byteOrderMark
deriving DecidableEq

/-- The wording of a problem. -/
def Problem.text : Problem → Text
  | expectingValue => "Expecting value"
  | expectingName => "Expecting property name enclosed in double quotes"
  | expectingColon => "Expecting ':' delimiter"
  | expectingComma => "Expecting ',' delimiter"
  | extraData => "Extra data"
  | unterminatedString => "Unterminated string starting at"
  | controlCharacter => "Invalid control character at"
  | badEscape => "Invalid \\escape"
  | badUnicodeEscape => "Invalid \\uXXXX escape"
  | byteOrderMark => "Unexpected UTF-8 BOM (decode using utf-8-sig)"

/-- Why a text was not read. -/
inductive Failure where
  /-- The text is no JSON; `unread` starts at the place of the problem. -/
  | malformed (problem : Problem) (unread : Text)
  /-- An integer has too many digits. -/
  | longNumeral (digits : Nat)
  /-- Too many values are nested in one another. -/
  | tooDeep
deriving DecidableEq

/-- A place in a text as messages give it: line and column from one, offset from zero. -/
def place (source : Text) (offset : Nat) : Text :=
  let before := source.take offset
  let line := before.count ('\n' : CodePoint) + 1
  let column := (before.reverse.takeWhile fun c => c != ('\n' : CodePoint)).length + 1
  (": line " : Text) ++ Text.ofNat line ++ (" column " : Text) ++ Text.ofNat column ++
    (" (char " : Text) ++ Text.ofNat offset ++ (")" : Text)

/-- The fault of a failure to read `source`. -/
def Failure.toFault (source : Text) : Failure → Fault
  | malformed problem unread =>
    .worded .json (problem.text ++ place source (source.length - unread.length))
  | longNumeral digits => .longNumeral digits
  | tooDeep => .tooDeep

/-- The wording of a failure to read `source`. -/
def Failure.message (source : Text) (failure : Failure) : Text := (failure.toFault source).message

/-- Blanks between tokens. -/
def isBlank (c : CodePoint) : Bool :=
  c = ' ' || c = '\t' || c = '\n' || c = '\r'

/-- The text from its first token on. -/
def skipBlanks (text : Text) : Text := text.dropWhile isBlank

/-! ## Strings -/

/-- The code point that a letter stands for behind a backslash. -/
def simpleEscape? (c : CodePoint) : Option CodePoint :=
  if c = '"' then some '"'
  else if c = '\\' then some '\\'
  else if c = '/' then some '/'
  else if c = 'b' then some '\x08'
  else if c = 'f' then some '\x0c'
  else if c = 'n' then some '\n'
  else if c = 'r' then some '\r'
  else if c = 't' then some '\t'
  else none

/-- The code point of four hexadecimal digits. -/
def fourHex? (a b c d : CodePoint) : Option CodePoint := do
  let digits := [← a.hexValue?, ← b.hexValue?, ← c.hexValue?, ← d.hexValue?]
  return CodePoint.ofNat (Numeral.toNat 16 digits)

/-- The rest of a string that was opened at `opening`. The code points read so far stand in
reverse in `done`; `afterHigh` says that the last of them is an escaped high surrogate, which an
escaped low one completes. -/
def readBody (opening done : Text) (afterHigh : Bool) : Text → Except Failure (Text × Text)
  | [] => .error (.malformed .unterminatedString opening)
  | c :: rest =>
    if c = '"' then .ok (done.reverse, rest)
    else if c = '\\' then
      match rest with
      | [] => .error (.malformed .unterminatedString opening)
      | e :: afterEscape =>
        if e = 'u' then
          match afterEscape with
          | d₁ :: d₂ :: d₃ :: d₄ :: more =>
            match fourHex? d₁ d₂ d₃ d₄ with
            | none => .error (.malformed .badUnicodeEscape (e :: afterEscape))
            | some code =>
              if more.isEmpty then .error (.malformed .badUnicodeEscape (e :: afterEscape))
              else
                match afterHigh && code.isLowSurrogate, done with
                | true, high :: before =>
                  readBody opening (high.joinSurrogates code :: before) false more
                | _, _ => readBody opening (code :: done) code.isHighSurrogate more
          | _ => .error (.malformed .badUnicodeEscape (e :: afterEscape))
        else
          match simpleEscape? e with
          | some code => readBody opening (code :: done) false afterEscape
          | none => .error (.malformed .badEscape (c :: rest))
    else if c.val < 0x20 then .error (.malformed .controlCharacter (c :: rest))
    else readBody opening (c :: done) false rest

/-- The string whose opening quote is the first code point of `opening`. -/
def readString (opening : Text) : Except Failure (Text × Text) :=
  readBody opening [] false (opening.drop 1)

/-! ## Numbers -/

/-- The values of the ASCII digits at the front of a text, and what follows. -/
def digits (text : Text) : List Nat × Text :=
  let (front, rest) := text.span CodePoint.isAsciiDigit
  (front.map fun c => c.val - 0x30, rest)

/-- A point with at least one digit behind it, or nothing. -/
def fraction (text : Text) : List Nat × Text :=
  match text with
  | c :: rest =>
    if c = '.' then
      match digits rest with
      | ([], _) => ([], text)
      | found => found
    else ([], text)
  | [] => ([], text)

/-- An exponent mark, an optional sign and at least one digit, or nothing. -/
def exponent (text : Text) : Option Int × Text :=
  match text with
  | c :: rest =>
    if c = 'e' || c = 'E' then
      let (negative, body) := match rest with
        | s :: body =>
          if s = '-' then (true, body) else if s = '+' then (false, body) else (false, rest)
        | [] => (false, rest)
      match digits body with
      | ([], _) => (none, text)
      | (found, after) =>
        let n : Int := Numeral.toNat 10 found
        (some (if negative then -n else n), after)
    else (none, text)
  | [] => (none, text)

/-- The number at the front of a text. -/
def readNumber (text : Text) : Except Failure (Data × Text) :=
  let (negative, body) := match text with
    | c :: rest => if c = '-' then (true, rest) else (false, text)
    | [] => (false, text)
  -- a leading zero stands alone
  let (whole, afterWhole) := match body with
    | c :: rest => if c = '0' then ([0], rest) else digits body
    | [] => ([], body)
  if whole.isEmpty then .error (.malformed .expectingValue text)
  else
    let (places, afterPlaces) := fraction afterWhole
    let (power, rest) := exponent afterPlaces
    if places.isEmpty && power.isNone then
      match Numeral.ofDigits? whole with
      | some n => .ok (.int (if negative then -n else n), rest)
      | none => .error (.longNumeral whole.length)
    else
      .ok (.float (Binary64.ofDecimal negative (Numeral.toNat 10 (whole ++ places))
        (power.getD 0 - places.length)), rest)

/-! ## Values -/

/-- The words that are values. -/
def words : List (Text × Data) := [
  ("null", .null), ("true", .bool true), ("false", .bool false), ("NaN", .float .nan),
  ("Infinity", .float (.infinite false)), ("-Infinity", .float (.infinite true))]

/-- The word or number at the front of a text. -/
def readScalar (text : Text) : Except Failure (Data × Text) :=
  match words.find? fun (word, _) => word.isPrefixOf text with
  | some (word, value) => .ok (value, text.drop word.length)
  | none => readNumber text

/-- Items up to the closing bracket, each read by `item`; `steps` bounds their number. -/
def readItems (item : Text → Except Failure (Data × Text)) :
    Nat → List Data → Text → Except Failure (Data × Text)
  | 0, _, _ => .error .tooDeep
  | steps + 1, done, text => do
    let (value, after) ← item text
    match skipBlanks after with
    | c :: rest =>
      if c = ']' then .ok (.array (value :: done).reverse, rest)
      else if c = ',' then readItems item steps (value :: done) (skipBlanks rest)
      else .error (.malformed .expectingComma (c :: rest))
    | [] => .error (.malformed .expectingComma [])

/-- Members up to the closing brace, the value of each read by `item`; `steps` bounds their
number. -/
def readMembers (item : Text → Except Failure (Data × Text)) :
    Nat → List (Text × Data) → Text → Except Failure (Data × Text)
  | 0, _, _ => .error .tooDeep
  | steps + 1, done, text =>
    match text with
    | [] => .error (.malformed .expectingName [])
    | quote :: _ =>
      if quote ≠ '"' then .error (.malformed .expectingName text)
      else do
        let (key, afterKey) ← readString text
        match skipBlanks afterKey with
        | [] => .error (.malformed .expectingColon [])
        | colon :: afterColon =>
          if colon ≠ ':' then .error (.malformed .expectingColon (colon :: afterColon))
          else
            let (value, after) ← item (skipBlanks afterColon)
            match skipBlanks after with
            | c :: rest =>
              if c = '}' then .ok (.object (Members.ofList ((key, value) :: done).reverse), rest)
              else if c = ',' then readMembers item steps ((key, value) :: done) (skipBlanks rest)
              else .error (.malformed .expectingComma (c :: rest))
            | [] => .error (.malformed .expectingComma [])

/-- The value at the front of a text, nested at most `depth` deep. Every item and every member takes
at least one code point, so `steps` may be any bound on the length of the text. -/
def readValue (steps : Nat) : Nat → Text → Except Failure (Data × Text)
  | 0, _ => .error .tooDeep
  | depth + 1, text =>
    match text with
    | [] => .error (.malformed .expectingValue [])
    | c :: rest =>
      if c = '"' then do
        let (t, after) ← readString text
        return (.text t, after)
      else if c = '{' then
        match skipBlanks rest with
        | d :: after =>
          if d = '}' then .ok (.object [], after)
          else readMembers (readValue steps depth) steps [] (d :: after)
        | [] => .error (.malformed .expectingName [])
      else if c = '[' then
        match skipBlanks rest with
        | d :: after =>
          if d = ']' then .ok (.array [], after)
          else readItems (readValue steps depth) steps [] (d :: after)
        | [] => .error (.malformed .expectingValue [])
      else readScalar text

/-- The value of a text that is one JSON value, nested at most `limit` deep, with blanks around
it. -/
def readWithin (limit : Nat) (text : Text) : Except Failure Data :=
  if text.head?.any fun c => c.val == 0xFEFF then .error (.malformed .byteOrderMark text)
  else do
    let (value, rest) ← readValue (text.length + 1) limit (skipBlanks text)
    match skipBlanks rest with
    | [] => .ok value
    | extra => .error (.malformed .extraData extra)

/-- How deep values may be nested. -/
def depthLimit : Nat := 985

/-- The value of a text that is one JSON value with blanks around it. -/
def read (text : Text) : Except Failure Data := readWithin depthLimit text

end TagAudit.Json
