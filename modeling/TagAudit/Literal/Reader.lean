import TagAudit.Data.Basic

/-!
# Reading object literals

The permissive reader accepts what minified scripts contain: bare keys, strings in single or double
quotes, comments, commas at the end, holes in arrays, signed and hexadecimal numbers, and the
idioms `!0` and `!1` for the two truth values. Calls, operators and names are no literals.

* `skipGap` passes over blanks and comments between tokens.
* `lexNumber?` splits off the longest number token.
* `readValue` reads a value; every function returns the unread part of the text, and a failure keeps
  the unread part at the place that it blames.
* `read` reads a whole text.
-/

namespace TagAudit.Literal

/-- What is wrong with a text that is no literal. -/
inductive Problem where
  | unexpectedEnd
  | unexpectedCharacter (c : CodePoint)
  | unsupportedIdentifier (word : Text)
  | unterminatedComment
  | trailingContent
  | missingColon
  | objectSeparator
  | arraySeparator
  | keyStart (c : CodePoint)
  | newlineInString
  | unterminatedString
  | unicodeEscape
  | hexEscape
  | number
deriving DecidableEq

/-- The wording of a problem. -/
def Problem.text : Problem → Text
  | unexpectedEnd => "Unexpected end of input"
  | unexpectedCharacter c => ("Unexpected character " : Text) ++ Text.quote [c]
  | unsupportedIdentifier word =>
    ("Unsupported identifier '" : Text) ++ word ++ ("'" : Text)
  | unterminatedComment => "Unterminated comment"
  | trailingContent => "Unexpected trailing content"
  | missingColon => "Expected ':' after key"
  | objectSeparator => "Expected ',' or '\x7d' in object"
  | arraySeparator => "Expected ',' or ']' in array"
  | keyStart c => ("Invalid object key start " : Text) ++ Text.quote [c]
  | newlineInString => "Newline in string literal"
  | unterminatedString => "Unterminated string literal"
  | unicodeEscape => "Invalid unicode escape"
  | hexEscape => "Invalid hex escape"
  | number => "Invalid number"

/-- Why a text was not read. -/
inductive Failure where
  /-- The text is no literal; `unread` starts at the place of the problem. -/
  | malformed (problem : Problem) (unread : Text)
  /-- An integer has too many digits. -/
  | longNumeral (digits : Nat)
  /-- A key starts with a digit that has no place value. -/
  | keyDigit
  /-- Too many values are nested in one another. -/
  | tooDeep
deriving DecidableEq

/-- The wording of a problem at an offset. -/
def located (message : Text) (offset : Nat) : Text :=
  message ++ (" at offset " : Text) ++ Text.ofNat offset

/-- The offset in `source` that a failure blames. -/
def Failure.offset? (source : Text) : Failure → Option Nat
  | malformed _ unread => some (source.length - unread.length)
  | _ => none

/-- The fault of a failure to read `source`. -/
def Failure.toFault (source : Text) : Failure → Fault
  | malformed problem unread =>
    .worded .literal (located problem.text (source.length - unread.length))
  | longNumeral digits => .longNumeral digits
  | keyDigit => .noMembers
  | tooDeep => .tooDeep

/-! ## Gaps between tokens -/

/-- A blank between tokens. -/
def isBlank (c : CodePoint) : Bool :=
  c = ' ' || c = '\t' || c = '\r' || c = '\n' || c.val == 0xA0 || c.val == 0xFEFF

/-- Where a reader stands in a gap. -/
inductive Gap where
  /-- Between blanks and comments. -/
  | between
  /-- In a comment that ends with its line. -/
  | line
  /-- In a comment that was opened here and ends with `*/`. -/
  | block (opening : Text)

/-- The text from its first token on. -/
def skipGap : Gap → Text → Except Failure Text
  | .between, c :: d :: rest =>
    if isBlank c then skipGap .between (d :: rest)
    else if c = '/' && d = '/' then skipGap .line rest
    else if c = '/' && d = '*' then skipGap (.block (c :: d :: rest)) rest
    else .ok (c :: d :: rest)
  | .between, [c] => if isBlank c then .ok [] else .ok [c]
  | .line, c :: rest => if c = '\n' then skipGap .between rest else skipGap .line rest
  | .block opening, c :: d :: rest =>
    if c = '*' && d = '/' then skipGap .between rest else skipGap (.block opening) (d :: rest)
  | .block opening, [_] => .error (.malformed .unterminatedComment opening)
  | .block opening, [] => .error (.malformed .unterminatedComment opening)
  | .between, [] | .line, [] => .ok []

theorem skipGap_slashes (rest : Text) :
    skipGap .between ('/' :: '/' :: rest) = skipGap .line rest := by
  rw [skipGap, if_neg (by decide), if_pos (by decide)]

theorem skipGap_slashStar (rest : Text) :
    skipGap .between ('/' :: '*' :: rest) = skipGap (.block ('/' :: '*' :: rest)) rest := by
  rw [skipGap, if_neg (by decide), if_neg (by decide), if_pos (by decide)]

/-- The first code point of the next token and the text behind it. -/
def next (text : Text) : Except Failure (CodePoint × Text) := do
  match ← skipGap .between text with
  | [] => .error (.malformed .unexpectedEnd [])
  | c :: rest => return (c, rest)

/-! ## Words and numbers -/

/-- The first code point of a bare word. -/
def isWordStart (c : CodePoint) : Bool :=
  c.isAsciiUpper || c.isAsciiLower || c = '_' || c = '$'

/-- A code point of a bare word. -/
def isWordPart (c : CodePoint) : Bool := isWordStart c || c.isAsciiDigit

/-- The first code point of a number, sign and point included. -/
def isNumberStart (c : CodePoint) : Bool := c.isDigit || c = '+' || c = '-' || c = '.'

/-- The words that are values. -/
def keywords : List (Text × Data) := [
  ("true", .bool true), ("false", .bool false), ("null", .null), ("undefined", .null),
  ("NaN", .null), ("Infinity", .null)]

/-- What a number token denotes before its sign is applied. -/
inductive Magnitude where
  /-- Hexadecimal digits behind `0x`. -/
  | hex (digits : List Nat)
  /-- Decimal digits. -/
  | whole (digits : List Nat)
  /-- Digits before and after a point, and a power of ten. -/
  | scaled (digits places : List Nat) (power : Int)
deriving DecidableEq

/-- A number token. -/
structure NumberToken where
  /-- Whether a minus stands in front. -/
  negative : Bool
  magnitude : Magnitude
  /-- The token as it is spelled, without a sign. -/
  spelled : Text
deriving DecidableEq

/-- The values of decimal digits. -/
def digitValues (digits : Text) : List Nat := digits.map fun c => c.decimalValue?.getD 0

/-- The sign at the front of a text, if there is one, and what follows. -/
def splitSign : Text → Text × Text
  | [] => ([], [])
  | c :: rest => if c = '-' || c = '+' then ([c], rest) else ([], c :: rest)

/-- The exponent at the front of a text as it is spelled, its value, and what follows. -/
def lexPower? (text : Text) : Option (Text × Int × Text) :=
  match text with
  | mark :: rest =>
    if mark = 'e' || mark = 'E' then
      let (sign, body) := splitSign rest
      match body.span CodePoint.isDecimal with
      | ([], _) => none
      | (found, after) =>
        let n : Int := Numeral.toNat 10 (digitValues found)
        some (mark :: sign ++ found, if sign = ("-" : Text) then -n else n, after)
    else none
  | [] => none

/-- A hexadecimal number at the front of a text. -/
def lexHex? (negative : Bool) (text : Text) : Option (NumberToken × Text) :=
  match text with
  | zero :: mark :: rest =>
    if zero = '0' && (mark = 'x' || mark = 'X') then
      match rest.span fun c => c.hexValue?.isSome with
      | ([], _) => none
      | (found, after) =>
        some (⟨negative, .hex (found.filterMap CodePoint.hexValue?), zero :: mark :: found⟩, after)
    else none
  | _ => none

/-- A decimal number at the front of a text: digits with an optional point and more digits, or a
point and digits, and then an optional exponent. -/
def lexDecimal? (negative : Bool) (text : Text) : Option (NumberToken × Text) :=
  let (whole, afterWhole) := text.span CodePoint.isDecimal
  let (pointed, places, afterPlaces) : Bool × Text × Text := match afterWhole with
    | c :: rest =>
      if c = '.' then
        let (places, after) := rest.span CodePoint.isDecimal
        (true, places, after)
      else (false, [], afterWhole)
    | [] => (false, [], [])
  if whole.isEmpty && places.isEmpty then none
  else
    let mantissa := whole ++ (if pointed then ("." : Text) else []) ++ places
    match lexPower? afterPlaces with
    | some (spelled, power, rest) =>
      some (⟨negative, .scaled (digitValues whole) (digitValues places) power, mantissa ++ spelled⟩,
        rest)
    | none =>
      if pointed then
        some (⟨negative, .scaled (digitValues whole) (digitValues places) 0, mantissa⟩, afterPlaces)
      else some (⟨negative, .whole (digitValues whole), mantissa⟩, afterPlaces)

/-- The longest number without a sign at the front of a text. -/
def lexUnsigned? (negative : Bool) (text : Text) : Option (NumberToken × Text) :=
  match lexHex? negative text with
  | some found => some found
  | none => lexDecimal? negative text

/-- The longest number token at the front of a text, with what follows it. -/
def lexNumber? (text : Text) : Option (NumberToken × Text) :=
  let (sign, body) := splitSign text
  lexUnsigned? (sign = ("-" : Text)) body

/-- The value of a number token: an integer, unless it has a point or an exponent. -/
def NumberToken.value (token : NumberToken) : Except Failure Data :=
  let signed (n : Nat) : Data := .int (if token.negative then -n else n)
  match token.magnitude with
  | .hex digits => .ok (signed (Numeral.toNat 16 digits))
  | .whole digits =>
    match Numeral.ofDigits? digits with
    | some n => .ok (signed n)
    | none => .error (.longNumeral digits.length)
  | .scaled digits places power =>
    .ok (.float (Binary64.ofDecimal token.negative (Numeral.toNat 10 (digits ++ places))
      (power - places.length)))

/-! ## Strings -/

/-- What a code point stands for behind a backslash, apart from escapes by number: a control for six
letters and the zero, nothing for a line end, and itself otherwise. -/
def simpleEscape (c : CodePoint) : Text :=
  if c = 'n' then ['\n']
  else if c = 't' then ['\t']
  else if c = 'r' then ['\r']
  else if c = 'b' then ['\x08']
  else if c = 'f' then ['\x0c']
  else if c = 'v' then ['\x0b']
  else if c = '0' then ['\x00']
  else if c = '\n' then []
  else [c]

/-- The code point of hexadecimal digits. -/
def hexCode? (digits : Text) : Option CodePoint :=
  (digits.mapM CodePoint.hexValue?).map fun values => CodePoint.ofNat (Numeral.toNat 16 values)

/-- The rest of a string that was opened at `opening` and ends with `mark`. The code points read so
far stand in reverse in `done`. -/
def readBody (opening : Text) (mark : CodePoint) (done : Text) :
    Text → Except Failure (Text × Text)
  | [] => .error (.malformed .unterminatedString opening)
  | c :: rest =>
    if c = mark then .ok (done.reverse, rest)
    else if c = '\\' then
      match rest with
      | [] => .error (.malformed .unterminatedString opening)
      | e :: after =>
        if e = 'u' then
          match after with
          | d₁ :: d₂ :: d₃ :: d₄ :: more =>
            match hexCode? [d₁, d₂, d₃, d₄] with
            | some code => readBody opening mark (code :: done) more
            | none => .error (.malformed .unicodeEscape rest)
          | _ => .error (.malformed .unicodeEscape rest)
        else if e = 'x' then
          match after with
          | d₁ :: d₂ :: more =>
            match hexCode? [d₁, d₂] with
            | some code => readBody opening mark (code :: done) more
            | none => .error (.malformed .hexEscape rest)
          | _ => .error (.malformed .hexEscape rest)
        else readBody opening mark (simpleEscape e ++ done) after
    else if c = '\n' then .error (.malformed .newlineInString (c :: rest))
    else readBody opening mark (c :: done) rest

/-- A quotation mark. -/
def isQuote (c : CodePoint) : Bool := c = '\'' || c = '"'

/-! ## Values -/

/-- The key of a member that starts with `c`. -/
def readKey (c : CodePoint) (rest : Text) : Except Failure (Text × Text) :=
  if isQuote c then readBody (c :: rest) c [] rest
  else if c.isDigit then
    match lexNumber? (c :: rest) with
    | some (token, after) => .ok (token.spelled, after)
    | none => .error .keyDigit
  else if isWordStart c then .ok ((c :: rest).span isWordPart)
  else .error (.malformed (.keyStart c) (c :: rest))

/-- The number at the front of a text. -/
def readNumber (text : Text) : Except Failure (Data × Text) :=
  match lexNumber? text with
  | some (token, after) => do return (← token.value, after)
  | none => .error (.malformed .number text)

/-- The value that the bare word at the front of a text denotes. -/
def readKeyword (text : Text) : Except Failure (Data × Text) :=
  let (word, rest) := text.span isWordPart
  match keywords.find? fun (keyword, _) => decide (keyword = word) with
  | some (_, value) => .ok (value, rest)
  | none => .error (.malformed (.unsupportedIdentifier word) text)

/-- Items up to the closing bracket, each read by `item`; `steps` bounds their number. A comma where
an item is expected stands for null. -/
def readItems (item : Text → Except Failure (Data × Text)) :
    Nat → List Data → Text → Except Failure (Data × Text)
  | 0, _, _ => .error .tooDeep
  | steps + 1, done, text => do
    let (c, rest) ← next text
    if c = ']' then return (.array done.reverse, rest)
    else if c = ',' then readItems item steps (.null :: done) rest
    else
      let (value, after) ← item (c :: rest)
      let (d, rest) ← next after
      if d = ',' then readItems item steps (value :: done) rest
      else if d = ']' then return (.array (value :: done).reverse, rest)
      else .error (.malformed .arraySeparator (d :: rest))

/-- Members up to the closing brace, the value of each read by `item`; `steps` bounds their
number. -/
def readMembers (item : Text → Except Failure (Data × Text)) :
    Nat → List (Text × Data) → Text → Except Failure (Data × Text)
  | 0, _, _ => .error .tooDeep
  | steps + 1, done, text => do
    let (c, rest) ← next text
    if c = '}' then return (.object (Members.ofList done.reverse), rest)
    else
      let (key, afterKey) ← readKey c rest
      let (colon, afterColon) ← next afterKey
      if colon ≠ ':' then .error (.malformed .missingColon (colon :: afterColon))
      else
        let (value, after) ← item afterColon
        let (d, rest) ← next after
        if d = ',' then readMembers item steps ((key, value) :: done) rest
        else if d = '}' then return (.object (Members.ofList ((key, value) :: done).reverse), rest)
        else .error (.malformed .objectSeparator (d :: rest))

/-- The value at the front of a text, nested at most `depth` deep. Every item and every member takes
at least one code point, so `steps` may be any bound on the length of the text. -/
def readValue (steps : Nat) : Nat → Text → Except Failure (Data × Text)
  | 0, _ => .error .tooDeep
  | depth + 1, text => do
    let (c, rest) ← next text
    if c = '{' then readMembers (readValue steps depth) steps [] rest
    else if c = '[' then readItems (readValue steps depth) steps [] rest
    else if isQuote c then
      let (t, after) ← readBody (c :: rest) c [] rest
      return (.text t, after)
    else if c = '!' then
      let (operand, after) ← readValue steps depth rest
      return (.bool !operand.isTruthy, after)
    else if isNumberStart c then readNumber (c :: rest)
    else if isWordStart c then readKeyword (c :: rest)
    else .error (.malformed (.unexpectedCharacter c) (c :: rest))

/-- How deep values may be nested. -/
def depthLimit : Nat := 490

/-- The value of a text that is one literal with gaps around it. -/
def read (text : Text) : Except Failure Data := do
  let (value, rest) ← readValue (text.length + 1) depthLimit text
  match ← skipGap .between rest with
  | [] => return value
  | extra => .error (.malformed .trailingContent extra)

end TagAudit.Literal
