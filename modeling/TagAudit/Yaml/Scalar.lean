import TagAudit.Text.Basic

/-!
# Plain scalars

A scalar without quotes says by its spelling what it is: nothing, a truth value, a number, a point
in time, or else a text.

* `Spelling.of` is what a plain scalar is.
* `clock` and `isStamp` recognise the forms with colons: numbers to the base sixty and times. A tag
  can ask for a time in a form that is none by itself (`isTaggedStamp`).
-/

namespace TagAudit.Yaml

/-- What a plain scalar is. -/
inductive Spelling where
  | null
  | bool (b : Bool)
  | int
  | float
  | stamp
  /-- The key `<<`, which merges mappings. -/
  | merge
  /-- The lone sign `=`. -/
  | equals
  /-- A lone sign that introduces something elsewhere. -/
  | indicator
  | text
deriving DecidableEq

/-! ## Pieces -/

/-- A digit to the base two. -/
def isBinary (c : CodePoint) : Bool := c = '0' || c = '1'

/-- A digit to the base eight. -/
def isOctal (c : CodePoint) : Bool := 0x30 ≤ c.val && c.val ≤ 0x37

/-- A digit to the base sixteen. -/
def isHex (c : CodePoint) : Bool := c.hexValue?.isSome

/-- Not empty, and made of digits of some kind and underscores. -/
def areDigits (digit : CodePoint → Bool) (t : Text) : Bool :=
  !t.isEmpty && t.all fun c => digit c || c = '_'

/-- Without the sign at the front. -/
def unsigned : Text → Text
  | c :: rest => if c = '-' || c = '+' then rest else c :: rest
  | [] => []

/-- A digit and then digits and underscores. -/
def isNumeral : Text → Bool
  | c :: rest => c.isAsciiDigit && rest.all fun c => c.isAsciiDigit || c = '_'
  | [] => false

/-- A numeral without a zero at the front. -/
def isPlainNumeral : Text → Bool
  | c :: rest => isNumeral (c :: rest) && c ≠ '0'
  | [] => false

/-- One or two digits that count below sixty. -/
def isSixtieth : Text → Bool
  | [c] => c.isAsciiDigit
  | [c, d] => 0x30 ≤ c.val && c.val ≤ 0x35 && d.isAsciiDigit
  | _ => false

/-- A number to the base sixty: a numeral of some kind, and then sixtieths behind colons. -/
def clock (leading : Text → Bool) (t : Text) : Bool :=
  match Text.splitOn ':' t with
  | first :: second :: rest => leading first && (second :: rest).all isSixtieth
  | _ => false

/-- A signed exponent with its letter, or nothing. -/
def isExponent : Text → Bool
  | e :: sign :: digits =>
    (e = 'e' || e = 'E') && (sign = '-' || sign = '+') && !digits.isEmpty &&
      digits.all CodePoint.isAsciiDigit
  | [] => true
  | _ => false

/-! ## Numbers -/

/-- The spelling of an integer: to the base two, eight, ten, sixteen or sixty. -/
def isInt (t : Text) : Bool :=
  let t := unsigned t
  match t with
  | zero :: mark :: rest =>
    (if zero = '0' then
      (mark = 'b' && areDigits isBinary rest) || (mark = 'x' && areDigits isHex rest) ||
        areDigits isOctal (mark :: rest)
     else isPlainNumeral t) || clock isPlainNumeral t
  | [c] => c.isAsciiDigit
  | [] => false

/-- The places behind the point, and an exponent. -/
def arePlaces (t : Text) : Bool :=
  isExponent (t.dropWhile fun c => c.isAsciiDigit || c = '_')

/-- The spelling of a number with a point. -/
def isFloat (t : Text) : Bool :=
  let body := unsigned t
  if [(".inf" : Text), ".Inf", ".INF"].contains body then true
  else if [(".nan" : Text), ".NaN", ".NAN"].contains t then true
  else
    match Text.splitOnce? "." body with
    | some ([], places) =>
      body.length = t.length && (places.head?.map CodePoint.isAsciiDigit).getD false &&
        arePlaces places
    | some (whole, places) =>
      (isNumeral whole && arePlaces places) ||
        (clock isNumeral whole && places.all fun c => c.isAsciiDigit || c = '_')
    | none => false

/-! ## Points in time -/

/-- What follows at least `low` and at most `high` digits. -/
def afterDigits? (low high : Nat) (t : Text) : Option Text :=
  let count := ((t.take high).takeWhile CodePoint.isAsciiDigit).length
  if low ≤ count then some (t.drop count) else none

/-- What follows a sign. -/
def after? (sign : CodePoint) : Text → Option Text
  | c :: rest => if c = sign then some rest else none
  | [] => none

/-- What follows the blanks on a line. -/
def afterBlanks (t : Text) : Text := t.dropWhile fun c => c = ' ' || c = '\t'

/-- What follows the separator of date and time: a letter or blanks. -/
def afterSeparator? : Text → Option Text
  | c :: rest =>
    if c = 'T' || c = 't' then some rest
    else if c = ' ' || c = '\t' then some (afterBlanks rest) else none
  | [] => none

/-- A time zone or nothing. -/
def isZone (t : Text) : Bool :=
  match afterBlanks t with
  | [] => t.isEmpty
  | c :: rest =>
    if c = 'Z' then rest.isEmpty
    else if c = '-' || c = '+' then
      match afterDigits? 1 2 rest with
      | some [] => true
      | some rest => ((after? ':' rest).bind (afterDigits? 2 2)) = some []
      | none => false
    else false

/-- What follows a date whose month and day have at least `low` digits. -/
def afterDate? (low : Nat) (t : Text) : Option Text := do
  let t ← afterDigits? 4 4 t
  let t ← after? '-' t
  let t ← afterDigits? low 2 t
  let t ← after? '-' t
  afterDigits? low 2 t

/-- What follows the hours, minutes and seconds of a time of day. -/
def afterSeconds? (t : Text) : Option Text := do
  let t ← afterDigits? 1 2 t
  let t ← after? ':' t
  let t ← afterDigits? 2 2 t
  let t ← after? ':' t
  afterDigits? 2 2 t

/-- The places of seconds, and what follows them. -/
def placesOf : Text → Text × Text
  | c :: rest => if c = '.' then rest.span CodePoint.isAsciiDigit else ([], c :: rest)
  | [] => ([], [])

/-- The time of day behind a date. -/
def timeOf? (t : Text) : Option Text := (afterDate? 1 t).bind afterSeparator?

/-- The spelling of a point in time. -/
def isTimed (t : Text) : Bool :=
  (((timeOf? t).bind afterSeconds?).map fun rest => isZone (placesOf rest).2).getD false

/-- The spelling of a date or of a point in time. -/
def isStamp (t : Text) : Bool := afterDate? 2 t = some [] || isTimed t

/-- The spelling of a date or of a point in time behind a tag that asks for one. -/
def isTaggedStamp (t : Text) : Bool := afterDate? 1 t = some [] || isTimed t

/-! ## All spellings -/

/-- The words for true. -/
def trueWords : List Text :=
  ["yes", "Yes", "YES", "true", "True", "TRUE", "on", "On", "ON"]

/-- The words for false. -/
def falseWords : List Text :=
  ["no", "No", "NO", "false", "False", "FALSE", "off", "Off", "OFF"]

/-- The words for nothing. -/
def nullWords : List Text := ["", "~", "null", "Null", "NULL"]

/-- What a plain scalar is. -/
def Spelling.of (t : Text) : Spelling :=
  if nullWords.contains t then .null
  else if trueWords.contains t then .bool true
  else if falseWords.contains t then .bool false
  else if isFloat t then .float
  else if isInt t then .int
  else if isStamp t then .stamp
  else if t = ("<<" : Text) then .merge
  else if t = ("=" : Text) then .equals
  else if [("!" : Text), "&", "*"].contains t then .indicator
  else .text

end TagAudit.Yaml
