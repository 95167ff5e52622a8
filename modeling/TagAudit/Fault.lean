import TagAudit.Text.Quoted

/-!
# Faults

What can go wrong while a container is read, decoded, stored or reported. A fault is a cause;
`Fault.kind` says of which class it is and `Fault.message` words it, so that issues can report both.

Fetchers and tables may come from outside the program. What these raise is `Raised`: a fault like
those of the program itself, which always has words, or something that cannot be put in words.
-/

namespace TagAudit

namespace Fault

/-- The classes of faults that reports tell apart. -/
inductive Kind where
  | attribute
  | type
  | value
  | overflow
  | key
  | index
  | memory
  | os
  | runtime
  | zeroDivision
  | recursion
  | json
  | literal
  | evaluation
  | encoding
  | validation
  | sink
  | config
  | other (name : Text)
  /-- A class of its own below another one. -/
  | derived (name : Text) (base : Kind)
deriving DecidableEq

/-- The name of a class of faults in reports. -/
def Kind.name : Kind → Text
  | .attribute => "AttributeError"
  | .type => "TypeError"
  | .value => "ValueError"
  | .overflow => "OverflowError"
  | .key => "KeyError"
  | .index => "IndexError"
  | .memory => "MemoryError"
  | .os => "OSError"
  | .runtime => "RuntimeError"
  | .zeroDivision => "ZeroDivisionError"
  | .recursion => "RecursionError"
  | .json => "JSONDecodeError"
  | .literal => "LiteralSyntaxError"
  | .evaluation => "LiteralEvaluationError"
  | .encoding => "UnicodeEncodeError"
  | .validation => "ValidationError"
  | .sink => "SinkError"
  | .config => "ConfigLoadError"
  | .other name | .derived name _ => name

/-- The classes with a name of their own. -/
def Kind.named : List Kind :=
  [.attribute, .type, .value, .overflow, .key, .index, .memory, .os, .runtime, .zeroDivision,
    .recursion, .json, .literal, .evaluation, .encoding, .validation, .sink, .config]

/-- The class of a name. -/
def Kind.ofName (name : Text) : Kind :=
  (named.find? fun kind => decide (kind.name = name)).getD (.other name)

/-- What keeps a host from doing something with a file. -/
inductive Obstacle where
  | missing
  | taken
  | notDirectory
  | isDirectory
  | longName
deriving DecidableEq

/-- The number of an obstacle on the hosts that the program runs on. -/
def Obstacle.number : Obstacle → Nat
  | .missing => 2
  | .taken => 17
  | .notDirectory => 20
  | .isDirectory => 21
  | .longName => 36

/-- An obstacle in words. -/
def Obstacle.wording : Obstacle → Text
  | .missing => "No such file or directory"
  | .taken => "File exists"
  | .notDirectory => "Not a directory"
  | .isDirectory => "Is a directory"
  | .longName => "File name too long"

end Fault

/-- A cause of failure. -/
inductive Fault where
  /-- A numeral of this many digits is too long to be read. -/
  | longNumeral (digits : Nat)
  /-- An integer is too long to be written in decimal. -/
  | longInteger
  /-- A text is no numeral. -/
  | notNumeral (text : Text)
  /-- Infinity has no whole part. -/
  | wholeOfInfinity
  /-- What is no number has no whole part. -/
  | wholeOfNaN
  /-- A record of a container is not a map. -/
  | notMap (record : String) (position : Nat) (shape : String)
  /-- A member is asked of a value that has none. -/
  | noMembers
  /-- A value is of a type that the operation cannot use. -/
  | unusable
  /-- A name is not in a table. -/
  | missingKey (key : Text)
  /-- Nesting beyond the limit. -/
  | tooDeep
  /-- A text holds code points from `first` to `last` that cannot be encoded; `code` is the
  first. -/
  | unencodable (code : CodePoint) (first last : Nat)
  /-- The host refused to do something with a file. -/
  | storage (obstacle : Fault.Obstacle) (path : Text)
  /-- A fault of some class with a wording of its own. -/
  | worded (kind : Fault.Kind) (message : Text)
deriving DecidableEq

namespace Fault

/-- The limit on the decimal digits of an integer, read or written. -/
def digitLimit : Nat := 4300

/-- The class of a fault. -/
def kind : Fault → Kind
  | longNumeral _ | longInteger | notNumeral _ | wholeOfNaN => .value
  | wholeOfInfinity => .overflow
  | notMap .. | unusable => .type
  | noMembers => .attribute
  | missingKey _ => .key
  | tooDeep => .recursion
  | unencodable .. => .encoding
  | storage .. => .os
  | worded kind _ => kind

/-- How an unencodable code point is spelled in messages. -/
def codeText (c : CodePoint) : Text :=
  if c.val < 0x100 then ("\\x" : Text) ++ Text.hex 2 c.val
  else if c.val < 0x10000 then ("\\u" : Text) ++ Text.hex 4 c.val
  else ("\\U" : Text) ++ Text.hex 8 c.val

/-- The wording of a fault. -/
def message : Fault → Text
  | longNumeral digits =>
    ("Exceeds the limit (4300 digits) for integer string conversion: value has " : Text) ++
      Text.ofNat digits ++
      (" digits; use sys.set_int_max_str_digits() to increase the limit" : Text)
  | longInteger =>
    ("Exceeds the limit (4300 digits) for integer string conversion; " : Text) ++
      ("use sys.set_int_max_str_digits() to increase the limit" : Text)
  | notNumeral text => ("invalid literal for int() with base 10: " : Text) ++ text.quote.take 200
  | wholeOfInfinity => "cannot convert float infinity to integer"
  | wholeOfNaN => "cannot convert float NaN to integer"
  | notMap record position shape =>
    (record : Text) ++ (" at position " : Text) ++ Text.ofNat position ++ (" is " : Text) ++
      (shape : Text) ++ (", not a map" : Text)
  | noMembers => "value has no members"
  | unusable => "value of the wrong type"
  | missingKey key => key.quote
  | tooDeep => "recursion"
  | unencodable code first last =>
    if first = last then
      ("'utf-8' codec can't encode character '" : Text) ++ codeText code ++
        ("' in position " : Text) ++ Text.ofNat first ++ (": surrogates not allowed" : Text)
    else
      ("'utf-8' codec can't encode characters in position " : Text) ++ Text.ofNat first ++
        ("-" : Text) ++ Text.ofNat last ++ (": surrogates not allowed" : Text)
  | storage obstacle path =>
    ("[Errno " : Text) ++ Text.ofNat obstacle.number ++ ("] " : Text) ++ obstacle.wording ++
      (": " : Text) ++ path.quote
  | worded _ message => message

/-- Whether the host did not find a file. -/
def isMissing : Fault → Bool
  | storage .missing _ => true
  | _ => false

end Fault

/-- What code from outside the program raises. -/
inductive Raised where
  | fault (fault : Fault)
  /-- It cannot be put in words: whoever asks for them gets `failure` raised. -/
  | wordless (kind : Fault.Kind) (failure : Raised)
deriving DecidableEq

namespace Raised

/-- What was raised as a fault, or what asking for its words raises. -/
def told : Raised → Except Raised Fault
  | fault f => .ok f
  | wordless _ failure => .error failure

/-- The class of what was raised. -/
def kind : Raised → Fault.Kind
  | fault f => f.kind
  | wordless kind _ => kind

end Raised

end TagAudit
