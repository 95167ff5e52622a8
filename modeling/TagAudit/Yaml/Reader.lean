import TagAudit.Yaml.Scalar
import TagAudit.Yaml.Token
import TagAudit.Yaml.Value

/-!
# Reading documents

The value of a YAML document. A text holds one document at most; an empty one is null.

* `Node.ofPlain` types a plain scalar by its spelling.
* `Reading.taggedScalar` and `Reading.taggedCollection` do what a tag asks for.
* `read` reads a document.
-/

namespace TagAudit.Yaml

/-- Why a document has no value. -/
inductive Failure where
  | malformed (m : Malformed)
  /-- A scalar looks like a value and is none, or collections are nested too deep. -/
  | badValue (fault : Fault)

/-! ## Scalars -/

/-- The value of digits to a base; no digits are a fault. -/
def digitsValue (base : Nat) (t : Text) : Except Fault Nat :=
  if t.isEmpty then
    .error (.worded .value (("invalid literal for int() with base " : Text) ++ Text.ofNat base ++
      (": ''" : Text)))
  else .ok (Numeral.toNat base (t.filterMap CodePoint.hexValue?))

/-- The value of a decimal numeral, unless it is too long. -/
def decimalValue (t : Text) : Except Fault Nat :=
  match Numeral.ofDigits? (t.filterMap CodePoint.hexValue?) with
  | some n => .ok n
  | none => .error (.longNumeral t.length)

/-- Whether a number is negative, and what follows its sign; underscores are dropped. -/
def signed (t : Text) : Bool × Text :=
  (t.head? = some ('-' : CodePoint),
    unsigned (t.filter fun (c : CodePoint) => decide (c ≠ '_')))

/-- The number of an integer's spelling. -/
def intValue (t : Text) : Except Fault Int := do
  let (negative, body) := signed t
  let n ←
    if (body.contains (':' : CodePoint)) then do
      let parts ← (Text.splitOn ':' body).mapM decimalValue
      pure (Numeral.toNat 60 parts)
    else
      match body with
      | zero :: mark :: rest =>
        if zero = '0' then
          if mark = 'b' then digitsValue 2 rest
          else if mark = 'x' then digitsValue 16 rest
          else digitsValue 8 (mark :: rest)
        else decimalValue body
      | _ => decimalValue body
  return if negative then -n else n

/-- The number of digits, places and an exponent. -/
def decimalFloat (negative : Bool) (t : Text) : Binary64 :=
  let (mantissa, exponent) := (Text.splitOnce? "e" t.lower).getD (t, [])
  let (whole, places) := (Text.splitOnce? "." mantissa).getD (mantissa, [])
  let digits (t : Text) : List Nat := t.filterMap CodePoint.hexValue?
  let power : Int := Numeral.toNat 10 (digits (unsigned exponent))
  let power := if exponent.head? = some ('-' : CodePoint) then -power else power
  Binary64.ofDecimal negative (Numeral.toNat 10 (digits (whole ++ places))) (power - places.length)

/-- The number of a clock's spelling, with places behind the last part. -/
def clockFloat (negative : Bool) (t : Text) : Binary64 :=
  let (whole, places) := (Text.splitOnce? "." t).getD (t, [])
  let digits (t : Text) : List Nat := t.filterMap CodePoint.hexValue?
  let parts := (Text.splitOn ':' whole).map fun part => Numeral.toNat 10 (digits part)
  Binary64.ofQuotient negative
    (Numeral.toNat 60 parts * tenPow places.length + Numeral.toNat 10 (digits places))
    (tenPow places.length)

/-- The number of a spelling with a point. -/
def floatValue (t : Text) : Binary64 :=
  let (negative, body) := signed t
  let body := body.lower
  if body = (".inf" : Text) then .infinite negative
  else if body = (".nan" : Text) then .nan
  else if body.contains (':' : CodePoint) then clockFloat negative body
  else decimalFloat negative body

/-- The days of a month. -/
def daysOf (year month : Nat) : Nat :=
  if month = 2 then
    if year % 4 = 0 && (year % 100 ≠ 0 || year % 400 = 0) then 29 else 28
  else if [4, 6, 9, 11].contains month then 30 else 31

/-- What is wrong with a point in time, given by its numbers in order. -/
def stampFault? (parts : List Nat) : Option Fault :=
  let part (i : Nat) : Nat := (parts[i]?).getD 0
  let (year, month, day) := (part 0, part 1, part 2)
  let fault (reason : String) : Option Fault := some (.worded .value reason)
  if year = 0 then fault "year 0 is out of range"
  else if month = 0 || 12 < month then fault "month must be in 1..12"
  else if day = 0 || daysOf year month < day then fault "day is out of range for month"
  else if 23 < part 3 then fault "hour must be in 0..23"
  else if 59 < part 4 then fault "minute must be in 0..59"
  else if 59 < part 5 then fault "second must be in 0..59"
  else none

/-- The numbers in a text, in order. -/
def numbersIn (t : Text) : List Nat := go [] none t
where
  go (done : List Nat) (current : Option Nat) : Text → List Nat
    | [] => (current.toList ++ done).reverse
    | c :: rest =>
      if c.isAsciiDigit then go done (some (current.getD 0 * 10 + (c.val - 0x30))) rest
      else go (current.toList ++ done) none rest

/-- The number of a day, counted from the first one of the year 1. -/
def dayNumber (year month day : Nat) : Nat :=
  let years := year - 1
  let months := (List.range' 1 (month - 1)).foldl (fun days month => days + daysOf year month) 0
  365 * years + years / 4 - years / 100 + years / 400 + months + day

/-- The minutes by which a zone is ahead; none if there is no zone. -/
def zoneMinutes? (t : Text) : Option Int :=
  match afterBlanks t with
  | [] => none
  | c :: rest =>
    let part (i : Nat) : Nat := ((numbersIn rest)[i]?).getD 0
    let minutes : Int := part 0 * 60 + part 1
    some (if c = '-' then -minutes else minutes)

/-- What is wrong with a zone: none is a day ahead or behind. -/
def zoneFault? (minutes : Int) : Option Fault :=
  let perDay : Int := 24 * 60
  if minutes.natAbs < perDay then none
  else
    let seconds := minutes % perDay * 60
    let rest : Text :=
      if seconds = 0 then [] else (", seconds=" : Text) ++ Text.ofInt seconds
    some (.worded .value
      (("offset must be a timedelta strictly between -timedelta(hours=24) and " : Text) ++
        ("timedelta(hours=24), not datetime.timedelta(days=" : Text) ++
        Text.ofInt (minutes / perDay) ++ rest ++ (")." : Text)))

/-- The millionths of a second that places say; further places are dropped. -/
def microsOf (places : Text) : Nat :=
  let digits := (places.take 6).filterMap CodePoint.hexValue?
  Numeral.toNat 10 digits * tenPow (6 - digits.length)

/-- The date or point in time of a spelling. -/
def stampValue (t : Text) : Except Fault Stamp :=
  let part (i : Nat) : Nat := ((numbersIn t)[i]?).getD 0
  let day := dayNumber (part 0) (part 1) (part 2)
  let (places, zone) := placesOf (((timeOf? t).bind afterSeconds?).getD [])
  match ((zoneMinutes? zone).bind zoneFault?).or (stampFault? (numbersIn t)) with
  | some fault => .error fault
  | none =>
    if (timeOf? t).isNone then .ok (.date day)
    else
      let seconds := ((day * 24 + part 3) * 60 + part 4) * 60 + part 5
      let micros := seconds * 1000000 + microsOf places
      match zoneMinutes? zone with
      | none => .ok (.clock micros)
      | some minutes => .ok (.instant (micros - minutes * 60 * 1000000))

/-- The value of a sign to the base 64. -/
def sextet? (c : CodePoint) : Option Nat :=
  let n := c.val
  if 0x41 ≤ n && n ≤ 0x5A then some (n - 0x41)
  else if 0x61 ≤ n && n ≤ 0x7A then some (n - 0x61 + 26)
  else if c.isAsciiDigit then some (n - 0x30 + 52)
  else if c = '+' then some 62
  else if c = '/' then some 63
  else none

/-- The octets of signs to the base 64, in groups of four; other signs are passed over. `place` is
the place in a group, `left` what is left of the sign before, and `pads` the padding since. None if
the signs end within a group. -/
def octetsFrom (place left pads : Nat) : Text → Option Octets
  | [] => if place = 0 then some [] else none
  | c :: rest =>
    if c = '=' then
      if place < 2 then octetsFrom place left pads rest
      else if place + pads < 3 then octetsFrom place left (pads + 1) rest
      else some []
    else
      match sextet? c with
      | none => octetsFrom place left pads rest
      | some n =>
        let scale := 4 ^ (3 - place)
        let octets := octetsFrom ((place + 1) % 4) (n % scale) 0 rest
        if place = 0 then octets
        else octets.map fun octets => UInt8.ofNat (left * 4 ^ place + n / scale) :: octets

/-- The octets that a text spells to the base 64. -/
def octetsValue? (t : Text) : Option Octets :=
  if t.all fun c => c.val < 0x80 then octetsFrom 0 0 0 t else none

/-- A scalar, or a sign that means something only as a key. -/
inductive Node where
  | value (v : Value)
  | merge
  | equals

/-- What a plain scalar is. -/
def Node.ofPlain (t : Text) : Except Fault Node :=
  match Spelling.of t with
  | .null => .ok (.value .null)
  | .bool b => .ok (.value (.bool b))
  | .int => (intValue t).map fun n => .value (.int n)
  | .float => .ok (.value (.float (floatValue t)))
  | .stamp => (stampValue t).map fun s => .value (.stamp s)
  | .merge => .ok .merge
  | .equals => .ok .equals
  | .indicator | .text => .ok (.value (.text t))

/-! ## Collections -/

/-- A reading of tokens, which notes the values of anchors. -/
abbrev Reading := StateT (List Token × Members Value) (Except Failure)

namespace Reading

/-- Says that the tokens make no document. -/
def refuse {α : Type} (reason : String) : Reading α := throw (.malformed ⟨reason, 0, 0⟩)

/-- The next token. -/
def peek : Reading (Option Token) := return (← get).1.head?

/-- Passes over the next token. -/
def drop : Reading Unit := modify fun (ts, anchors) => (ts.drop 1, anchors)

/-- Whether the next token is one of some; the end of the tokens counts as any. -/
def sees (ts : List Token) : Reading Bool := do
  match ← peek with
  | some t => return ts.contains t
  | none => return true

/-- Passes over a token that has to be there. -/
def expect (t : Token) : Reading Unit := do
  if (← peek) = some t then drop else refuse "unexpected token"

/-- The value of a node that is no key. -/
def valueOf : Node → Reading Value
  | .value v => return v
  | .merge | .equals => refuse "a sign that only a key can be"

/-- The entries that a merged value brings. -/
def mergedEntries : Value → Reading (List (Key × Value))
  | .map entries => return entries
  | .set keys => return keys.map fun key => (key, .null)
  | .list items => do
    let parts ← items.mapM fun item =>
      match item with
      | .map entries => pure entries
      | _ => refuse "only mappings can be merged"
    return parts.reverse.flatten
  | _ => refuse "only mappings can be merged"

/-- The mapping of pairs: merged entries stand before its own. -/
def mapping (pairs : List (Node × Value)) : Reading Value := do
  let merged ← pairs.mapM fun (node, value) =>
    match node with
    | .merge => mergedEntries value
    | _ => pure []
  let own ← pairs.mapM fun (node, value) =>
    match node with
    | .merge => pure []
    | .equals => pure [(Key.text "=", value)]
    | .value v =>
      match v.key? with
      | some key => pure [(key, value)]
      | none => refuse "a collection cannot be a key"
  return .map (Entries.ofList (merged.flatten ++ own.flatten))

/-- What a tag makes of a scalar. A number that is none gets what is left to be read for its mark,
which is less with every scalar. -/
def taggedScalar (tag text : Text) : Reading Node := do
  let lift {α : Type} (r : Except Fault α) : Reading α :=
    match r with
    | .ok a => return a
    | .error fault => throw (.badValue fault)
  if tag = ("!" : Text) then lift (Node.ofPlain text)
  else if tag = ("!!str" : Text) then return .value (.text text)
  else if tag = ("!!int" : Text) && isInt text then return .value (.int (← lift (intValue text)))
  else if tag = ("!!float" : Text) && isFloat text then return .value (.float (floatValue text))
  else if tag = ("!!float" : Text) && (signed text).2.lower = ("nan" : Text) then
    return .value (.nan (← get).1.length)
  else if tag = ("!!null" : Text) then return .value .null
  else if tag = ("!!bool" : Text) then
    if trueWords.contains text.lower then return .value (.bool true)
    else if falseWords.contains text.lower then return .value (.bool false)
    else throw (.badValue (.missingKey text.lower))
  else if tag = ("!!timestamp" : Text) then
    if isTaggedStamp text then return .value (.stamp (← lift (stampValue text)))
    else throw (.badValue .noMembers)
  else if tag = ("!!binary" : Text) then
    match octetsValue? text with
    | some octets => return .value (.bytes octets)
    | none => refuse "no octets"
  else refuse "unknown tag"

/-- The pair that a mapping with one entry is. -/
def pairOf : Value → Reading (Value × Value)
  | .map [(key, value)] => return (key.value, value)
  | _ => refuse "only a mapping with one entry can be a pair"

/-- What a tag makes of a collection. -/
def taggedCollection : Option Text → Value → Reading Value
  | none, v => return v
  | some tag, .list items =>
    if tag = ("!" : Text) || tag = ("!!seq" : Text) then return .list items
    else if tag = ("!!omap" : Text) || tag = ("!!pairs" : Text) then
      return .pairs (← items.mapM pairOf)
    else refuse "unknown tag"
  | some tag, .map entries =>
    if tag = ("!" : Text) || tag = ("!!map" : Text) then return .map entries
    else if tag = ("!!set" : Text) then return .set (entries.map (·.1))
    else refuse "unknown tag"
  | some _, _ => refuse "unknown tag"

/-- A scalar with the tag in front of it, if any. -/
def scalar (tag : Option Text) (text : Text) (isPlain : Bool) : Reading Node := do
  match tag with
  | some tag => taggedScalar tag text
  | none =>
    if isPlain then
      match Node.ofPlain text with
      | .ok node => return node
      | .error fault => throw (.badValue fault)
    else return .value (.text text)

/-- Anchor and tag in front of a node, in any order. -/
def properties : Nat → Option Text → Option Text → Reading (Option Text × Option Text)
  | 0, anchor, tag => return (anchor, tag)
  | fuel + 1, anchor, tag => do
    match ← peek with
    | some (.anchor name) =>
      if anchor.isSome then return (anchor, tag)
      drop
      properties fuel (some name) tag
    | some (.tag name) =>
      if tag.isSome then return (anchor, tag)
      drop
      properties fuel anchor (some name)
    | _ => return (anchor, tag)

/-- Notes the value of an anchor. -/
def note (anchor : Option Text) (node : Node) : Reading Node := do
  match anchor, node with
  | some name, .value v =>
    let (_, anchors) ← get
    if Members.has anchors name then refuse "two anchors of one name"
    modify fun (ts, anchors) => (ts, Members.set anchors name v)
  | _, _ => pure ()
  return node

/-- How many collections may stand inside one another. -/
def depthLimit : Nat := 488

mutual

/-- A node inside `level` collections. `inBlock` allows block collections, `indentless` a sequence
at the margin of its key. -/
def node (inBlock indentless : Bool) (level : Nat) : Nat → Reading Node
  | 0 => refuse "nested too deep"
  | fuel + 1 => do
    if depthLimit ≤ level then throw (.badValue .tooDeep)
    match ← peek with
    | some (.reference name) =>
      drop
      match Members.get? (← get).2 name with
      | some v => return .value v
      | none => refuse "unknown anchor"
    | _ =>
      let (anchor, tag) ← properties 2 none none
      let collected (v : Value) : Reading Node := do
        note anchor (.value (← taggedCollection tag v))
      match ← peek with
      | some (.scalar text isPlain) =>
        drop
        note anchor (← scalar tag text isPlain)
      | some .blockEntry =>
        if indentless then collected (.list (← indentlessItems level fuel))
        else if anchor.isSome || tag.isSome then note anchor (← scalar tag [] true)
        else refuse "expected a node"
      | some .flowSequence =>
        drop
        collected (.list (← flowItems true level fuel))
      | some .flowMapping =>
        drop
        collected (← mapping (← flowPairs true level fuel))
      | some .blockSequence =>
        if inBlock then
          drop
          collected (.list (← blockItems level fuel))
        else if anchor.isSome || tag.isSome then note anchor (← scalar tag [] true)
        else refuse "expected a node"
      | some .blockMapping =>
        if inBlock then
          drop
          collected (← mapping (← blockPairs level fuel))
        else if anchor.isSome || tag.isSome then note anchor (← scalar tag [] true)
        else refuse "expected a node"
      | _ =>
        if anchor.isSome || tag.isSome then note anchor (← scalar tag [] true)
        else refuse "expected a node"
termination_by structural fuel => fuel

/-- A node, or null where one of some tokens follows at once. -/
def nodeUnless (ends : List Token) (inBlock indentless : Bool) (level : Nat) :
    Nat → Reading Node
  | 0 => refuse "nested too deep"
  | fuel + 1 => do
    if ← sees ends then return .value .null
    node inBlock indentless level fuel
termination_by structural fuel => fuel

/-- The items of a block sequence. -/
def blockItems (level : Nat) : Nat → Reading (List Value)
  | 0 => refuse "nested too deep"
  | fuel + 1 => do
    match ← peek with
    | some .blockEntry =>
      drop
      let item ← valueOf (← nodeUnless [.blockEntry, .blockEnd] true false (level + 1) fuel)
      return item :: (← blockItems level fuel)
    | _ =>
      expect .blockEnd
      return []
termination_by structural fuel => fuel

/-- The items of a sequence at the margin of its key. -/
def indentlessItems (level : Nat) : Nat → Reading (List Value)
  | 0 => refuse "nested too deep"
  | fuel + 1 => do
    match ← peek with
    | some .blockEntry =>
      drop
      let ends := [Token.blockEntry, .key, .value, .blockEnd]
      let item ← valueOf (← nodeUnless ends true false (level + 1) fuel)
      return item :: (← indentlessItems level fuel)
    | _ => return []
termination_by structural fuel => fuel

/-- The pairs of a block mapping. -/
def blockPairs (level : Nat) : Nat → Reading (List (Node × Value))
  | 0 => refuse "nested too deep"
  | fuel + 1 => do
    match ← peek with
    | some .key =>
      drop
      let key ← nodeUnless [.key, .value, .blockEnd] true true (level + 1) fuel
      if (← peek) = some .value then
        drop
        let value ← valueOf (← nodeUnless [.key, .value, .blockEnd] true true (level + 1) fuel)
        return (key, value) :: (← blockPairs level fuel)
      else return (key, .null) :: (← blockPairs level fuel)
    | _ =>
      expect .blockEnd
      return []
termination_by structural fuel => fuel

/-- The items of a sequence in brackets. -/
def flowItems (first : Bool) (level : Nat) : Nat → Reading (List Value)
  | 0 => refuse "nested too deep"
  | fuel + 1 => do
    if (← peek) = some .flowSequenceEnd then
      drop
      return []
    unless first do expect .flowEntry
    match ← peek with
    | some .flowSequenceEnd =>
      drop
      return []
    | some .key =>
      drop
      let key ← nodeUnless [.value, .flowEntry, .flowSequenceEnd] false false (level + 1) fuel
      let value ← flowValue [.flowEntry, .flowSequenceEnd] level fuel
      let item ← mapping [(key, value)]
      return item :: (← flowItems false level fuel)
    | _ =>
      let item ← valueOf (← node false false (level + 1) fuel)
      return item :: (← flowItems false level fuel)
termination_by structural fuel => fuel

/-- The pairs of a mapping in brackets. -/
def flowPairs (first : Bool) (level : Nat) : Nat → Reading (List (Node × Value))
  | 0 => refuse "nested too deep"
  | fuel + 1 => do
    if (← peek) = some .flowMappingEnd then
      drop
      return []
    unless first do expect .flowEntry
    match ← peek with
    | some .flowMappingEnd =>
      drop
      return []
    | some .key =>
      drop
      let key ← nodeUnless [.value, .flowEntry, .flowMappingEnd] false false (level + 1) fuel
      let value ← flowValue [.flowEntry, .flowMappingEnd] level fuel
      return (key, value) :: (← flowPairs false level fuel)
    | _ =>
      let key ← node false false (level + 1) fuel
      return (key, .null) :: (← flowPairs false level fuel)
termination_by structural fuel => fuel

/-- The value behind a key in brackets, null if there is none. -/
def flowValue (ends : List Token) (level : Nat) : Nat → Reading Value
  | 0 => refuse "nested too deep"
  | fuel + 1 => do
    if (← peek) = some .value then
      drop
      valueOf (← nodeUnless ends false false (level + 1) fuel)
    else return .null
termination_by structural fuel => fuel

end

/-- Passes over ends of documents. -/
def skipEnds : Nat → Reading Unit
  | 0 => return ()
  | fuel + 1 => do
    if (← peek) = some .documentEnd then
      drop
      skipEnds fuel

/-- Passes over directives. -/
def skipDirectives : Nat → Reading Unit
  | 0 => return ()
  | fuel + 1 => do
    if (← peek) = some .directive then
      drop
      skipDirectives fuel

/-- The only document of all tokens; null if there is none. -/
def document (size : Nat) : Reading Value := do
  match ← peek with
  | none => return .null
  | some first =>
    let isMarked := first = .directive || first = .documentStart
    if isMarked then
      skipDirectives size
      expect .documentStart
    let ends := if isMarked then [Token.directive, .documentStart, .documentEnd] else []
    let v ← valueOf (← nodeUnless ends true false 0 (4 * size + 4))
    skipEnds size
    match ← peek with
    | none => return v
    | some _ => refuse "more than one document"

end Reading

/-- The value of a document. -/
def read (t : Text) : Except Failure Value :=
  match tokens t with
  | .error m => .error (.malformed m)
  | .ok ts => (Reading.document ts.length).run' (ts, [])

end TagAudit.Yaml
