import TagAudit.Text.Basic

/-!
# Patterns

Patterns of identifiers and assignments in source text. Matching prefers: `Pattern.outcomes` lists
every way in which a pattern matches from a position, the preferred one first, and the first outcome
at the first position that has one is the match.

* A repetition prefers as many code points as it can get.
* An alternative prefers its left side.
* `Pattern.search?` is the first match in a text, `Pattern.findAll` all matches from left to right,
  none overlapping another.
-/

namespace TagAudit

/-- One part of a class of code points. -/
inductive ClassItem where
  | range (low high : Nat)
  | decimal
  | blank
  | wordPart
deriving DecidableEq

/-- A class of code points. -/
structure CharClass where
  items : List ClassItem
  /-- Whether the class holds what the items do not. -/
  negated : Bool := false
  /-- Whether a code point is in the class with every other case of it. -/
  caseless : Bool := false
deriving DecidableEq

/-- Whether a code point belongs to a part of a class. -/
def ClassItem.mem (item : ClassItem) (c : CodePoint) : Bool :=
  match item with
  | range low high => low ≤ c.val && c.val ≤ high
  | decimal => c.isDecimal
  | blank => c.isBlank
  | wordPart => c.isWordPart

/-- A code point and its other cases, as far as ASCII letters are among them: besides the two
letters these are the long s, the two foreign letters i and the Kelvin sign. -/
def CodePoint.cases (c : CodePoint) : List CodePoint :=
  let letter : Option Nat :=
    if c.isAsciiUpper then some (c.val + 0x20)
    else if c.isAsciiLower then some c.val
    else if c.val = 0x17F then some 0x73
    else if c.val = 0x130 || c.val = 0x131 then some 0x69
    else if c.val = 0x212A then some 0x6B
    else none
  match letter with
  | some n => [c, ofNat n, ofNat (n - 0x20)]
  | none => [c]

namespace CharClass

/-- Whether a code point is in a class. -/
def mem (cls : CharClass) (c : CodePoint) : Bool :=
  let among (d : CodePoint) : Bool := cls.items.any (·.mem d)
  (if cls.caseless then c.cases.any among else among c) != cls.negated

/-- The class of one code point. -/
def single (c : CodePoint) : CharClass := { items := [.range c.val c.val] }

/-- The class of the code points of a text. -/
def anyOf (t : Text) : CharClass := { items := t.map fun c => .range c.val c.val }

/-- White space. -/
def blanks : CharClass := { items := [.blank] }

end CharClass

/-- A pattern. -/
inductive Pattern where
  /-- Matches without taking anything. -/
  | empty
  /-- One code point of a class. -/
  | one (cls : CharClass)
  /-- At least `least` code points of a class, and at most `most` if that is given. -/
  | many (cls : CharClass) (least : Nat) (most : Option Nat)
  /-- One pattern after the other. -/
  | seq (first second : Pattern)
  /-- The first pattern or the second. -/
  | alt (first second : Pattern)
  /-- A pattern whose text is kept under a number. -/
  | group (number : Nat) (body : Pattern)
  /-- Not behind a code point of a class. -/
  | notBehind (cls : CharClass)
  /-- Not in front of a code point of a class. -/
  | notAhead (cls : CharClass)
  /-- Between a part of a word and something else. -/
  | boundary
  /-- At the start of the text. -/
  | start
  /-- At the end of the text or in front of a line end that ends it. -/
  | stop
deriving DecidableEq

namespace Pattern

/-- A state of matching. -/
structure Outcome where
  /-- How many code points stand in front. -/
  offset : Nat
  /-- The last of them. -/
  before : Option CodePoint
  /-- What follows. -/
  rest : Text
  /-- The texts kept so far, the latest first. -/
  groups : List (Nat × Text)

/-- The state after one more code point. -/
def Outcome.advance (o : Outcome) (c : CodePoint) (rest : Text) : Outcome :=
  { o with offset := o.offset + 1, before := some c, rest := rest }

/-- The states after at least `least` code points of a class from `o` on, the longest run first;
`count` were taken already and `found` holds the shorter runs. -/
def runs (cls : CharClass) (least : Nat) (most : Option Nat) (count : Nat) (o : Outcome)
    (found : List Outcome) : Text → List Outcome
  | [] => if least ≤ count then o :: found else found
  | c :: rest =>
    let found := if least ≤ count then o :: found else found
    if most.all (count < ·) && cls.mem c then
      runs cls least most (count + 1) (o.advance c rest) found rest
    else found

/-- Whether a word begins or ends between two neighbours. -/
def isBoundary (before after : Option CodePoint) : Bool :=
  before.any CodePoint.isWordPart != after.any CodePoint.isWordPart

/-- Whether a text is at its end, a last line end aside. -/
def atStop (rest : Text) : Bool := decide (rest = []) || decide (rest = ("\n" : Text))

/-- Every way in which a pattern matches from a state, the preferred one first. -/
def outcomes : Pattern → Outcome → List Outcome
  | empty, o => [o]
  | one cls, o =>
    match o.rest with
    | c :: rest => if cls.mem c then [o.advance c rest] else []
    | [] => []
  | many cls least most, o => runs cls least most 0 o [] o.rest
  | seq p q, o => (outcomes p o).flatMap (outcomes q)
  | alt p q, o => outcomes p o ++ outcomes q o
  | group n p, o => (outcomes p o).map fun r =>
      { r with groups := (n, o.rest.take (r.offset - o.offset)) :: r.groups }
  | notBehind cls, o => if o.before.any cls.mem then [] else [o]
  | notAhead cls, o => if o.rest.head?.any cls.mem then [] else [o]
  | boundary, o => if isBoundary o.before o.rest.head? then [o] else []
  | start, o => if o.offset = 0 then [o] else []
  | stop, o => if atStop o.rest then [o] else []

/-- A match of a pattern in a text. -/
structure Match where
  /-- Where the match starts. -/
  offset : Nat
  /-- The matched text. -/
  text : Text
  /-- The text from the start of the match on. -/
  here : Text
  /-- The texts of the groups, the latest first. -/
  groups : List (Nat × Text)

/-- The text from the last code point of a match on. -/
def Match.last (m : Match) : Text := m.here.drop (m.text.length - 1)

/-- The text of a group; group 0 is the whole match. -/
def Match.group? (m : Match) (number : Nat) : Option Text :=
  if number = 0 then some m.text else (m.groups.find? fun g => g.1 == number).map (·.2)

/-- The match of a pattern at one position. -/
def matchAt? (p : Pattern) (offset : Nat) (before : Option CodePoint) (text : Text) :
    Option Match :=
  (p.outcomes ⟨offset, before, text, []⟩).head?.map fun o =>
    ⟨offset, text.take (o.offset - offset), text, o.groups⟩

/-- The matches from a position on, after `skip` code points; what was found stands in reverse in
`done`. -/
def findFrom (p : Pattern) (done : List Match) (skip offset : Nat) (before : Option CodePoint) :
    Text → List Match
  | [] =>
    match skip, p.matchAt? offset before [] with
    | 0, some m => (m :: done).reverse
    | _, _ => done.reverse
  | c :: rest =>
    match skip with
    | skip + 1 => findFrom p done skip (offset + 1) (some c) rest
    | 0 =>
      match p.matchAt? offset before (c :: rest) with
      | some m => findFrom p (m :: done) (m.text.length - 1) (offset + 1) (some c) rest
      | none => findFrom p done 0 (offset + 1) (some c) rest

/-- All matches in a text, from left to right. -/
def findAll (p : Pattern) (text : Text) : List Match := findFrom p [] 0 0 none text

/-- The first match from a position on. -/
def searchFrom? (p : Pattern) (offset : Nat) (before : Option CodePoint) : Text → Option Match
  | [] => p.matchAt? offset before []
  | c :: rest =>
    match p.matchAt? offset before (c :: rest) with
    | some m => some m
    | none => searchFrom? p (offset + 1) (some c) rest

/-- The first match in a text. -/
def search? (p : Pattern) (text : Text) : Option Match := searchFrom? p 0 none text

/-- The pieces of a text with every match replaced, from an offset on. -/
def replacePieces (new : Match → Text) (offset : Nat) (text : Text) : List Match → List Text
  | [] => [text]
  | m :: rest =>
    let before := m.offset - offset
    text.take before :: new m ::
      replacePieces new (m.offset + m.text.length) (text.drop (before + m.text.length)) rest

/-- A text with every match of a pattern replaced. -/
def replaceAll (p : Pattern) (new : Match → Text) (text : Text) : Text :=
  (replacePieces new 0 text (p.findAll text)).flatten

/-! ## Building patterns -/

/-- Patterns one after the other. -/
def all : List Pattern → Pattern
  | [] => empty
  | [p] => p
  | p :: rest => seq p (all rest)

/-- The first of several patterns that matches. -/
def anyOf : List Pattern → Pattern
  | [] => empty
  | [p] => p
  | p :: rest => alt p (anyOf rest)

/-- A text, code point by code point. -/
def literal (t : Text) : Pattern := all (t.map fun c => one (.single c))

/-- Any number of blanks. -/
def gap : Pattern := many .blanks 0 none

/-- A pattern or nothing. -/
def optional (p : Pattern) : Pattern := alt p empty

end Pattern

end TagAudit
