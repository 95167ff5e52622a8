import TagAudit.Pattern.Basic

/-!
# Reading patterns

The written form of patterns: literal code points, classes in square brackets, the classes
`\d`, `\s` and `\w`, the anchors `^`, `$` and `\b`, groups, negative lookaround for one class,
alternatives, and the repetitions `?`, `*`, `+`, `{m}`, `{m,}` and `{m,n}`. `*`, `+` and counts
repeat a single class.

* `Pattern.read?` is the pattern of a text with the number of its groups; none for a text that
  is no pattern.
-/

namespace TagAudit.Pattern

/-- The part of a pattern that is still to be read, and how many groups were opened. -/
structure Unread where
  rest : Text
  groups : Nat

/-- The class that a letter stands for behind a backslash. -/
def escapedItem? (c : CodePoint) : Option ClassItem :=
  if c = 'd' then some .decimal
  else if c = 's' then some .blank
  else if c = 'w' then some .wordPart
  else if c.isAsciiUpper || c.isAsciiLower || c.isAsciiDigit then none
  else some (.range c.val c.val)

/-- One code point at the front of the inside of a bracketed class, as an item. -/
def readItem? (text : Text) : Option (ClassItem × Text) :=
  match text with
  | c :: rest =>
    if c = '\\' then
      match rest with
      | d :: after => (escapedItem? d).map fun item => (item, after)
      | [] => none
    else some (.range c.val c.val, rest)
  | [] => none

/-- The items up to the closing bracket; `steps` bounds their number. -/
def readItems? : Nat → List ClassItem → Text → Option (List ClassItem × Text)
  | 0, _, _ => none
  | steps + 1, done, text => do
    if text.head? = some (']' : CodePoint) && !done.isEmpty then
      return (done.reverse, text.drop 1)
    let (item, rest) ← readItem? text
    match item, rest with
    | .range low _, dash :: bound :: after =>
      if dash = '-' && bound ≠ ']' then
        let (upper, rest) ← readItem? (bound :: after)
        match upper with
        | .range high _ =>
          if low ≤ high then readItems? steps (.range low high :: done) rest else none
        | _ => none
      else readItems? steps (item :: done) rest
    | _, _ => readItems? steps (item :: done) rest

/-- The class behind an opening bracket. -/
def readClass? (text : Text) : Option (CharClass × Text) :=
  let (negated, body) := match text with
    | c :: rest => if c = '^' then (true, rest) else (false, text)
    | [] => (false, text)
  (readItems? (body.length + 1) [] body).map fun (items, rest) => ({ items, negated }, rest)

/-- The single class at the front of a text. -/
def readSingle? (text : Text) : Option (CharClass × Text) :=
  match text with
  | c :: rest =>
    if c = '[' then readClass? rest
    else if c = '\\' then
      match rest with
      | d :: after => (escapedItem? d).map fun item => ({ items := [item] }, after)
      | [] => none
    else if c = '.' then some ({ items := [.range 0x0A 0x0A], negated := true }, rest)
    else some (.single c, rest)
  | [] => none

/-- The number at the front of a text. -/
def readCount? (text : Text) : Option (Nat × Text) :=
  match text.span CodePoint.isAsciiDigit with
  | ([], _) => none
  | (digits, rest) => some (value digits, rest)
where
  /-- The value of ASCII digits. -/
  value (digits : Text) : Nat := digits.foldl (fun n c => n * 10 + (c.val - 0x30)) 0

/-- The bounds of a repetition at the front of a text. -/
def readBounds? (text : Text) : Option (Nat × Option Nat × Text) :=
  match text with
  | c :: rest =>
    if c = '?' then some (0, some 1, rest)
    else if c = '*' then some (0, none, rest)
    else if c = '+' then some (1, none, rest)
    else if c = '{' then do
      let (least, after) ← readCount? rest
      match after with
      | d :: after =>
        if d = '}' then some (least, some least, after)
        else if d = ',' then
          match readCount? after with
          | some (most, e :: after) =>
            if e = '}' && least ≤ most then some (least, some most, after) else none
          | some (_, []) => none
          | none =>
            match after with
            | e :: after => if e = '}' then some (least, none, after) else none
            | [] => none
        else none
      | [] => none
    else none
  | [] => none

/-- Whether a repetition mark stands in front. -/
def isRepetition (c : CodePoint) : Bool := c = '?' || c = '*' || c = '+' || c = '{'

/-- A pattern with the repetition that follows it, if one does. -/
def repeated? (p : Pattern) (u : Unread) : Option (Pattern × Unread) :=
  match u.rest with
  | c :: _ =>
    if isRepetition c then do
      let (least, most, rest) ← readBounds? u.rest
      match p with
      | one cls => some (many cls least most, { u with rest })
      | _ => if c = '?' then some (optional p, { u with rest }) else none
    else some (p, u)
  | [] => some (p, u)

/-- The lookaround for one class that ends with the next closing parenthesis. -/
def readLook? (make : CharClass → Pattern) (u : Unread) (body : Text) :
    Option (Pattern × Unread) := do
  let (cls, after) ← readSingle? body
  match after with
  | c :: rest => if c = ')' then some (make cls, { u with rest }) else none
  | [] => none

/-- Alternatives up to the end or a closing parenthesis. `steps` bounds the number of parts and
their nesting. -/
def readAlternatives? : Nat → Unread → Option (Pattern × Unread)
  | 0, _ => none
  | steps + 1, u => do
    let (first, u) ← readSequence? steps u
    match u.rest with
    | c :: rest =>
      if c = '|' then
        let (second, u) ← readAlternatives? steps { u with rest }
        return (alt first second, u)
      else return (first, u)
    | [] => return (first, u)
where
  /-- Parts one after the other. -/
  readSequence? : Nat → Unread → Option (Pattern × Unread)
    | 0, _ => none
    | steps + 1, u =>
      match u.rest with
      | [] => some (empty, u)
      | c :: _ =>
        if c = '|' || c = ')' then some (empty, u)
        else do
          let (part, u) ← readPart? steps u
          let (part, u) ← repeated? part u
          let (others, u) ← readSequence? steps u
          return (if others = empty then part else seq part others, u)
  /-- One part without its repetition. -/
  readPart? : Nat → Unread → Option (Pattern × Unread)
    | 0, _ => none
    | steps + 1, u =>
      match u.rest with
      | [] => none
      | c :: rest =>
        if c = '^' then some (start, { u with rest })
        else if c = '$' then some (stop, { u with rest })
        else if isRepetition c then none
        else if ("\\b" : Text).isPrefixOf u.rest then
          some (boundary, { u with rest := rest.drop 1 })
        else if c = '(' then
          if ("?<!" : Text).isPrefixOf rest then readLook? notBehind u (rest.drop 3)
          else if ("?!" : Text).isPrefixOf rest then readLook? notAhead u (rest.drop 2)
          else
            let kept := !("?:" : Text).isPrefixOf rest
            let inner : Unread :=
              if kept then ⟨rest, u.groups + 1⟩ else { u with rest := rest.drop 2 }
            match readAlternatives? steps inner with
            | some (body, after) =>
              match after.rest with
              | d :: rest =>
                if d = ')' then
                  some (if kept then group inner.groups body else body, { after with rest })
                else none
              | [] => none
            | none => none
        else (readSingle? u.rest).map fun (cls, rest) => (one cls, { u with rest })

/-- The pattern of a text and the number of its groups. -/
def read? (text : Text) : Option (Pattern × Nat) :=
  match readAlternatives? (3 * text.length + 3) ⟨text, 0⟩ with
  | some (p, u) => if u.rest.isEmpty then some (p, u.groups) else none
  | none => none

end TagAudit.Pattern
