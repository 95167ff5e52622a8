import TagAudit.Literal.Reader
import TagAudit.Proofs.Data.Members

/-!
# The grammar of literals

The texts that the permissive reader is for, and the value that each of them spells. A rule says
what a token is made of and never what must not follow it: a token ends where a gap or a separator
begins, and neither continues a word or a number.

* `IsGap`: blanks and comments between tokens; `IsTail`: the same behind the last token.
* `StringBody`, `Unsigned`, `Number`, `Key`: tokens.
* `Items`, `Entries`: what stands between brackets and between braces, for any relation `Item`
  between the items and their values.
* `Form`: a literal made of items; `Value`: literals nested at most so deep.
* `Renders`: a whole text.
-/

namespace TagAudit.Literal

/-! ## Gaps -/

/-- Blanks and comments. A comment goes from `//` to the end of its line, or from `/*` to the first
`*/` behind it. -/
inductive IsGap : Text → Prop where
  | nil : IsGap []
  | blank {c : CodePoint} {gap : Text} : isBlank c = true → IsGap gap → IsGap (c :: gap)
  | line {body gap : Text} : (('\n' : CodePoint) ∉ body) → IsGap gap →
    IsGap ('/' :: '/' :: (body ++ ('\n' : CodePoint) :: gap))
  | block {body gap : Text} : (¬("*/" : Text) <:+: body) → IsGap gap →
    IsGap ('/' :: '*' :: (body ++ ('*' : CodePoint) :: '/' :: gap))

/-- A gap at the end of a text, where the last line needs no end. -/
inductive IsTail : Text → Prop where
  | gap {gap : Text} : IsGap gap → IsTail gap
  | line {gap body : Text} : IsGap gap → (('\n' : CodePoint) ∉ body) →
    IsTail (gap ++ ('/' : CodePoint) :: '/' :: body)

/-! ## Strings -/

/-- What stands for a control behind a backslash. -/
def controlEscapes : List (CodePoint × CodePoint) := [
  ('n', '\n'), ('t', '\t'), ('r', '\r'), ('b', '\x08'), ('f', '\x0c'), ('v', '\x0b'), ('0', '\x00')]

/-- What stands behind a backslash, and what it denotes: a control, nothing at the end of a line, a
code point by its number, or itself. -/
inductive Escape : Text → Text → Prop where
  | control {e c : CodePoint} : (e, c) ∈ controlEscapes → Escape [e] [c]
  | lineEnd : Escape ['\n'] []
  | short {d₁ d₂ c : CodePoint} {n₁ n₂ : Nat} :
    d₁.hexValue? = some n₁ → d₂.hexValue? = some n₂ → c.val = 16 * n₁ + n₂ →
    Escape ['x', d₁, d₂] [c]
  | long {d₁ d₂ d₃ d₄ c : CodePoint} {n₁ n₂ n₃ n₄ : Nat} :
    d₁.hexValue? = some n₁ → d₂.hexValue? = some n₂ → d₃.hexValue? = some n₃ →
    d₄.hexValue? = some n₄ → c.val = 16 * (16 * (16 * n₁ + n₂) + n₃) + n₄ →
    Escape ['u', d₁, d₂, d₃, d₄] [c]
  | itself {c : CodePoint} : (∀ d, (c, d) ∉ controlEscapes) → c ≠ '\n' → c ≠ 'x' → c ≠ 'u' →
    Escape [c] [c]

/-- What stands between two quotation marks, and the text that it denotes. -/
inductive StringBody (mark : CodePoint) : Text → Text → Prop where
  | nil : StringBody mark [] []
  | plain {c : CodePoint} {s t : Text} : c ≠ mark → c ≠ '\\' → c ≠ '\n' →
    StringBody mark s t → StringBody mark (c :: s) (c :: t)
  | escape {e s d t : Text} : Escape e d → StringBody mark s t →
    StringBody mark ('\\' :: (e ++ s)) (d ++ t)

/-! ## Numbers -/

/-- A sign, or none, and whether it is a minus. -/
inductive Sign : Text → Bool → Prop where
  | none : Sign [] false
  | plus : Sign ['+'] false
  | minus : Sign ['-'] true

/-- A number with its sign. -/
def signed (negative : Bool) (n : Nat) : Int := if negative then -n else n

/-- Decimal digits of any script, and nothing else. -/
def IsDecimalRun (s : Text) : Prop := ∀ c ∈ s, c.isDecimal = true

/-- An exponent and its value. -/
inductive Exponent : Text → Int → Prop where
  | mk {mark : CodePoint} {sign digits : Text} {negative : Bool} :
    mark = 'e' ∨ mark = 'E' → Sign sign negative → IsDecimalRun digits → digits ≠ [] →
    Exponent (mark :: (sign ++ digits)) (signed negative (Numeral.toNat 10 (digitValues digits)))

/-- A number token without a sign, and what it denotes. -/
inductive Unsigned : Text → Magnitude → Prop where
  | hex {mark : CodePoint} {digits : Text} : mark = 'x' ∨ mark = 'X' →
    (∀ c ∈ digits, c.hexValue?.isSome = true) → digits ≠ [] →
    Unsigned ('0' :: mark :: digits) (.hex (digits.filterMap CodePoint.hexValue?))
  | whole {digits : Text} : IsDecimalRun digits → digits ≠ [] →
    Unsigned digits (.whole (digitValues digits))
  | raised {digits exponent : Text} {power : Int} : IsDecimalRun digits → digits ≠ [] →
    Exponent exponent power →
    Unsigned (digits ++ exponent) (.scaled (digitValues digits) [] power)
  | pointed {digits places exponent : Text} {power : Int} :
    IsDecimalRun digits → IsDecimalRun places → digits ≠ [] ∨ places ≠ [] →
    exponent = [] ∧ power = 0 ∨ Exponent exponent power →
    Unsigned (digits ++ ('.' : CodePoint) :: (places ++ exponent))
      (.scaled (digitValues digits) (digitValues places) power)

/-- The value of a number. A decimal integer must not be longer than can be read. -/
inductive Denotes (negative : Bool) : Magnitude → Data → Prop where
  | hex {digits : List Nat} :
    Denotes negative (.hex digits) (.int (signed negative (Numeral.toNat 16 digits)))
  | whole {digits : List Nat} : digits.length ≤ Fault.digitLimit →
    Denotes negative (.whole digits) (.int (signed negative (Numeral.toNat 10 digits)))
  | scaled {digits places : List Nat} {power : Int} :
    Denotes negative (.scaled digits places power)
      (.float (Binary64.ofDecimal negative (Numeral.toNat 10 (digits ++ places))
        (power - places.length)))

/-- A number token and its value. -/
inductive Number : Text → Data → Prop where
  | mk {sign body : Text} {negative : Bool} {magnitude : Magnitude} {v : Data} :
    Sign sign negative → Unsigned body magnitude → Denotes negative magnitude v →
    Number (sign ++ body) v

/-! ## Keys -/

/-- The key of a member as it is spelled, and the key. A number is its own key. -/
inductive Key : Text → Text → Prop where
  | quoted {mark : CodePoint} {s t : Text} : isQuote mark = true → StringBody mark s t →
    Key (mark :: (s ++ [mark])) t
  | number {c : CodePoint} {s : Text} {magnitude : Magnitude} : c.isDecimal = true →
    Unsigned (c :: s) magnitude → Key (c :: s) (c :: s)
  | word {c : CodePoint} {s : Text} : isWordStart c = true → (∀ d ∈ s, isWordPart d = true) →
    Key (c :: s) (c :: s)

/-! ## Values -/

section

variable (Item : Text → Data → Prop)

/-- What stands behind an opening bracket, the closing one included. A comma in the place of an item
stands for null, and a comma behind the last item for nothing. -/
inductive Items : Text → List Data → Prop where
  | close {gap : Text} : IsGap gap → Items (gap ++ [(']' : CodePoint)]) []
  | hole {gap rest : Text} {items : List Data} : IsGap gap → Items rest items →
    Items (gap ++ (',' : CodePoint) :: rest) (.null :: items)
  | last {gap s after : Text} {v : Data} : IsGap gap → Item s v → IsGap after →
    Items (gap ++ (s ++ (after ++ [(']' : CodePoint)]))) [v]
  | item {gap s after rest : Text} {v : Data} {items : List Data} :
    IsGap gap → Item s v → IsGap after → Items rest items →
    Items (gap ++ (s ++ (after ++ (',' : CodePoint) :: rest))) (v :: items)

/-- What stands behind an opening brace, the closing one included. -/
inductive Entries : Text → List (Text × Data) → Prop where
  | close {gap : Text} : IsGap gap → Entries (gap ++ [('\x7d' : CodePoint)]) []
  | last {gap k afterKey before s after key : Text} {v : Data} :
    IsGap gap → Key k key → IsGap afterKey → IsGap before → Item s v → IsGap after →
    Entries (gap ++ (k ++ (afterKey ++ (':' : CodePoint) :: (before ++ (s ++
      (after ++ [('\x7d' : CodePoint)])))))) [(key, v)]
  | member {gap k afterKey before s after rest key : Text} {v : Data}
      {entries : List (Text × Data)} :
    IsGap gap → Key k key → IsGap afterKey → IsGap before → Item s v → IsGap after →
    Entries rest entries →
    Entries (gap ++ (k ++ (afterKey ++ (':' : CodePoint) :: (before ++ (s ++
      (after ++ (',' : CodePoint) :: rest)))))) ((key, v) :: entries)

/-- The values that count as false. -/
inductive Falsy : Data → Prop where
  | null : Falsy .null
  | false : Falsy (.bool false)
  | int : Falsy (.int 0)
  | float {negative : Bool} {exponent : Int} : Falsy (.float (.finite negative 0 exponent))
  | text : Falsy (.text [])
  | array : Falsy (.array [])
  | object : Falsy (.object [])

/-- A literal and its value. -/
inductive Form : Text → Data → Prop where
  | object {s : Text} {entries : List (Text × Data)} {members : Members Data} :
    Entries Item s entries → Members.Merged entries members → Form ('\x7b' :: s) (.object members)
  | array {s : Text} {items : List Data} : Items Item s items → Form ('[' :: s) (.array items)
  | text {mark : CodePoint} {s t : Text} : isQuote mark = true → StringBody mark s t →
    Form (mark :: (s ++ [mark])) (.text t)
  | number {s : Text} {v : Data} : Number s v → Form s v
  | keyword {s : Text} {v : Data} : (s, v) ∈ keywords → Form s v
  | negation {gap s : Text} {v : Data} {b : Bool} : IsGap gap → Item s v → (b = true ↔ Falsy v) →
    Form ('!' :: (gap ++ s)) (.bool b)

end

/-- A literal, nested at most so deep, and its value. -/
def Value : Nat → Text → Data → Prop
  | 0 => fun _ _ => False
  | depth + 1 => Form (Value depth)

/-- A text that is one literal, nested at most so deep, with gaps around it. -/
def Renders (depth : Nat) (text : Text) (v : Data) : Prop :=
  ∃ gap s tail, text = gap ++ (s ++ tail) ∧ IsGap gap ∧ Value depth s v ∧ IsTail tail

end TagAudit.Literal
