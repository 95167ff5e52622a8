import TagAudit.Json.Reader
import TagAudit.Proofs.Literal.Grammar

/-!
# The grammar of JSON

The texts that are JSON, and the value that each of them spells. A dialect says which words are
values and which text the letters of a string make; all else is the same in all dialects.

* `Letter`, `Body`: strings, letter by letter. `joined` and `apart` are two texts that letters can
  make: with escaped surrogate pairs joined to one code point, and with their halves kept apart.
* `Number`: numbers.
* `Items`, `Entries`, `Form`: what arrays, objects and values are made of, for any relation `Item`
  between items and their values.
* `Value`: values nested at most so deep; `Renders`: a whole text.
* `Dialect.strict`: JSON by its standard; `Dialect.extended`: what the reader takes besides.
-/

namespace TagAudit.Json

open Literal (Sign signed digitValues)

/-- Blanks and nothing else. -/
def IsBlanks (s : Text) : Prop := ∀ c ∈ s, isBlank c = true

/-! ## Strings -/

/-- One code point of a string, and whether it is spelled by its number. -/
structure Letter where
  code : CodePoint
  numbered : Bool
deriving DecidableEq

/-- What may stand for a code point behind a backslash. -/
def escapes : List (CodePoint × CodePoint) := [
  ('"', '"'), ('\\', '\\'), ('/', '/'), ('b', '\x08'), ('f', '\x0c'), ('n', '\n'), ('r', '\r'),
  ('t', '\t')]

/-- How a letter is spelled: as itself, behind a backslash, or by its number. -/
inductive Spelling : Text → Letter → Prop where
  | plain {c : CodePoint} : c ≠ '"' → c ≠ '\\' → 0x20 ≤ c.val → Spelling [c] ⟨c, false⟩
  | escape {e c : CodePoint} : (e, c) ∈ escapes → Spelling ['\\', e] ⟨c, false⟩
  | number {d₁ d₂ d₃ d₄ c : CodePoint} {n₁ n₂ n₃ n₄ : Nat} :
    d₁.hexValue? = some n₁ → d₂.hexValue? = some n₂ → d₃.hexValue? = some n₃ →
    d₄.hexValue? = some n₄ → c.val = 16 * (16 * (16 * n₁ + n₂) + n₃) + n₄ →
    Spelling ['\\', 'u', d₁, d₂, d₃, d₄] ⟨c, true⟩

/-- What stands between the quotation marks of a string, and its letters. -/
inductive Body : Text → List Letter → Prop where
  | nil : Body [] []
  | cons {s rest : Text} {l : Letter} {letters : List Letter} :
    Spelling s l → Body rest letters → Body (s ++ rest) (l :: letters)

/-- Whether two letters are the numbers of the halves of a surrogate pair. -/
def Letter.pairsWith (high low : Letter) : Bool :=
  high.numbered && high.code.isHighSurrogate && (low.numbered && low.code.isLowSurrogate)

/-- The text of some letters, escaped surrogate pairs joined from left to right. -/
def joined : List Letter → Text
  | high :: low :: rest =>
    if high.pairsWith low then high.code.joinSurrogates low.code :: joined rest
    else high.code :: joined (low :: rest)
  | [l] => [l.code]
  | [] => []

/-- The text of some letters, each for itself. -/
def apart (letters : List Letter) : Text := letters.map (·.code)

/-- No two neighbours are a surrogate pair. -/
def Unpaired (letters : List Letter) : Prop :=
  ∀ front high low back, letters = front ++ high :: low :: back → high.pairsWith low = false

/-! ## Numbers -/

/-- A minus, or nothing. -/
inductive Minus : Text → Bool → Prop where
  | none : Minus [] false
  | minus : Minus ['-'] true

/-- ASCII digits and nothing else. -/
def IsDigits (s : Text) : Prop := ∀ c ∈ s, c.isAsciiDigit = true

/-- The digits of an integer: a leading zero stands alone. -/
structure IsWhole (s : Text) : Prop where
  digits : IsDigits s
  ne_nil : s ≠ []
  zero : ∀ rest, s = ('0' : CodePoint) :: rest → rest = []

/-- A point with digits behind it, or nothing. -/
inductive Fraction : Text → Text → Prop where
  | none : Fraction [] []
  | some {places : Text} : IsDigits places → places ≠ [] → Fraction ('.' :: places) places

/-- An exponent and its value, or nothing. -/
inductive Power : Text → Option Int → Prop where
  | none : Power [] none
  | some {mark : CodePoint} {sign digits : Text} {negative : Bool} : mark = 'e' ∨ mark = 'E' →
    Sign sign negative → IsDigits digits → digits ≠ [] →
    Power (mark :: (sign ++ digits))
      (some (signed negative (Numeral.toNat 10 (digitValues digits))))

/-- A number and its value: an integer that is not too long, or a float. -/
inductive Number : Text → Data → Prop where
  | whole {minus digits : Text} {negative : Bool} : Minus minus negative → IsWhole digits →
    digits.length ≤ Fault.digitLimit →
    Number (minus ++ digits) (.int (signed negative (Numeral.toNat 10 (digitValues digits))))
  | real {minus digits fraction places exponent : Text} {negative : Bool} {power : Option Int} :
    Minus minus negative → IsWhole digits → Fraction fraction places → Power exponent power →
    places ≠ [] ∨ power ≠ none →
    Number (minus ++ (digits ++ (fraction ++ exponent)))
      (.float (Binary64.ofDecimal negative
        (Numeral.toNat 10 (digitValues digits ++ digitValues places))
        (power.getD 0 - places.length)))

/-! ## Values -/

/-- A dialect of JSON. -/
structure Dialect where
  /-- The words that are values. -/
  words : List (Text × Data)
  /-- The texts that the letters of a string make. -/
  Denotes : List Letter → Text → Prop

section

variable (d : Dialect) (Item : Text → Data → Prop)

/-- One or more items and the closing bracket. -/
inductive Items : Text → List Data → Prop where
  | last {s after : Text} {v : Data} : Item s v → IsBlanks after →
    Items (s ++ (after ++ [(']' : CodePoint)])) [v]
  | item {s after before rest : Text} {v : Data} {items : List Data} :
    Item s v → IsBlanks after → IsBlanks before → Items rest items →
    Items (s ++ (after ++ (',' : CodePoint) :: (before ++ rest))) (v :: items)

/-- A key, the colon and a value, with the key that is meant. -/
inductive Entry : Text → Text × Data → Prop where
  | mk {k afterKey before s key : Text} {letters : List Letter} {v : Data} :
    Body k letters → d.Denotes letters key → IsBlanks afterKey → IsBlanks before → Item s v →
    Entry ('"' :: (k ++ ('"' : CodePoint) :: (afterKey ++ (':' : CodePoint) :: (before ++ s))))
      (key, v)

/-- One or more members and the closing brace. -/
inductive Entries : Text → List (Text × Data) → Prop where
  | last {s after : Text} {e : Text × Data} : Entry d Item s e → IsBlanks after →
    Entries (s ++ (after ++ [('\x7d' : CodePoint)])) [e]
  | member {s after before rest : Text} {e : Text × Data} {entries : List (Text × Data)} :
    Entry d Item s e → IsBlanks after → IsBlanks before → Entries rest entries →
    Entries (s ++ (after ++ (',' : CodePoint) :: (before ++ rest))) (e :: entries)

/-- A value, as it is spelled. -/
inductive Form : Text → Data → Prop where
  | text {s t : Text} {letters : List Letter} : Body s letters → d.Denotes letters t →
    Form ('"' :: (s ++ [('"' : CodePoint)])) (.text t)
  | number {s : Text} {v : Data} : Number s v → Form s v
  | word {s : Text} {v : Data} : (s, v) ∈ d.words → Form s v
  | emptyArray {blanks : Text} : IsBlanks blanks →
    Form ('[' :: (blanks ++ [(']' : CodePoint)])) (.array [])
  | array {blanks s : Text} {items : List Data} : IsBlanks blanks → Items Item s items →
    Form ('[' :: (blanks ++ s)) (.array items)
  | emptyObject {blanks : Text} : IsBlanks blanks →
    Form ('\x7b' :: (blanks ++ [('\x7d' : CodePoint)])) (.object [])
  | object {blanks s : Text} {entries : List (Text × Data)} {members : Members Data} :
    IsBlanks blanks → Entries d Item s entries → Members.Merged entries members →
    Form ('\x7b' :: (blanks ++ s)) (.object members)

end

/-- A value nested at most so deep. -/
def Value (d : Dialect) : Nat → Text → Data → Prop
  | 0 => fun _ _ => False
  | depth + 1 => Form d (Value d depth)

/-- A text that is one value, nested at most so deep, with blanks around it. -/
def Renders (d : Dialect) (depth : Nat) (text : Text) (v : Data) : Prop :=
  ∃ before s after, text = before ++ (s ++ after) ∧ IsBlanks before ∧ Value d depth s v ∧
    IsBlanks after

/-! ## Dialects -/

/-- The words of the standard. -/
def constants : List (Text × Data) := [
  ("null", .null), ("true", .bool true), ("false", .bool false)]

/-- What the reader takes: the standard, and words for floats that are not finite. -/
def Dialect.extended : Dialect := ⟨Json.words, fun letters t => t = joined letters⟩

/-- JSON by its standard. -/
def Dialect.strict : Dialect := ⟨constants, fun letters t => t = joined letters⟩

/-- The standard, but with the halves of surrogate pairs kept apart. -/
def Dialect.halved : Dialect := ⟨constants, fun letters t => t = apart letters⟩

/-- The standard without escaped surrogate pairs. -/
def Dialect.unpaired : Dialect :=
  ⟨constants, fun letters t => t = joined letters ∧ Unpaired letters⟩

/-- A dialect whose texts another one reads in the same way. -/
structure Dialect.Within (d d' : Dialect) : Prop where
  words : ∀ p ∈ d.words, p ∈ d'.words
  denotes : ∀ letters t, d.Denotes letters t → d'.Denotes letters t

section

variable {d d' : Dialect} {Item Item' : Text → Data → Prop}

theorem Items.mono (hitem : ∀ s v, Item s v → Item' s v) {s : Text} {items : List Data}
    (h : Items Item s items) : Items Item' s items := by
  induction h with
  | last hs hafter => exact .last (hitem _ _ hs) hafter
  | item hs hafter hbefore _ ih => exact .item (hitem _ _ hs) hafter hbefore ih

theorem Entry.mono (hd : d.Within d') (hitem : ∀ s v, Item s v → Item' s v) {s : Text}
    {e : Text × Data} (h : Entry d Item s e) : Entry d' Item' s e := by
  obtain ⟨hk, hkey, hafterKey, hbefore, hs⟩ := h
  exact .mk hk (hd.denotes _ _ hkey) hafterKey hbefore (hitem _ _ hs)

theorem Entries.mono (hd : d.Within d') (hitem : ∀ s v, Item s v → Item' s v) {s : Text}
    {entries : List (Text × Data)} (h : Entries d Item s entries) :
    Entries d' Item' s entries := by
  induction h with
  | last he hafter => exact .last (he.mono hd hitem) hafter
  | member he hafter hbefore _ ih => exact .member (he.mono hd hitem) hafter hbefore ih

theorem Form.mono (hd : d.Within d') (hitem : ∀ s v, Item s v → Item' s v) {s : Text} {v : Data}
    (h : Form d Item s v) : Form d' Item' s v := by
  cases h with
  | text hs ht => exact .text hs (hd.denotes _ _ ht)
  | number h => exact .number h
  | word h => exact .word (hd.words _ h)
  | emptyArray hblanks => exact .emptyArray hblanks
  | array hblanks h => exact .array hblanks (h.mono hitem)
  | emptyObject hblanks => exact .emptyObject hblanks
  | object hblanks h hmembers => exact .object hblanks (h.mono hd hitem) hmembers

theorem Value.mono (hd : d.Within d') {depth limit : Nat} (hle : depth ≤ limit) {s : Text}
    {v : Data} (h : Value d depth s v) : Value d' limit s v := by
  induction depth generalizing limit s v with
  | zero => exact h.elim
  | succ depth ih =>
    obtain ⟨limit, rfl⟩ : ∃ k, limit = k + 1 := ⟨limit - 1, by omega⟩
    exact Form.mono hd (fun s v hs => ih (by omega) hs) h

theorem Renders.mono (hd : d.Within d') {depth limit : Nat} (hle : depth ≤ limit) {text : Text}
    {v : Data} (h : Renders d depth text v) : Renders d' limit text v := by
  obtain ⟨before, s, after, rfl, hbefore, hs, hafter⟩ := h
  exact ⟨before, s, after, rfl, hbefore, hs.mono hd hle, hafter⟩

end

end TagAudit.Json
