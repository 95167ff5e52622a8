import TagAudit.Fault
import TagAudit.Text.Utf8

/-!
# Charsets

A charset is a way to read octets as a text. Octets without a meaning show as U+FFFD.

* `Charset.ofFront` is a charset by what it reads at the front of octets, one character at a time.
* `Charset.extended` and `Charset.full` are charsets with one octet for a code point.
-/

namespace TagAudit

/-- A way to read octets. It fails only if the octets are none of the charset at all. -/
abbrev Charset := Octets → Except Fault Text

namespace Charset

/-- What shows in place of octets without a meaning. -/
def unreadable : CodePoint := CodePoint.ofNat 0xFFFD

/-! ## Front by front -/

/-- What stands at the front of octets. -/
inductive Front where
  /-- A text, which takes `more` octets behind the first one. -/
  | text (t : Text) (more : Nat)
  /-- The first octet and `more` behind it have no meaning. -/
  | invalid (more : Nat)
  /-- The octets end before a character does. -/
  | incomplete
  /-- The octets cannot be read at all. -/
  | fault (cause : Fault)

/-- How many octets may wait for the end of a character. -/
def waitingLimit : Nat := 8

/-- What is wrong if more octets wait. -/
def tooManyWaiting : Fault := .worded (.other "UnicodeError") "pending buffer overflow"

/-- Reads octets front by front. What was read may change how the rest is read, which is what the
state is for; `done` is the text before, backwards. -/
def readFrom {σ : Type} (front : σ → Nat → Octets → Front × σ) (state : σ) (done : Text) :
    Octets → Except Fault Text
  | [] => .ok done.reverse
  | octet :: rest =>
    match front state octet.toNat rest with
    | (.text t more, state) => readFrom front state (t.reverse ++ done) (rest.drop more)
    | (.invalid more, state) => readFrom front state (unreadable :: done) (rest.drop more)
    | (.incomplete, _) =>
      if waitingLimit < rest.length + 1 then .error tooManyWaiting
      else .ok (unreadable :: done).reverse
    | (.fault cause, _) => .error cause
termination_by octets => octets.length
decreasing_by all_goals simp only [List.length_cons, List.length_drop]; omega

/-- The charset that reads octets front by front, without a state. -/
def ofFront (front : Nat → Octets → Front) : Charset :=
  readFrom (fun _ octet rest => (front octet rest, ())) () []

/-- The front of octets in a charset with one or two octets for a character. -/
def pairFront (single : Nat → Option CodePoint) (isLead : Nat → Bool)
    (pair : Nat → Nat → Option Text) (octet : Nat) (rest : Octets) : Front :=
  match single octet with
  | some c => .text [c] 0
  | none =>
    if !isLead octet then .invalid 0
    else
      match rest with
      | [] => .incomplete
      | second :: _ =>
        match pair octet second.toNat with
        | some t => .text t 1
        | none => .invalid 0

/-- A code point as a text. -/
def single? (c : Option CodePoint) : Option Text := c.map fun c => [c]

/-- The code point of ASCII that an octet stands for. -/
def ascii? (octet : Nat) : Option CodePoint :=
  if octet < 0x80 then some (CodePoint.ofNat octet) else none

/-- Whether an octet is none of ASCII. -/
def isHigh (octet : Nat) : Bool := 0x80 ≤ octet

/-- The charset of single octets of ASCII and of pairs that start with another octet. -/
def ofPairs (pair : Nat → Nat → Option Text) : Charset := ofFront (pairFront ascii? isHigh pair)

/-! ## One octet for a code point -/

/-- The charset of a table of all octets from `first` on; those before are code points of ASCII. -/
def ofRows (first : Nat) (rows : List String) : Charset := fun octets =>
  let listed := (rows.flatMap String.toList).toArray
  .ok (octets.map fun octet =>
    let n := octet.toNat
    if n < first then CodePoint.ofNat n
    else (listed[n - first]?.map CodePoint.ofChar).getD unreadable)

/-- A charset whose first 128 octets are those of ASCII, by a table of the others. -/
def extended (others : List String) : Charset := ofRows 0x80 others

/-- A charset by a table of all octets. -/
def full (all : List String) : Charset := ofRows 0 all

/-- ISO 8859-1: an octet is the number of a code point. -/
def latin1 : Charset := fun octets => .ok (octets.map fun octet => CodePoint.ofNat octet.toNat)

/-! ## UTF-8 -/

/-- UTF-8. -/
def utf8 : Charset := fun octets => .ok (Utf8.decode octets)

/-- UTF-8 with a mark at the front, which is no part of the text, not even if the octets end in
it. -/
def utf8Marked : Charset := fun octets =>
  utf8 (match octets with
    | [0xEF] | [0xEF, 0xBB] => []
    | 0xEF :: 0xBB :: 0xBF :: rest => rest
    | _ => octets)

end Charset

end TagAudit
