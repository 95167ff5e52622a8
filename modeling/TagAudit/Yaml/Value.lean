import TagAudit.Data.Basic
import TagAudit.Text.Utf8

/-!
# Values of a document

The values that a YAML document holds, which are finite trees: those of JSON, octets, points in
time, sets and lists of pairs, with mappings whose keys may be any scalar.

Values are compared as the program compares them, which looks whether two are one and the same
before it looks whether they are equal. What is no number equals nothing and is found all the same
where it is looked up itself: a document has one such value for all that is spelled so, and makes
others, which have a mark, only where a tag asks for one.

* `Value.key?`: the key that a scalar makes; `Value.same`: whether two values are equal.
* `Entries.set` keeps a repeated key at its first position with its last value.
* `Entries.merge` lays one mapping over another.
-/

namespace TagAudit.Yaml

/-- A date, or a point in time in millionths of a second. No two kinds of them are ever equal. -/
inductive Stamp where
  | date (day : Nat)
  /-- A point on clocks that show no zone. -/
  | clock (micros : Nat)
  /-- A point that is given with its zone, counted where the zones begin. -/
  | instant (micros : Int)
deriving DecidableEq

/-- A key of a mapping. Numbers that are equal are one key, and so are the truth values with one and
zero. -/
inductive Key where
  | text (t : Text)
  | null
  | number (n : Int)
  | float (x : Binary64)
  | nan (mark : Nat)
  | stamp (s : Stamp)
  | bytes (octets : Octets)
deriving DecidableEq

/-- A value of a document. -/
inductive Value where
  | null
  | bool (b : Bool)
  | int (n : Int)
  | float (x : Binary64)
  /-- What is no number and was made for one place, told by a mark from others that were. -/
  | nan (mark : Nat)
  | text (t : Text)
  | stamp (s : Stamp)
  | bytes (octets : Octets)
  | list (items : List Value)
  | map (entries : List (Key × Value))
  | set (keys : List Key)
  /-- A list whose items are pairs, which are no values by themselves. -/
  | pairs (items : List (Value × Value))
deriving Inhabited

/-- The entries of a mapping, in order. -/
abbrev Entries := List (Key × Value)

namespace Entries

/-- The value of a key. -/
def get? (entries : Entries) (key : Key) : Option Value :=
  (entries.find? fun e => decide (e.1 = key)).map (·.2)

/-- The value of a text key. -/
def at? (entries : Entries) (key : Text) : Option Value := get? entries (.text key)

/-- The entries with a value set: at the key's position if it is there, else at the end. -/
def set (entries : Entries) (key : Key) (value : Value) : Entries :=
  match entries with
  | [] => [(key, value)]
  | (k, v) :: rest => if k = key then (k, value) :: rest else (k, v) :: set rest key value

/-- The entries without a key. -/
def erase (entries : Entries) (key : Key) : Entries := entries.filter fun e => !decide (e.1 = key)

/-- The entries in the order of first appearance, each with its last value. -/
def ofList (entries : List (Key × Value)) : Entries :=
  entries.foldl (fun done (key, value) => done.set key value) []

theorem get?_set (entries : Entries) (key other : Key) (value : Value) :
    (entries.set key value).get? other =
      if other = key then some value else entries.get? other := by
  induction entries with
  | nil => by_cases h : key = other <;> simp [set, get?, h, eq_comm]
  | cons e rest ih =>
    obtain ⟨k, v⟩ := e
    simp only [get?] at ih
    by_cases h : k = key
    · subst h
      by_cases ho : k = other
      · simp [set, get?, ho]
      · have ho' : ¬other = k := fun e => ho e.symm
        simp [set, get?, ho, ho']
    · by_cases ho : k = other
      · subst ho; simp [set, get?, h]
      · simp [set, get?, h, ho, ih]

end Entries

namespace Value

/-- Whether a value counts as true: everything but null, false, zero and what is empty. -/
def isTruthy : Value → Bool
  | null => false
  | bool b => b
  | int n => n != 0
  | float x => !x.isZero
  | nan _ | stamp _ => true
  | text t => !t.isEmpty
  | bytes octets => !octets.isEmpty
  | list items => !items.isEmpty
  | map entries => !entries.isEmpty
  | set keys => !keys.isEmpty
  | pairs items => !items.isEmpty

/-- The key that a scalar makes; a collection makes none. -/
def key? : Value → Option Key
  | null => some .null
  | bool b => some (.number (if b then 1 else 0))
  | int n => some (.number n)
  | float x =>
    match x.toInt? with
    | some n => some (.number n)
    | none => some (.float x)
  | nan mark => some (.nan mark)
  | text t => some (.text t)
  | stamp s => some (.stamp s)
  | bytes octets => some (.bytes octets)
  | list _ | map _ | set _ | pairs _ => none

/-- The integer that a value is: truth values are one and zero. -/
def int? : Value → Option Int
  | int n => some n
  | bool b => some (if b then 1 else 0)
  | _ => none

end Value

/-- A value that makes a key. -/
def Key.value : Key → Value
  | .text t => .text t
  | .null => .null
  | .number n => .int n
  | .float x => .float x
  | .nan mark => .nan mark
  | .stamp s => .stamp s
  | .bytes octets => .bytes octets

mutual

/-- Whether two values are equal: scalars if they are one key, collections if their parts are, the
entries of mappings and the keys of sets in any order. A list of pairs is a list. -/
def Value.same : Value → Value → Bool
  | .list items, .list others => Value.sameItems items others
  | .map entries, .map others =>
    entries.length == others.length && Value.sameEntries entries others
  | .set keys, .set others => keys.length == others.length && keys.all others.contains
  | .pairs items, .pairs others => Value.samePairs items others
  | .list items, .pairs others => items.isEmpty && others.isEmpty
  | .pairs items, .list others => items.isEmpty && others.isEmpty
  | v, other => v.key?.isSome && v.key? == other.key?
termination_by structural v => v

/-- Whether two lists have equal items. -/
def Value.sameItems : List Value → List Value → Bool
  | [], [] => true
  | item :: rest, other :: others => item.same other && Value.sameItems rest others
  | _, _ => false
termination_by structural items => items

/-- Whether another mapping has equal values under the keys of some entries. -/
def Value.sameEntries : List (Key × Value) → Entries → Bool
  | [], _ => true
  | (key, value) :: rest, others =>
    (Entries.get? others key).any value.same && Value.sameEntries rest others
termination_by structural entries => entries

/-- Whether two lists have equal pairs. -/
def Value.samePairs : List (Value × Value) → List (Value × Value) → Bool
  | [], [] => true
  | (first, second) :: rest, (otherFirst, otherSecond) :: others =>
    first.same otherFirst && second.same otherSecond && Value.samePairs rest others
  | _, _ => false
termination_by structural items => items

end

mutual

/-- The value of decoded data. -/
def Value.ofData : Data → Value
  | .null => .null
  | .bool b => .bool b
  | .int n => .int n
  | .float x => .float x
  | .text t => .text t
  | .array items => .list (Value.ofItems items)
  | .object members => .map (Value.ofMembers members)
termination_by structural d => d

/-- The values of the items of an array. -/
def Value.ofItems : List Data → List Value
  | [] => []
  | item :: rest => Value.ofData item :: Value.ofItems rest
termination_by structural items => items

/-- The entries of the members of an object. -/
def Value.ofMembers : List (Text × Data) → List (Key × Value)
  | [] => []
  | (key, d) :: rest => (.text key, Value.ofData d) :: Value.ofMembers rest
termination_by structural members => members

end

/-! ## Merging -/

mutual

/-- A value laid over another one: mappings are merged, and anything else takes the place of what
was there. -/
def Value.over (old : Option Value) : Value → Value
  | .map entries =>
    match old with
    | some (.map base) => .map (mergeEntries base entries)
    | _ => .map entries
  | new => new
termination_by structural new => new

/-- The entries of a mapping with other entries laid over them. -/
def mergeEntries (base : List (Key × Value)) : List (Key × Value) → List (Key × Value)
  | [] => base
  | (key, value) :: rest =>
    mergeEntries (Entries.set base key (Value.over (Entries.get? base key) value)) rest
termination_by structural entries => entries

end

/-- A mapping with another one laid over it. -/
def Entries.merge (base override : Entries) : Entries := mergeEntries base override

end TagAudit.Yaml
