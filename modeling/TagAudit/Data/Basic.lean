import TagAudit.Number.Binary64
import TagAudit.Number.Integer

/-!
# Decoded data

The values that containers, configuration files and tables are made of. An object is a list of
members in the order of first appearance; `Members.set` keeps a repeated key at its first position
with its last value.

* `keys_set`: setting a member adds its key at the end, unless it is there already.
* `get?_set`: reading a member after setting one.
-/

namespace TagAudit

/-- A decoded value. -/
inductive Data where
  | null
  | bool (b : Bool)
  | int (n : Int)
  | float (x : Binary64)
  | text (t : Text)
  | array (items : List Data)
  | object (members : List (Text × Data))
deriving Inhabited

/-- The members of an object, in order. -/
abbrev Members (α : Type) := List (Text × α)

namespace Members

variable {α : Type}

/-- The value of the first member with a key. -/
def get? (members : Members α) (key : Text) : Option α :=
  (members.find? fun m => decide (m.1 = key)).map (·.2)

/-- Whether some member has a key. -/
def has (members : Members α) (key : Text) : Bool := members.any fun m => decide (m.1 = key)

/-- The keys, in order. -/
def keys (members : Members α) : List Text := members.map (·.1)

/-- The members with a value set: at the key's position if it is there, else at the end. -/
def set (members : Members α) (key : Text) (value : α) : Members α :=
  match members with
  | [] => [(key, value)]
  | (k, v) :: rest => if k = key then (k, value) :: rest else (k, v) :: set rest key value

/-- The members in the order of first appearance, each with its last value. -/
def ofList (entries : List (Text × α)) : Members α :=
  entries.foldl (fun members (key, value) => members.set key value) []

theorem keys_set (members : Members α) (key : Text) (value : α) :
    (members.set key value).keys =
      if key ∈ members.keys then members.keys else members.keys ++ [key] := by
  induction members with
  | nil => simp [set, keys]
  | cons m rest ih =>
    obtain ⟨k, v⟩ := m
    by_cases h : k = key
    · simp [set, keys, h]
    · have h' : ¬key = k := fun e => h e.symm
      simp only [keys] at ih
      simp only [set, if_neg h, keys, List.map_cons, List.mem_cons, h', false_or, ih]
      by_cases hm : key ∈ List.map (fun x => x.fst) rest <;> simp [hm]

theorem get?_set (members : Members α) (key other : Text) (value : α) :
    (members.set key value).get? other =
      if other = key then some value else members.get? other := by
  induction members with
  | nil => by_cases h : key = other <;> simp [set, get?, h, eq_comm]
  | cons m rest ih =>
    obtain ⟨k, v⟩ := m
    simp only [get?] at ih
    by_cases h : k = key
    · subst h
      by_cases ho : k = other
      · simp [set, get?, ho]
      · have ho' : ¬other = k := fun e => ho e.symm
        simp [set, get?, ho, ho']
    · by_cases ho : k = other
      · subst ho; simp [set, get?, h]
      · simp [set, get?, h, ho, ih]

end Members

namespace Data

/-- The items of an array. -/
def items? : Data → Option (List Data)
  | array items => some items
  | _ => none

/-- The members of an object. -/
def members? : Data → Option (Members Data)
  | object members => some members
  | _ => none

/-- The text of a text value. -/
def text? : Data → Option Text
  | text t => some t
  | _ => none

/-- The member of an object with a key. -/
def get? (d : Data) (key : Text) : Option Data := d.members?.bind (·.get? key)

/-- The member of an object with a key, null where it is missing. -/
def getD (members : Members Data) (key : Text) : Data := (members.get? key).getD .null

/-- Whether a value counts as true: everything but null, false, zero and what is empty. -/
def isTruthy : Data → Bool
  | null => false
  | bool b => b
  | int n => n != 0
  | float x => !x.isZero
  | text t => !t.isEmpty
  | array items => !items.isEmpty
  | object members => !members.isEmpty

/-- Whether a value is a given text. -/
def isText (d : Data) (t : Text) : Bool :=
  match d with
  | text s => decide (s = t)
  | _ => false

/-- The word for the type of a value in messages. -/
def shape : Data → String
  | null => "NoneType"
  | bool _ => "bool"
  | int _ => "int"
  | float _ => "float"
  | text _ => "str"
  | array _ => "list"
  | object _ => "dict"

end Data

end TagAudit
