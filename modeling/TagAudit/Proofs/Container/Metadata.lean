import TagAudit.Proofs.Container.Fields

/-!
# Names in metadata lists

The metadata of a record is a list of keys and values in turn behind the word `map`, and the value
under the key `name` names the record. The list is searched item by item, though, so that a value
which is the word `name` is taken for the key, and the key behind it for the name.

* `mistaken?`: the key that is taken for the name.
* `go_interleaved`: what the search finds in a list of keys and values.
* `metadataName_interleaved`: the record is named by the value under `name` unless a key is
  mistaken, and else by that key.
-/

namespace TagAudit.Container

open Data (HoldsLong not_holdsLong_int)

/-- Keys and values in turn. -/
def interleaved (pairs : Members Data) : List Data :=
  pairs.flatMap fun (key, value) => [.text key, value]

/-- The metadata list of some keys and values. -/
def metadataList (pairs : Members Data) : Data := .array (.text "map" :: interleaved pairs)

/-- The key behind the first value that is the word `name`, unless the key `name` stands in front
of that value. -/
def mistaken? : Members Data → Option Text
  | (key, value) :: (next, other) :: rest =>
    if key = ("name" : Text) then none
    else if value.isText "name" then some next
    else mistaken? ((next, other) :: rest)
  | _ => none

/-- The values that name a record, each with its name: a text that is not blank, and numbers. -/
inductive Names : Data → Text → Prop where
  | text {t : Text} : t.isAllBlank = false → Names (.text t) t
  | int (n : Int) : Names (.int n) (Text.ofInt n)
  | float (x : Binary64) : Names (.float x) x.text

/-- What was found is the name under the key `name`. Of a value that names nothing, as a blank one,
nothing is said. -/
structure NamedBy (pairs : Members Data) (found : Except Fault (Option Text)) : Prop where
  named : ∀ value name, (("name" : Text), value) ∈ pairs → Names value name →
    found = .ok (some name)
  unnamed : ("name" : Text) ∉ pairs.keys → found = .ok none

theorem Names.nameText?_eq {value : Data} {name : Text} (h : Names value name) :
    nameText? value = .ok (some name) ↔ ¬value.HoldsLong := by
  cases h with
  | text hblank => exact iff_of_true (by simp [nameText?, hblank]) (by rintro ⟨⟩)
  | float x => exact iff_of_true rfl (by rintro ⟨⟩)
  | int n =>
    rw [not_holdsLong_int, nameText?, Outcome.map_eq_ok]
    unfold writeInteger
    split <;> simp

/-! ## The search -/

/-- **The search** through keys and values in turn. -/
theorem go_interleaved (pairs : Members Data) :
    metadataName.go (interleaved pairs) =
      match mistaken? pairs with
      | some key => nameText? (.text key)
      | none =>
        match pairs.get? "name" with
        | some value => nameText? value
        | none => .ok none := by
  induction pairs with
  | nil => rfl
  | cons pair rest ih =>
    obtain ⟨key, value⟩ := pair
    rw [Members.get?_cons]
    by_cases hkey : key = ("name" : Text)
    · -- The key is found at once, and no value stands in front of it.
      have hmistaken : mistaken? ((key, value) :: rest) = none := by
        cases rest <;> simp [mistaken?, hkey]
      rw [hmistaken, if_pos hkey]
      simp [interleaved, metadataName.go, Data.isText, hkey]
    · have hpassed : metadataName.go (interleaved ((key, value) :: rest)) =
          metadataName.go (value :: interleaved rest) := by
        simp [interleaved, metadataName.go, Data.isText, hkey]
      rw [hpassed, if_neg hkey]
      cases rest with
      | nil => rfl
      | cons pair rest =>
        obtain ⟨next, other⟩ := pair
        have hbehind :
            interleaved ((next, other) :: rest) = .text next :: other :: interleaved rest := rfl
        rw [hbehind, metadataName.go, mistaken?, if_neg hkey]
        split
        case isTrue => rfl
        case isFalse => exact ih

theorem metadataName_metadataList {members pairs : Members Data}
    (h : members.get? "metadata" = some (metadataList pairs)) :
    metadataName (.object members) = metadataName.go (interleaved pairs) := by
  have hget : Data.get? (.object members) "metadata" = some (metadataList pairs) := h
  -- The word `map` in front is no key.
  have hheader : metadataName.go (.text "map" :: interleaved pairs) =
      metadataName.go (interleaved pairs) := by
    cases interleaved pairs <;> rfl
  rw [metadataName, hget]
  exact hheader

/-! ## Keys and values -/

/-- **Metadata lists.** Where no key is mistaken, the value under the key `name` names the record,
unless it is an integer too long to be written. A key that is mistaken names the record itself. -/
theorem metadataName_interleaved {members pairs : Members Data} (hkeys : pairs.keys.Nodup)
    (h : members.get? "metadata" = some (metadataList pairs)) :
    (mistaken? pairs = none →
      (NamedBy pairs (metadataName (.object members)) ↔
        ∀ n, (("name" : Text), Data.int n) ∈ pairs → ¬(Data.int n).HoldsLong)) ∧
    ∀ key, mistaken? pairs = some key →
      metadataName (.object members) = .ok (if key.isAllBlank then none else some key) := by
  rw [metadataName_metadataList h, go_interleaved]
  constructor
  · intro hmistaken
    rw [hmistaken]
    constructor
    · intro hnamed n hn
      have hvalue := hnamed.named _ _ hn (.int n)
      rw [(Members.get?_eq_some_iff hkeys).mpr hn] at hvalue
      exact (Names.int n).nameText?_eq.mp hvalue
    · intro hshort
      constructor
      · intro value name hvalue hname
        rw [(Members.get?_eq_some_iff hkeys).mpr hvalue]
        refine hname.nameText?_eq.mpr ?_
        cases hname with
        | int n => exact hshort n hvalue
        | text | float => rintro ⟨⟩
      · intro hnone
        rw [Members.get?_eq_none hnone]
  · intro key hmistaken
    rw [hmistaken]
    rfl

/-- Metadata with the word `name` inside a value, as the value behind the key, and as the value of a
key further on. -/
def plainMetadata : Members Data :=
  [("note", .text "the name"), ("name", .int 7), ("owner", .text "name"), ("kind", .null)]

theorem plainMetadata_named :
    plainMetadata.keys.Nodup ∧ mistaken? plainMetadata = none ∧
      metadataName (.object [("metadata", metadataList plainMetadata)]) = .ok (some "7") := by
  have hkeys : plainMetadata.keys.Nodup := by decide
  have hmistaken : mistaken? plainMetadata = none := by decide
  have hnamed : NamedBy plainMetadata
      (metadataName (.object [("metadata", metadataList plainMetadata)])) := by
    refine ((metadataName_interleaved hkeys rfl).1 hmistaken).mpr fun n hn => ?_
    have hseven : n = 7 := by simpa [plainMetadata] using hn
    rw [hseven, not_holdsLong_int]
    exact ⟨"7", by decide +kernel⟩
  have hname : Names (.int 7) "7" := (by cbv : Text.ofInt 7 = "7") ▸ .int 7
  exact ⟨hkeys, hmistaken, hnamed.named (.int 7) "7" (by simp [plainMetadata]) hname⟩

/-- The title of this record is the word `name`, and the record is called `name`. -/
def titledMetadata : Members Data := [("title", .text "name"), ("name", .text "Checkout")]

/-- A value that is the word `name` is taken for the key. -/
theorem metadataName_titledMetadata :
    let found := metadataName (.object [("metadata", metadataList titledMetadata)])
    found = .ok (some "name") ∧ ¬NamedBy titledMetadata found := by
  have hfound : metadataName (.object [("metadata", metadataList titledMetadata)]) =
      .ok (some "name") := rfl
  refine ⟨hfound, fun h => ?_⟩
  have hname := h.named (.text "Checkout") "Checkout" (by simp [titledMetadata]) (.text (by decide))
  rw [hfound] at hname
  simp at hname

end TagAudit.Container
