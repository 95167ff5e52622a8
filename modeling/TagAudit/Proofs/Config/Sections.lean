import TagAudit.Config.Layers
import TagAudit.Proofs.Outcome

/-!
# Sections and environments

A file may have sections for environments. The environment is looked up in them, and the section
that it has is laid over the rest of the file, before anything is checked: both go wrong where the
values have other shapes.

* `HasSection`: the section that an environment has; `LookupFails`: why sections cannot be asked for
  an environment. Nothing else comes of a look-up but that there is no section (`Settled`), whatever
  shape the sections have (`settled_text`, `settled_list` and so on, put together in `settled`).
* `Clash`: the sections and environments that do not go together, with the fault of each
  (`clash_iff`); `SectionsClash` is the same for those of a file.
-/

namespace TagAudit

open Yaml (Value Entries Key)
open Outcome

/-! ## Shapes of values -/

namespace Yaml.Value

/-- Lists, mappings and sets, which are no keys. -/
inductive IsCollection : Value → Prop
  | list (items : List Value) : IsCollection (.list items)
  | map (entries : Entries) : IsCollection (.map entries)
  | set (keys : List Key) : IsCollection (.set keys)
  | pairs (items : List (Value × Value)) : IsCollection (.pairs items)

/-- Values that can be asked whether they hold another one. -/
inductive IsContainer : Value → Prop
  | text (t : Text) : IsContainer (.text t)
  | bytes (octets : Octets) : IsContainer (.bytes octets)
  | collection {v : Value} (h : v.IsCollection) : IsContainer v

/-- Integers, and truth values, which are one and zero. -/
inductive Numbers : Value → Int → Prop
  | int (n : Int) : Numbers (.int n) n
  | bool (b : Bool) : Numbers (.bool b) (if b then 1 else 0)

theorem key?_eq_none_iff {v : Value} : v.key? = none ↔ v.IsCollection := by
  constructor
  · intro h
    cases v with
    | list items => exact .list items
    | map entries => exact .map entries
    | set keys => exact .set keys
    | pairs items => exact .pairs items
    | float x => cases hx : x.toInt? <;> simp [key?, hx] at h
    | _ => simp [key?] at h
  · rintro (items | entries | keys | items) <;> rfl

theorem int?_eq_some_iff {v : Value} {n : Int} : v.int? = some n ↔ v.Numbers n := by
  constructor
  · intro h
    cases v with
    | int n =>
      cases h
      exact .int _
    | bool b =>
      cases h
      exact .bool b
    | _ => cases h
  · rintro (n | b) <;> rfl

theorem int?_eq_none_iff {v : Value} : v.int? = none ↔ ∀ n, ¬v.Numbers n := by
  simp only [← int?_eq_some_iff, Option.eq_none_iff_forall_ne_some, ne_eq]

end Yaml.Value

/-- An index that a list can be asked for. -/
def IsIndex (n : Int) : Prop := -(twoPow 63 : Nat) ≤ n ∧ n < (twoPow 63 : Nat)

/-- The items of a list by their indices; below zero they count from the end. -/
inductive ItemAt (items : List Value) : Int → Value → Prop
  | front {i : Nat} {v : Value} (h : items[i]? = some v) : ItemAt items i v
  | back {i : Nat} {v : Value} (h : items.reverse[i]? = some v) : ItemAt items (-(i + 1)) v

/-- A value occurs in a list. -/
def Occurs (v : Value) (items : List Value) : Prop := ∃ item ∈ items, v.same item = true

/-! ## The section of an environment -/

/-- The section that an environment has: in a mapping that of its key, in a list that it occurs in
the item at its index, and likewise in octets. -/
inductive HasSection : Value → Value → Value → Prop
  | entry {entries : Entries} {environment v : Value} {key : Key}
      (hkey : environment.key? = some key) (h : Entries.get? entries key = some v) :
      HasSection (.map entries) environment v
  | item {items : List Value} {environment v : Value} {n : Int}
      (hmem : Occurs environment items) (hn : environment.Numbers n) (hindex : IsIndex n)
      (h : ItemAt items n v) : HasSection (.list items) environment v
  | octet {octets : Octets} {environment : Value} {place octet : UInt8}
      (hn : environment.Numbers place.toNat) (hmem : place ∈ octets)
      (h : octets[place.toNat]? = some octet) :
      HasSection (.bytes octets) environment (.int octet.toNat)

/-- Why there is no item for an environment in a list that it occurs in. -/
inductive PickFails (items : List Value) (environment : Value) : Fault → Prop
  | notNumber (h : ∀ n, ¬environment.Numbers n) : PickFails items environment .unusable
  | beyond {n : Int} (hn : environment.Numbers n) (hindex : ¬IsIndex n) :
      PickFails items environment pickItem.beyond
  | outside {n : Int} (hn : environment.Numbers n) (hindex : IsIndex n)
      (h : ∀ v, ¬ItemAt items n v) : PickFails items environment pickItem.outside

/-- Why octets cannot be asked for an environment, or have nothing at its index. -/
inductive OctetFails (octets : Octets) : Value → Fault → Prop
  /-- Octets hold octets and numbers of octets only. -/
  | notNumber {environment : Value} (hbytes : ∀ part, environment ≠ .bytes part)
      (h : ∀ n, ¬environment.Numbers n) : OctetFails octets environment .unusable
  | noOctet {environment : Value} {n : Int} (hn : environment.Numbers n) (h : n < 0 ∨ 256 ≤ n) :
      OctetFails octets environment pickOctet.noOctet
  | outside {environment : Value} {place : UInt8} (hn : environment.Numbers place.toNat)
      (hmem : place ∈ octets) (h : octets.length ≤ place.toNat) :
      OctetFails octets environment pickOctet.outside
  /-- Octets that occur are no index. -/
  | part {part : Octets} (h : part <:+: octets) : OctetFails octets (.bytes part) .unusable

/-- Why sections cannot be asked for an environment. -/
inductive LookupFails : Value → Value → Fault → Prop
  /-- A collection is no key, not even for the empty mapping that stands for sections that count as
  false. -/
  | noKey {sections environment : Value}
      (hsections : sections.isTruthy = false ∨ ∃ entries, sections = .map entries)
      (h : environment.IsCollection) : LookupFails sections environment .unusable
  | noContainer {sections environment : Value} (htrue : sections.isTruthy = true)
      (h : ¬sections.IsContainer) : LookupFails sections environment .unusable
  /-- A text holds texts only. -/
  | notText {t : Text} {environment : Value} (ht : t ≠ []) (h : ∀ name, environment ≠ .text name) :
      LookupFails (.text t) environment .unusable
  /-- A text that holds the name of the environment has no item of that name. -/
  | inText {t name : Text} (ht : t ≠ []) (h : name <:+: t) :
      LookupFails (.text t) (.text name) .unusable
  | inBytes {octets : Octets} {environment : Value} {fault : Fault} (hoctets : octets ≠ [])
      (h : OctetFails octets environment fault) : LookupFails (.bytes octets) environment fault
  | inList {items : List Value} {environment : Value} {fault : Fault}
      (hmem : Occurs environment items) (h : PickFails items environment fault) :
      LookupFails (.list items) environment fault
  /-- A set holds keys only; it can be asked for another set, which it does not hold. -/
  | notKey {keys : List Key} {environment : Value} (hkeys : keys ≠ [])
      (h : environment.IsCollection) (hset : ∀ others, environment ≠ .set others) :
      LookupFails (.set keys) environment .unusable
  /-- A set has no items. -/
  | inSet {keys : List Key} {environment : Value} {key : Key} (hkey : environment.key? = some key)
      (h : key ∈ keys) : LookupFails (.set keys) environment .unusable

/-- Sections and environments that do not go together. -/
inductive Clash : Value → Value → Fault → Prop
  | lookup {sections environment : Value} {fault : Fault}
      (h : LookupFails sections environment fault) : Clash sections environment fault
  /-- The section has no entries to lay over the rest. -/
  | noMapping {sections environment v : Value} (h : HasSection sections environment v)
      (hmap : ∀ entries, v ≠ .map entries) : Clash sections environment .noMembers
  /-- The environment is an integer that the log cannot name. -/
  | nameless {sections : Value} {n : Int} {entries : Entries}
      (h : HasSection sections (.int n) (.map entries))
      (hlong : tenPow Fault.digitLimit ≤ n.natAbs) : Clash sections (.int n) .longInteger

/-- The sections of a file do not go together with the environment that is chosen. -/
def SectionsClash (file : Entries) (asked : Option Text) (env : Variables) (fault : Fault) : Prop :=
  Clash ((file.at? "environments").getD .null) (environmentValue file asked env) fault

/-- Looking a section up fails, or finds one, or finds that there is none. -/
def Settled (sections environment : Value) : Prop :=
  (∃ fault, LookupFails sections environment fault) ∨
    (∃ v, HasSection sections environment v) ∨ sectionOf sections environment = .ok none

/-! ### Mappings and texts -/

section

variable {sections environment : Value}

theorem sectionOf_map (entries : Entries) (environment : Value) :
    sectionOf (.map entries) environment =
      match environment.key? with
      | some key => .ok (Entries.get? entries key)
      | none => .error .unusable := by
  cases entries <;> rfl

/-- Sections that count as false are as good as none. -/
theorem sectionOf_falsy (h : sections.isTruthy = false) (environment : Value) :
    sectionOf sections environment = sectionOf (.map []) environment := by
  unfold sectionOf
  rw [h]
  rfl

theorem settled_falsy (h : sections.isTruthy = false) (environment : Value) :
    Settled sections environment := by
  cases hkey : environment.key? with
  | none => exact .inl ⟨_, .noKey (.inl h) (Value.key?_eq_none_iff.mp hkey)⟩
  | some key =>
    refine .inr (.inr ?_)
    rw [sectionOf_falsy h, sectionOf_map, hkey]
    rfl

theorem settled_map (entries : Entries) (environment : Value) :
    Settled (.map entries) environment := by
  cases hkey : environment.key? with
  | none => exact .inl ⟨_, .noKey (.inr ⟨entries, rfl⟩) (Value.key?_eq_none_iff.mp hkey)⟩
  | some key =>
    cases hv : Entries.get? entries key with
    | some v => exact .inr (.inl ⟨v, .entry hkey hv⟩)
    | none =>
      refine .inr (.inr ?_)
      rw [sectionOf_map, hkey]
      exact congrArg Except.ok hv

theorem sectionOf_text {t : Text} (ht : t ≠ []) (environment : Value) :
    sectionOf (.text t) environment =
      match environment with
      | .text name => if name.isInfixOf t then .error .unusable else .ok none
      | _ => .error .unusable := by
  cases t with
  | nil => exact absurd rfl ht
  | cons c rest => rfl

theorem settled_text {t : Text} (ht : t ≠ []) (environment : Value) :
    Settled (.text t) environment := by
  cases environment with
  | text name =>
    by_cases hname : name <:+: t
    · exact .inl ⟨_, .inText ht hname⟩
    · refine .inr (.inr ?_)
      rw [sectionOf_text ht]
      exact if_neg (mt Text.isInfixOf_iff.mp hname)
  | _ => exact .inl ⟨_, .notText ht (by simp)⟩

end

/-! ### Items of a list -/

section

variable {items : List Value} {environment v : Value} {n : Int} {fault : Fault}

theorem itemAt_iff : ItemAt items n v ↔
    0 ≤ (if n < 0 then n + items.length else n) ∧
      items[(if n < 0 then n + items.length else n).toNat]? = some v := by
  constructor
  · rintro (⟨h⟩ | ⟨h⟩)
    · rename_i i
      rw [if_neg (by omega)]
      exact ⟨by omega, h⟩
    · rename_i i
      obtain ⟨hi, -⟩ := List.getElem?_eq_some_iff.mp h
      rw [List.length_reverse] at hi
      rw [List.getElem?_reverse hi] at h
      rw [if_pos (by omega)]
      refine ⟨by omega, ?_⟩
      rwa [show (-((i : Int) + 1) + items.length).toNat = items.length - 1 - i by omega]
  · rintro ⟨hpos, h⟩
    split at hpos
    · rename_i hn
      rw [if_pos hn] at h
      obtain ⟨i, rfl⟩ : ∃ i : Nat, n = -(i + 1) := ⟨(-n - 1).toNat, by omega⟩
      refine .back ?_
      rw [List.getElem?_reverse (by omega), ← h]
      congr 1
      omega
    · rename_i hn
      rw [if_neg hn] at h
      obtain ⟨i, rfl⟩ := Int.eq_ofNat_of_zero_le hpos
      exact .front (by simpa using h)

/-- An index picks the item that is there. -/
theorem pickItem_numbers (hn : environment.Numbers n) (hindex : IsIndex n) :
    pickItem items environment =
      let i := if n < 0 then n + items.length else n
      match items[i.toNat]? with
      | some v => if i < 0 then .error pickItem.outside else .ok v
      | none => .error pickItem.outside := by
  have hinside : ¬(n < -((twoPow 63 : Nat) : Int) ∨ ((twoPow 63 : Nat) : Int) ≤ n) := by
    obtain ⟨hleast, hmost⟩ := hindex
    omega
  unfold pickItem
  rw [Value.int?_eq_some_iff.mpr hn]
  exact if_neg (by simpa only [Bool.or_eq_true, decide_eq_true_eq] using hinside)

theorem pickItem_item (hn : environment.Numbers n) (hindex : IsIndex n) (h : ItemAt items n v) :
    pickItem items environment = .ok v := by
  obtain ⟨hpos, hv⟩ := itemAt_iff.mp h
  rw [pickItem_numbers hn hindex]
  dsimp only
  rw [hv]
  exact if_neg (by omega)

theorem pickItem_outside (hn : environment.Numbers n) (hindex : IsIndex n)
    (h : ∀ v, ¬ItemAt items n v) : pickItem items environment = .error pickItem.outside := by
  rw [pickItem_numbers hn hindex]
  dsimp only
  split
  · rename_i v hv
    refine if_pos (Int.not_le.mp fun hpos => h v (itemAt_iff.mpr ⟨hpos, hv⟩))
  · rfl

theorem pickItem_beyond (hn : environment.Numbers n) (hindex : ¬IsIndex n) :
    pickItem items environment = .error pickItem.beyond := by
  have houtside : n < -((twoPow 63 : Nat) : Int) ∨ ((twoPow 63 : Nat) : Int) ≤ n := by
    unfold IsIndex at hindex
    omega
  unfold pickItem
  rw [Value.int?_eq_some_iff.mpr hn]
  exact if_pos (by simpa only [Bool.or_eq_true, decide_eq_true_eq] using houtside)

theorem pickItem_eq_error (h : PickFails items environment fault) :
    pickItem items environment = .error fault := by
  cases h with
  | notNumber h =>
    unfold pickItem
    rw [Value.int?_eq_none_iff.mpr h]
  | beyond hn hindex => exact pickItem_beyond hn hindex
  | outside hn hindex h => exact pickItem_outside hn hindex h

/-- Picking fails, or gives an item. -/
theorem pickItem_cases (items : List Value) (environment : Value) :
    (∃ fault, PickFails items environment fault) ∨
      ∃ n v, environment.Numbers n ∧ IsIndex n ∧ ItemAt items n v := by
  by_cases hnumber : ∃ n, environment.Numbers n
  · obtain ⟨n, hn⟩ := hnumber
    by_cases hindex : IsIndex n
    · by_cases hitem : ∃ v, ItemAt items n v
      · obtain ⟨v, hv⟩ := hitem
        exact .inr ⟨n, v, hn, hindex, hv⟩
      · exact .inl ⟨_, .outside hn hindex (not_exists.mp hitem)⟩
    · exact .inl ⟨_, .beyond hn hindex⟩
  · exact .inl ⟨_, .notNumber (not_exists.mp hnumber)⟩

theorem occurs_iff : Occurs v items ↔ items.any v.same = true := by
  rw [List.any_eq_true]
  rfl

theorem sectionOf_list (hitems : items ≠ []) (environment : Value) :
    sectionOf (.list items) environment =
      if items.any environment.same then (pickItem items environment).map some else .ok none := by
  cases items with
  | nil => exact absurd rfl hitems
  | cons item rest => rfl

theorem sectionOf_occurs (hmem : Occurs environment items) :
    sectionOf (.list items) environment = (pickItem items environment).map some := by
  have hitems : items ≠ [] := by
    rintro rfl
    obtain ⟨item, hitem, -⟩ := hmem
    cases hitem
  rw [sectionOf_list hitems, if_pos (occurs_iff.mp hmem)]

theorem settled_list (hitems : items ≠ []) (environment : Value) :
    Settled (.list items) environment := by
  by_cases hmem : Occurs environment items
  · obtain ⟨fault, h⟩ | ⟨n, v, hn, hindex, hv⟩ := pickItem_cases items environment
    · exact .inl ⟨fault, .inList hmem h⟩
    · exact .inr (.inl ⟨v, .item hmem hn hindex hv⟩)
  · refine .inr (.inr ?_)
    rw [sectionOf_list hitems]
    exact if_neg (mt occurs_iff.mpr hmem)

end

/-! ### Octets -/

section

variable {octets : Octets} {environment v : Value} {fault : Fault}

/-- The number of an octet picks the octet at that index, if it occurs. -/
theorem pickOctet_place {place : UInt8} (hn : environment.Numbers place.toNat) :
    pickOctet octets environment =
      if octets.contains place then
        match octets[place.toNat]? with
        | some octet => .ok (some (.int octet.toNat))
        | none => .error pickOctet.outside
      else .ok none := by
  have hinside : ¬((place.toNat : Int) < 0 ∨ 256 ≤ (place.toNat : Int)) := by
    have := place.toNat_lt
    omega
  unfold pickOctet
  rw [Value.int?_eq_some_iff.mpr hn]
  dsimp only
  rewrite [if_neg (by simpa only [Bool.or_eq_true, decide_eq_true_eq] using hinside),
    Int.toNat_natCast, UInt8.ofNat_toNat]
  rfl

theorem pickOctet_noOctet {n : Int} (hn : environment.Numbers n) (h : n < 0 ∨ 256 ≤ n) :
    pickOctet octets environment = .error pickOctet.noOctet := by
  unfold pickOctet
  rw [Value.int?_eq_some_iff.mpr hn]
  exact if_pos (by simpa only [Bool.or_eq_true, decide_eq_true_eq] using h)

/-- Whether octets have a section for an environment is asked of their parts or of their numbers. -/
theorem sectionOf_bytes (hoctets : octets ≠ []) (environment : Value) :
    sectionOf (.bytes octets) environment =
      match environment with
      | .bytes part => if part.isInfixOf octets then .error .unusable else .ok none
      | _ => pickOctet octets environment := by
  cases octets with
  | nil => exact absurd rfl hoctets
  | cons octet rest => rfl

theorem sectionOf_octets (hoctets : octets ≠ []) (h : ∀ part, environment ≠ .bytes part) :
    sectionOf (.bytes octets) environment = pickOctet octets environment := by
  rw [sectionOf_bytes hoctets]
  cases environment with
  | bytes part => exact absurd rfl (h part)
  | _ => rfl

theorem Yaml.Value.Numbers.ne_bytes {n : Int} (h : environment.Numbers n) (part : Octets) :
    environment ≠ .bytes part := by
  rintro rfl
  cases h

theorem sectionOf_octetFails (hoctets : octets ≠ []) (h : OctetFails octets environment fault) :
    sectionOf (.bytes octets) environment = .error fault := by
  cases h with
  | notNumber hbytes h =>
    rw [sectionOf_octets hoctets hbytes]
    unfold pickOctet
    rw [Value.int?_eq_none_iff.mpr h]
  | noOctet hn h => rw [sectionOf_octets hoctets hn.ne_bytes, pickOctet_noOctet hn h]
  | outside hn hmem h =>
    rw [sectionOf_octets hoctets hn.ne_bytes, pickOctet_place hn,
      if_pos (List.contains_iff_mem.mpr hmem), List.getElem?_eq_none h]
  | part h =>
    rw [sectionOf_bytes hoctets]
    exact if_pos (Octets.isInfixOf_iff.mpr h)

theorem sectionOf_octet {place octet : UInt8} (hn : environment.Numbers place.toNat)
    (hmem : place ∈ octets) (h : octets[place.toNat]? = some octet) :
    sectionOf (.bytes octets) environment = .ok (some (.int octet.toNat)) := by
  rw [sectionOf_octets (List.ne_nil_of_mem hmem) hn.ne_bytes, pickOctet_place hn,
    if_pos (List.contains_iff_mem.mpr hmem), h]

/-- The number of an octet has a section, or none, or lies behind all octets. -/
theorem settled_place {place : UInt8} (hoctets : octets ≠ [])
    (hn : environment.Numbers place.toNat) : Settled (.bytes octets) environment := by
  by_cases hmem : place ∈ octets
  · cases h : octets[place.toNat]? with
    | none =>
      have hbehind := List.getElem?_eq_none_iff.mp h
      exact .inl ⟨_, .inBytes hoctets (.outside hn hmem hbehind)⟩
    | some octet => exact .inr (.inl ⟨_, .octet hn hmem h⟩)
  · refine .inr (.inr ?_)
    rw [sectionOf_octets hoctets hn.ne_bytes, pickOctet_place hn]
    exact if_neg (mt List.contains_iff_mem.mp hmem)

theorem settled_bytes (hoctets : octets ≠ []) (environment : Value) :
    Settled (.bytes octets) environment := by
  by_cases hbytes : ∃ part, environment = .bytes part
  · obtain ⟨part, rfl⟩ := hbytes
    by_cases hpart : part <:+: octets
    · exact .inl ⟨_, .inBytes hoctets (.part hpart)⟩
    · refine .inr (.inr ?_)
      rw [sectionOf_bytes hoctets]
      exact if_neg (mt Octets.isInfixOf_iff.mp hpart)
  · by_cases hnumber : ∃ n, environment.Numbers n
    · obtain ⟨n, hn⟩ := hnumber
      by_cases hoctet : n < 0 ∨ 256 ≤ n
      · exact .inl ⟨_, .inBytes hoctets (.noOctet hn hoctet)⟩
      · obtain ⟨place, rfl⟩ : ∃ place : UInt8, n = place.toNat := by
          refine ⟨UInt8.ofNat n.toNat, ?_⟩
          rw [UInt8.toNat_ofNat']
          omega
        exact settled_place hoctets hn
    · have hfails : OctetFails octets environment .unusable :=
        .notNumber (not_exists.mp hbytes) (not_exists.mp hnumber)
      exact .inl ⟨_, .inBytes hoctets hfails⟩

end

/-! ### Sets -/

section

variable {keys : List Key} {environment : Value} {key : Key}

theorem sectionOf_set_key (hkeys : keys ≠ []) (hkey : environment.key? = some key) :
    sectionOf (.set keys) environment =
      if keys.contains key then .error .unusable else .ok none := by
  cases keys with
  | nil => exact absurd rfl hkeys
  | cons first rest =>
    unfold sectionOf
    rw [hkey]
    cases environment with
    | set others => cases hkey
    | _ => rfl

theorem sectionOf_set_set (hkeys : keys ≠ []) (others : List Key) :
    sectionOf (.set keys) (.set others) = .ok none := by
  cases keys with
  | nil => exact absurd rfl hkeys
  | cons first rest => rfl

theorem sectionOf_set_collection (hkeys : keys ≠ []) (h : environment.IsCollection)
    (hset : ∀ others, environment ≠ .set others) :
    sectionOf (.set keys) environment = .error .unusable := by
  cases keys with
  | nil => exact absurd rfl hkeys
  | cons first rest =>
    cases h with
    | set others => exact absurd rfl (hset others)
    | _ => rfl

theorem settled_set (hkeys : keys ≠ []) (environment : Value) :
    Settled (.set keys) environment := by
  cases hkey : environment.key? with
  | some key =>
    by_cases hmem : key ∈ keys
    · exact .inl ⟨_, .inSet hkey hmem⟩
    · refine .inr (.inr ?_)
      rw [sectionOf_set_key hkeys hkey]
      exact if_neg (mt List.contains_iff_mem.mp hmem)
  | none =>
    by_cases hset : ∃ others, environment = .set others
    · obtain ⟨others, rfl⟩ := hset
      exact .inr (.inr (sectionOf_set_set hkeys others))
    · exact .inl ⟨_, .notKey hkeys (Value.key?_eq_none_iff.mp hkey) (not_exists.mp hset)⟩

end

/-! ### Looking up a section -/

section

variable {sections environment v : Value} {fault : Fault}

theorem sectionOf_eq_error (h : LookupFails sections environment fault) :
    sectionOf sections environment = .error fault := by
  cases h with
  | noKey hsections h =>
    have hkey := Yaml.Value.key?_eq_none_iff.mpr h
    obtain hfalse | ⟨entries, rfl⟩ := hsections
    · rw [sectionOf_falsy hfalse, sectionOf_map, hkey]
    · rw [sectionOf_map, hkey]
  | noContainer htrue h =>
    unfold sectionOf
    rw [if_pos htrue]
    cases sections with
    | text t => exact absurd (.text t) h
    | bytes octets => exact absurd (.bytes octets) h
    | list items => exact absurd (.collection (.list items)) h
    | map entries => exact absurd (.collection (.map entries)) h
    | set keys => exact absurd (.collection (.set keys)) h
    | pairs items => exact absurd (.collection (.pairs items)) h
    | _ => rfl
  | notText ht h =>
    rw [sectionOf_text ht]
    cases environment with
    | text name => exact absurd rfl (h name)
    | _ => rfl
  | inText ht h =>
    rw [sectionOf_text ht]
    exact if_pos (Text.isInfixOf_iff.mpr h)
  | inBytes hoctets h => exact sectionOf_octetFails hoctets h
  | inList hmem h =>
    rw [sectionOf_occurs hmem, pickItem_eq_error h]
    rfl
  | notKey hkeys h hset => exact sectionOf_set_collection hkeys h hset
  | inSet hkey h =>
    rw [sectionOf_set_key (List.ne_nil_of_mem h) hkey]
    exact if_pos (List.contains_iff_mem.mpr h)

theorem sectionOf_eq_some (h : HasSection sections environment v) :
    sectionOf sections environment = .ok (some v) := by
  cases h with
  | entry hkey h =>
    rw [sectionOf_map, hkey]
    exact congrArg Except.ok h
  | item hmem hn hindex h =>
    rw [sectionOf_occurs hmem, pickItem_item hn hindex h]
    rfl
  | octet hn hmem h => exact sectionOf_octet hn hmem h

/-- **Looking a section up**, one shape of sections after the other. -/
theorem settled (sections environment : Value) : Settled sections environment := by
  cases htrue : sections.isTruthy with
  | false => exact settled_falsy htrue environment
  | true =>
    cases sections with
    | map entries => exact settled_map entries environment
    | text t => exact settled_text (by simpa [Value.isTruthy] using htrue) environment
    | list items => exact settled_list (by simpa [Value.isTruthy] using htrue) environment
    | bytes octets => exact settled_bytes (by simpa [Value.isTruthy] using htrue) environment
    | set keys => exact settled_set (by simpa [Value.isTruthy] using htrue) environment
    | pairs items =>
      cases items with
      | nil => cases htrue
      | cons => exact .inr (.inr rfl)
    | _ => exact .inl ⟨_, .noContainer htrue (by rintro (_ | _ | ⟨⟨⟩⟩))⟩

theorem sectionOf_eq_error_iff :
    sectionOf sections environment = .error fault ↔ LookupFails sections environment fault := by
  refine ⟨fun h => ?_, sectionOf_eq_error⟩
  obtain ⟨other, hother⟩ | ⟨v, hv⟩ | hnone := settled sections environment
  · rw [sectionOf_eq_error hother] at h
    cases h
    exact hother
  · rw [sectionOf_eq_some hv] at h
    cases h
  · rw [hnone] at h
    cases h

theorem sectionOf_eq_some_iff :
    sectionOf sections environment = .ok (some v) ↔ HasSection sections environment v := by
  refine ⟨fun h => ?_, sectionOf_eq_some⟩
  obtain ⟨fault, hfault⟩ | ⟨other, hother⟩ | hnone := settled sections environment
  · rw [sectionOf_eq_error hfault] at h
    cases h
  · rw [sectionOf_eq_some hother] at h
    cases h
    exact hother
  · rw [hnone] at h
    cases h

example : sectionOf (.map [(.float .nan, .null)]) (.float .nan) = .ok (some .null) := by rfl

example : sectionOf (.set [.text "production"]) (.text "production") = .error .unusable := by rfl

/-! ### Laying it over the rest -/

theorem nameable_eq_error_iff :
    nameable environment = .error fault ↔
      ∃ n, environment = .int n ∧ tenPow Fault.digitLimit ≤ n.natAbs ∧ fault = .longInteger := by
  cases environment with
  | int n =>
    unfold nameable writeInteger
    by_cases hn : n.natAbs < tenPow Fault.digitLimit
    · simp [hn, Except.map, Nat.not_le.mpr hn]
    · simp [hn, Except.map, Nat.not_lt.mp hn, eq_comm]
  | _ => simp [nameable]

theorem withSection_eq_error_iff {base : Entries} {found : Option Value} :
    withSection base environment found = .error fault ↔
      ∃ v, found = some v ∧
        ((∀ entries, v ≠ .map entries) ∧ fault = .noMembers ∨
          (∃ entries, v = .map entries) ∧ nameable environment = .error fault) := by
  cases found with
  | none => simp [withSection]
  | some v =>
    cases v with
    | map entries =>
      unfold withSection
      cases nameable environment <;> simp [Except.map]
    | _ => simp [withSection, eq_comm]

/-- Looking the section up and laying it over the rest breaks off where sections and environment
clash. -/
theorem clash_iff {base : Entries} :
    (sectionOf sections environment >>= withSection base environment) = .error fault ↔
      Clash sections environment fault := by
  rw [bind_eq_error]
  constructor
  · rintro (h | ⟨found, hfound, h⟩)
    · exact .lookup (sectionOf_eq_error_iff.mp h)
    · obtain ⟨v, rfl, ⟨hmap, rfl⟩ | ⟨⟨entries, rfl⟩, hname⟩⟩ := withSection_eq_error_iff.mp h
      · exact .noMapping (sectionOf_eq_some_iff.mp hfound) hmap
      · obtain ⟨n, rfl, hlong, rfl⟩ := nameable_eq_error_iff.mp hname
        exact .nameless (sectionOf_eq_some_iff.mp hfound) hlong
  · intro h
    cases h with
    | lookup h => exact .inl (sectionOf_eq_error h)
    | noMapping h hmap =>
      exact .inr ⟨_, sectionOf_eq_some h, withSection_eq_error_iff.mpr ⟨_, rfl, .inl ⟨hmap, rfl⟩⟩⟩
    | nameless h hlong =>
      have hname := nameable_eq_error_iff.mpr ⟨_, rfl, hlong, rfl⟩
      exact .inr ⟨_, sectionOf_eq_some h,
        withSection_eq_error_iff.mpr ⟨_, rfl, .inr ⟨⟨_, rfl⟩, hname⟩⟩⟩

end

end TagAudit
