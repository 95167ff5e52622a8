import Mathlib.Data.List.Induction
import TagAudit.Data.Basic

/-!
# Members made of entries

`Members.ofList` turns the entries of an object, some of which may repeat a key, into its members.

* `Merged`: what the members have to be.
* `merged_iff`: they are, and nothing else is; `merged_self`: without repeated keys nothing changes.
-/

namespace TagAudit.Members

variable {α : Type}

/-- The members that entries make: the keys in the order of their first entries, each with the value
of its last entry. -/
structure Merged (entries : List (Text × α)) (members : Members α) : Prop where
  keys : Members.keys members = (Members.keys entries).eraseDups
  values : ∀ key, Members.get? members key = Members.get? entries.reverse key

theorem get?_cons (k : Text) (v : α) (rest : Members α) (key : Text) :
    get? ((k, v) :: rest) key = if k = key then some v else get? rest key := by
  by_cases h : k = key <;> simp [get?, h]

theorem get?_eq_none {members : Members α} {key : Text} (h : key ∉ members.keys) :
    members.get? key = none := by
  have hfind : members.find? (fun m => decide (m.1 = key)) = none := by
    rw [List.find?_eq_none]
    intro m hm hkey
    exact h (of_decide_eq_true hkey ▸ List.mem_map_of_mem hm)
  rw [get?, hfind]
  rfl

/-- The first member with a key is the only one where keys are distinct. -/
theorem get?_eq_some_iff {members : Members α} (hnodup : members.keys.Nodup) {key : Text}
    {value : α} : members.get? key = some value ↔ (key, value) ∈ members := by
  induction members with
  | nil => simp [get?]
  | cons m rest ih =>
    obtain ⟨k, v⟩ := m
    obtain ⟨hk, hnodup⟩ := List.nodup_cons.mp hnodup
    rw [get?_cons, List.mem_cons]
    split
    case isTrue h =>
      subst h
      have hmem : (k, value) ∉ rest := fun hmem => hk (List.mem_map.mpr ⟨_, hmem, rfl⟩)
      simp [hmem, eq_comm]
    case isFalse h =>
      have hne : (key, value) ≠ (k, v) := fun e => h (Prod.mk.inj e).1.symm
      simp [ih hnodup, hne]

theorem mem_of_get? {members : Members α} {key : Text} {value : α}
    (h : members.get? key = some value) : (key, value) ∈ members := by
  obtain ⟨m, hfound, rfl⟩ := Option.map_eq_some_iff.mp h
  have hkey : m.1 = key := by simpa using List.find?_some hfound
  exact hkey ▸ List.mem_of_find?_eq_some hfound

theorem has_eq_isSome (members : Members α) (key : Text) :
    members.has key = (members.get? key).isSome := by
  rw [get?, Option.isSome_map, List.isSome_find?]
  rfl

theorem has_eq_true_iff {members : Members α} {key : Text} :
    members.has key = true ↔ key ∈ members.keys := by
  simp [has, keys]

theorem mem_keys_of_get? {members : Members α} {key : Text} {value : α}
    (h : members.get? key = some value) : key ∈ members.keys := by
  by_contra hkey
  rw [get?_eq_none hkey] at h
  cases h

theorem keys_concat (entries : List (Text × α)) (key : Text) (value : α) :
    Members.keys (entries ++ [(key, value)]) = Members.keys entries ++ [key] := by
  simp [Members.keys]

theorem ofList_concat (entries : List (Text × α)) (key : Text) (value : α) :
    ofList (entries ++ [(key, value)]) = (ofList entries).set key value := by
  simp [ofList, List.foldl_append]

theorem mem_keys_ofList {entries : List (Text × α)} {key : Text} :
    key ∈ (ofList entries).keys ↔ key ∈ Members.keys entries := by
  induction entries using List.reverseRecOn with
  | nil => rfl
  | append_singleton entries e ih =>
    obtain ⟨k, v⟩ := e
    rw [ofList_concat, keys_set, keys_concat, List.mem_append, List.mem_singleton, ← ih]
    split
    case isTrue hk =>
      constructor
      · exact .inl
      · rintro (h | rfl)
        · exact h
        · exact hk
    case isFalse => rw [List.mem_append, List.mem_singleton]

theorem nodup_keys_ofList (entries : List (Text × α)) : (ofList entries).keys.Nodup := by
  induction entries using List.reverseRecOn with
  | nil => exact List.nodup_nil
  | append_singleton entries e ih =>
    obtain ⟨k, v⟩ := e
    rw [ofList_concat, keys_set]
    split
    case isTrue => exact ih
    case isFalse hk => simpa [List.nodup_append] using ⟨ih, fun key hkey e => hk (e ▸ hkey)⟩

theorem eraseDups_concat {β : Type} [BEq β] [LawfulBEq β] [DecidableEq β] (keys : List β)
    (key : β) :
    (keys ++ [key]).eraseDups = if key ∈ keys then keys.eraseDups else keys.eraseDups ++ [key] := by
  rw [List.eraseDups_append]
  by_cases h : key ∈ keys <;> simp [List.removeAll, h, List.eraseDups_cons]

theorem eraseDups_of_nodup {β : Type} [BEq β] [LawfulBEq β] {keys : List β} (h : keys.Nodup) :
    keys.eraseDups = keys := by
  induction keys with
  | nil => rfl
  | cons key keys ih =>
    obtain ⟨hkey, hkeys⟩ := List.nodup_cons.mp h
    have hfilter : keys.filter (fun k => !k == key) = keys :=
      List.filter_eq_self.mpr fun k hk => by simpa using ne_of_mem_of_not_mem hk hkey
    rw [List.eraseDups_cons, hfilter, ih hkeys]

/-- The members of entries are merged. -/
theorem merged_ofList (entries : List (Text × α)) : Merged entries (ofList entries) := by
  induction entries using List.reverseRecOn with
  | nil => exact ⟨rfl, fun _ => rfl⟩
  | append_singleton entries e ih =>
    obtain ⟨k, v⟩ := e
    refine ⟨?_, fun key => ?_⟩
    · rw [ofList_concat, keys_set, keys_concat, eraseDups_concat, ih.keys]
      have hmem : k ∈ (Members.keys entries).eraseDups ↔ k ∈ Members.keys entries := by
        rw [← ih.keys]
        exact mem_keys_ofList
      simp only [hmem]
    · rw [ofList_concat, get?_set, ih.values, List.reverse_append]
      exact (if_congr eq_comm rfl rfl).trans (get?_cons k v _ key).symm

/-- Entries with distinct keys are members. -/
theorem merged_self {members : Members α} (h : members.keys.Nodup) : Merged members members where
  keys := (eraseDups_of_nodup h).symm
  values key := by
    have hreverse : (Members.keys members.reverse).Nodup := by
      rw [Members.keys, List.map_reverse]
      exact (List.reverse_perm _).nodup_iff.mpr h
    ext value
    rw [get?_eq_some_iff h, get?_eq_some_iff hreverse, List.mem_reverse]

/-- Members with distinct keys are told apart by their keys and values. -/
theorem eq_of_get? {members others : Members α} (hnodup : members.keys.Nodup)
    (hkeys : members.keys = others.keys) (hvalues : ∀ key, members.get? key = others.get? key) :
    members = others := by
  induction members generalizing others with
  | nil =>
    cases others with
    | nil => rfl
    | cons m others => cases hkeys
  | cons m members ih =>
    cases others with
    | nil => cases hkeys
    | cons m' others =>
      obtain ⟨k, v⟩ := m
      obtain ⟨k', v'⟩ := m'
      obtain ⟨rfl, htail⟩ : k = k' ∧ Members.keys members = Members.keys others :=
        List.cons.inj hkeys
      obtain ⟨hk, hnodup⟩ := List.nodup_cons.mp hnodup
      have hv := hvalues k
      rw [get?_cons, get?_cons, if_pos rfl, if_pos rfl, Option.some.injEq] at hv
      subst hv
      refine congrArg _ (ih hnodup htail fun key => ?_)
      by_cases hkey : k = key
      · -- Neither list has the key a second time.
        subst hkey
        rw [get?_eq_none hk, get?_eq_none (htail ▸ hk)]
      · have := hvalues key
        rwa [get?_cons, get?_cons, if_neg hkey, if_neg hkey] at this

theorem mem_of_mem_ofList {entries : List (Text × α)} {m : Text × α} (h : m ∈ ofList entries) :
    m ∈ entries := by
  have hvalue := (get?_eq_some_iff (nodup_keys_ofList entries)).mpr h
  rw [(merged_ofList entries).values] at hvalue
  exact List.mem_reverse.mp (mem_of_get? hvalue)

/-- **Members made of entries** are the only ones that are merged. -/
theorem merged_iff {entries : List (Text × α)} {members : Members α} :
    Merged entries members ↔ members = ofList entries := by
  constructor
  · intro h
    have hof := merged_ofList entries
    refine (eq_of_get? (nodup_keys_ofList entries) ?_ fun key => ?_).symm
    · rw [hof.keys, h.keys]
    · rw [hof.values, h.values]
  · rintro rfl
    exact merged_ofList entries

end TagAudit.Members
