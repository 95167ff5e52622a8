import Mathlib.Algebra.BigOperators.Group.List.Basic
import Mathlib.Algebra.GroupWithZero.Nat
import TagAudit.Proofs.Vendor.Registration
import TagAudit.Report.Summary

/-!
# What the groups of a summary hold

The groups of a summary divide its records by label. Nothing is lost and nothing counted twice, also
where the groups are turned into an object.

* `Text.Precedes`: the strict order that the labels stand in; `Text.le_iff`: sorting follows it.
* `Partitions`: groups that divide records by a label; `groupBy_partitions`: those of `groupBy` do.
* `FirstAppearances`: the labels of some records, each once; `firstAppearances_distinctLabels`.
* `Summary.Divides`: all that the groups of a summary hold; `Summary.of_divides`: they do, for every
  model and all identifiers of vendors.
-/

namespace TagAudit

/-! ## The order of texts -/

namespace Text

/-- The strict order by code point: a text comes before those that it is a proper beginning of, and
otherwise the first code points that differ decide. -/
def Precedes (s t : Text) : Prop := List.Lex (fun c d : CodePoint => c.val < d.val) s t

variable {s t u : Text}

theorem precedes_cons {c d : CodePoint} :
    Precedes (c :: s) (d :: t) ↔ c.val < d.val ∨ c = d ∧ s.Precedes t := by
  constructor
  · rintro (_ | h | h)
    · exact .inl h
    · exact .inr ⟨rfl, h⟩
  · rintro (h | ⟨rfl, h⟩)
    · exact .rel h
    · exact .cons h

theorem le_iff : s.le t = true ↔ s = t ∨ s.Precedes t := by
  induction s generalizing t with
  | nil =>
    cases t with
    | nil => simp [le]
    | cons d t => exact iff_of_true rfl (.inr .nil)
  | cons c s ih =>
    cases t with
    | nil => exact iff_of_false Bool.false_ne_true (by rintro (⟨⟨⟩⟩ | ⟨⟨⟩⟩))
    | cons d t =>
      have hval : c.val = d.val ↔ c = d := ⟨CodePoint.ext, congrArg _⟩
      simp only [le, Bool.or_eq_true, Bool.and_eq_true, decide_eq_true_eq, beq_iff_eq, ih, hval,
        precedes_cons, List.cons.injEq]
      tauto

theorem Precedes.trans (hst : s.Precedes t) (htu : t.Precedes u) : s.Precedes u := by
  induction hst generalizing u with
  | nil => cases htu <;> exact .nil
  | rel hcd =>
    cases htu with
    | rel hde => exact .rel (Nat.lt_trans hcd hde)
    | cons _ => exact .rel hcd
  | cons _ ih =>
    cases htu with
    | rel hde => exact .rel hde
    | cons htu => exact .cons (ih htu)

theorem precedes_or_eq_or_precedes (s t : Text) : s.Precedes t ∨ s = t ∨ t.Precedes s := by
  induction s generalizing t with
  | nil =>
    cases t with
    | nil => exact .inr (.inl rfl)
    | cons d t => exact .inl .nil
  | cons c s ih =>
    cases t with
    | nil => exact .inr (.inr .nil)
    | cons d t =>
      obtain h | h | h := Nat.lt_trichotomy c.val d.val
      · exact .inl (.rel h)
      · obtain rfl := CodePoint.ext h
        obtain h | rfl | h := ih t
        · exact .inl (.cons h)
        · exact .inr (.inl rfl)
        · exact .inr (.inr (.cons h))
      · exact .inr (.inr (.rel h))

/-- Texts that differ are sorted without ties. -/
theorem pairwise_sort {ts : List Text} (hnodup : ts.Nodup) :
    (Text.sort ts).Pairwise Text.Precedes := by
  have htrans : ∀ s t u : Text, s.le t = true → t.le u = true → s.le u = true := by
    intro s t u hst htu
    rw [le_iff] at *
    obtain rfl | hst := hst
    · exact htu
    · obtain rfl | htu := htu
      · exact .inr hst
      · exact .inr (hst.trans htu)
  have htotal : ∀ s t : Text, (s.le t || t.le s) = true := by
    intro s t
    rw [Bool.or_eq_true, le_iff, le_iff]
    obtain h | rfl | h := precedes_or_eq_or_precedes s t
    · exact .inl (.inr h)
    · exact .inl (.inl rfl)
    · exact .inr (.inr h)
  have hsorted := List.pairwise_mergeSort htrans htotal ts
  have hdistinct : (Text.sort ts).Nodup := (List.mergeSort_perm ts le).nodup_iff.mpr hnodup
  refine (hsorted.and hdistinct).imp ?_
  rintro s t ⟨hle, hne⟩
  exact (le_iff.mp hle).resolve_left hne

end Text

/-! ## Groups by label -/

namespace Group

/-- A record with a label belongs under a key: under its label, or under `Unknown` without one. -/
def Bears (key label : Text) : Prop :=
  label ≠ [] ∧ label = key ∨ label = [] ∧ key = ("Unknown" : Text)

instance (key label : Text) : Decidable (Bears key label) :=
  inferInstanceAs (Decidable (_ ∨ _))

theorem bears_iff {key label : Text} : Bears key label ↔ labelOf label = key := by
  unfold Bears labelOf unlabelled
  cases label with
  | nil => simp [eq_comm]
  | cons c rest => simp

/-- The records under a key, in order. -/
def members {α : Type} (label : α → Text) (records : List α) (key : Text) : List α :=
  records.filter fun r => decide (Bears key (label r))

end Group

/-- Groups that divide records by a label. -/
structure Partitions {α : Type} (label : α → Text) (records : List α) (total : Nat)
    (groups : List Group) : Prop where
  increasing : groups.Pairwise fun g h => g.label.Precedes h.label
  /-- No group is empty, and each counts the records that belong under its label. -/
  counts : ∀ g ∈ groups,
    0 < g.count ∧ g.count = records.countP fun r => Group.Bears g.label (label r)
  /-- Every record belongs to a group. -/
  complete : ∀ r ∈ records, ∃ g ∈ groups, Group.Bears g.label (label r)
  sum : (groups.map (·.count)).sum = total

section

variable {α : Type} (label : α → Text) (related : List α → List Text) (records : List α)

/-- The labels of the groups, in order. -/
def groupLabels : List Text :=
  Text.sort (Vendor.distinct (records.map fun r => Group.labelOf (label r)))

/-- One group for each label, with all that is under it. -/
theorem groupBy_eq : groupBy label related records =
    (groupLabels label records).map fun key =>
      { label := key, count := (Group.members label records key).length,
        related := related (Group.members label records key) } := by
  unfold groupBy groupLabels Group.members
  simp only [List.filter_map, List.map_map, Function.comp_def, List.map_id', Group.bears_iff]

variable {label records}

theorem mem_groupLabels {key : Text} :
    key ∈ groupLabels label records ↔ ∃ r ∈ records, Group.Bears key (label r) := by
  unfold groupLabels Text.sort
  rw [List.mem_mergeSort, Vendor.mem_distinct, List.mem_map]
  simp only [Group.bears_iff]

theorem exists_groupLabel {r : α} (hr : r ∈ records) :
    ∃ key ∈ groupLabels label records, Group.Bears key (label r) := by
  have hbears : Group.Bears (Group.labelOf (label r)) (label r) := Group.bears_iff.mpr rfl
  exact ⟨_, mem_groupLabels.mpr ⟨r, hr, hbears⟩, hbears⟩

theorem pairwise_groupLabels : (groupLabels label records).Pairwise Text.Precedes :=
  Text.pairwise_sort (Vendor.nodup_distinct _)

theorem nodup_groupLabels : (groupLabels label records).Nodup :=
  (List.mergeSort_perm _ _).nodup_iff.mpr (Vendor.nodup_distinct _)

theorem sum_indicator {keys : List Text} (hnodup : keys.Nodup) {key : Text} (hkey : key ∈ keys) :
    (keys.map fun k => if k = key then 1 else 0).sum = 1 := by
  induction keys with
  | nil => cases hkey
  | cons k keys ih =>
    obtain ⟨hk, hnodup⟩ := List.nodup_cons.mp hnodup
    rw [List.map_cons, List.sum_cons]
    by_cases h : k = key
    · subst h
      have hzero : (keys.map fun k' => if k' = k then 1 else 0) = keys.map fun _ => 0 :=
        List.map_congr_left fun k' hk' => if_neg (ne_of_mem_of_not_mem hk' hk)
      simp [hzero]
    · rw [if_neg h, ih hnodup ((List.mem_cons.mp hkey).resolve_left (Ne.symm h))]

/-- Keys that all records belong under count every record once. -/
theorem sum_length_members {keys : List Text} (hnodup : keys.Nodup)
    (hkeys : ∀ r ∈ records, ∃ key ∈ keys, Group.Bears key (label r)) :
    (keys.map fun key => (Group.members label records key).length).sum = records.length := by
  induction records with
  | nil => simp [Group.members]
  | cons r records ih =>
    obtain ⟨⟨key, hkey, hr⟩, hrest⟩ := List.forall_mem_cons.mp hkeys
    have hcount k : (Group.members label (r :: records) k).length =
        (Group.members label records k).length + if k = key then 1 else 0 := by
      have hbears : Group.Bears k (label r) ↔ k = key := by
        rw [Group.bears_iff] at hr ⊢
        rw [hr, eq_comm]
      unfold Group.members
      rw [List.filter_cons]
      simp only [hbears, decide_eq_true_eq]
      split <;> rfl
    simp only [hcount]
    rw [List.sum_map_add, ih hrest, sum_indicator hnodup hkey, List.length_cons]

variable (label records) in
/-- **Groups divide the records.** -/
theorem groupBy_partitions :
    Partitions label records records.length (groupBy label related records) where
  increasing := by
    rw [groupBy_eq, List.pairwise_map]
    exact pairwise_groupLabels
  counts g hg := by
    rw [groupBy_eq] at hg
    obtain ⟨key, hkey, rfl⟩ := List.mem_map.mp hg
    obtain ⟨r, hr, hbears⟩ := mem_groupLabels.mp hkey
    refine ⟨List.length_pos_of_mem (a := r) ?_, List.countP_eq_length_filter.symm⟩
    exact List.mem_filter.mpr ⟨hr, decide_eq_true hbears⟩
  complete r hr := by
    obtain ⟨key, hkey, hbears⟩ := exists_groupLabel hr
    rw [groupBy_eq]
    exact ⟨_, List.mem_map_of_mem hkey, hbears⟩
  sum := by
    rw [groupBy_eq, List.map_map]
    exact sum_length_members nodup_groupLabels fun r => exists_groupLabel

theorem related_of_mem_groupBy {related : List α → List Text} {g : Group}
    (hg : g ∈ groupBy label related records) :
    g.related = related (Group.members label records g.label) := by
  rw [groupBy_eq] at hg
  obtain ⟨key, -, rfl⟩ := List.mem_map.mp hg
  rfl

end

/-! ## Labels that go with a group -/

/-- The labels of some records that are not empty, each once and where it appears first. -/
structure FirstAppearances (labels distinct : List Text) : Prop where
  mem : ∀ t, t ∈ distinct ↔ t ∈ labels ∧ t ≠ []
  nodup : distinct.Nodup
  inOrder : distinct.Pairwise fun s t => labels.idxOf s < labels.idxOf t

/-- First occurrences stand in order. -/
theorem pairwise_distinct {α : Type} [DecidableEq α] [BEq α] [LawfulBEq α] (items : List α) :
    (Vendor.distinct items).Pairwise fun a b => items.idxOf a < items.idxOf b := by
  induction items using List.reverseRecOn with
  | nil => exact .nil
  | append_singleton items item ih =>
    have hold {a : α} (ha : a ∈ Vendor.distinct items) :
        (items ++ [item]).idxOf a = items.idxOf a :=
      List.idxOf_append_of_mem (Vendor.mem_distinct.mp ha)
    have hpairs : (Vendor.distinct items).Pairwise fun a b =>
        (items ++ [item]).idxOf a < (items ++ [item]).idxOf b :=
      ih.imp_of_mem fun ha hb h => by rwa [hold ha, hold hb]
    rw [Vendor.distinct_concat]
    split
    case isTrue => exact hpairs
    case isFalse hnew =>
      refine List.pairwise_append.mpr ⟨hpairs, List.pairwise_singleton _ _, fun a ha b hb => ?_⟩
      obtain rfl := List.mem_singleton.mp hb
      rw [hold ha, List.idxOf_append_of_notMem hnew]
      exact Nat.lt_add_right _ (List.idxOf_lt_length_of_mem (Vendor.mem_distinct.mp ha))

/-- What is left out does not change the order of what stays. -/
theorem idxOf_lt_of_filter {α : Type} [BEq α] [LawfulBEq α] {p : α → Bool} {items : List α}
    {a b : α} (ha : p a = true) (hb : p b = true)
    (h : (items.filter p).idxOf a < (items.filter p).idxOf b) : items.idxOf a < items.idxOf b := by
  classical
  induction items with
  | nil => exact h
  | cons item items ih =>
    rw [List.filter_cons] at h
    split at h
    case isTrue hitem =>
      by_cases hib : item = b
      · subst hib
        rw [List.idxOf_cons_self] at h
        cases h
      · rw [List.idxOf_cons_ne _ hib] at h ⊢
        by_cases hia : item = a
        · subst hia
          rw [List.idxOf_cons_self]
          exact Nat.succ_pos _
        · rw [List.idxOf_cons_ne _ hia] at h ⊢
          exact Nat.succ_lt_succ (ih (Nat.lt_of_succ_lt_succ h))
    case isFalse hitem =>
      have hia : item ≠ a := fun e => hitem (e ▸ ha)
      have hib : item ≠ b := fun e => hitem (e ▸ hb)
      rw [List.idxOf_cons_ne _ hia, List.idxOf_cons_ne _ hib]
      exact Nat.succ_lt_succ (ih h)

theorem firstAppearances_distinctLabels (labels : List Text) :
    FirstAppearances labels (Group.distinctLabels labels) where
  mem t := by simp [Group.distinctLabels, Vendor.mem_distinct]
  nodup := Vendor.nodup_distinct _
  inOrder := by
    refine (pairwise_distinct _).imp_of_mem fun hs ht h => ?_
    have hs := List.of_mem_filter (Vendor.mem_distinct.mp hs)
    have ht := List.of_mem_filter (Vendor.mem_distinct.mp ht)
    exact idxOf_lt_of_filter (p := fun t => !List.isEmpty t) hs ht h

/-! ## Groups as data -/

/-- No group is dropped from an object that has a member for each. -/
theorem ofList_groupBy {α : Type} (label : α → Text) (related : List α → List Text)
    (records : List α) (entry : Group → Data) :
    Members.ofList ((groupBy label related records).map fun g => (g.label, entry g)) =
      (groupBy label related records).map fun g => (g.label, entry g) := by
  refine (Members.merged_iff.mp (Members.merged_self ?_)).symm
  have hkeys : Members.keys ((groupBy label related records).map fun g => (g.label, entry g)) =
      groupLabels label records := by
    rw [Members.keys, List.map_map, groupBy_eq, List.map_map]
    exact List.map_id _
  rw [hkeys]
  exact nodup_groupLabels

namespace Summary

/-- A summary as data shows groups in one object, a member for each of them and no other. -/
def Shows (s : Summary) (name : String) (entry : Group → Data) (groups : List Group) : Prop :=
  s.toMembers.get? name = some (.object (groups.map fun g => (g.label, entry g)))

/-- A group of tags as data. -/
def tagEntry (related : String) (g : Group) : Data :=
  .object (fields [("count", number g.count), (related, .array (g.related.map .text))])

/-- What the groups of a summary hold. -/
structure Divides (s : Summary) (model : Model) : Prop where
  tagsByVendor : Partitions Tag.vendor model.tags s.tags s.tagsByVendor
  tagsByType : Partitions Tag.type model.tags s.tags s.tagsByType
  variablesByType : Partitions Variable.type model.vars s.vars s.variablesByType
  triggersByType : Partitions Trigger.type model.triggers s.triggers s.triggersByType
  showsTagsByVendor : s.Shows "tags_by_vendor" (tagEntry "types") s.tagsByVendor
  showsTagsByType : s.Shows "tags_by_type" (tagEntry "vendors") s.tagsByType
  showsVariablesByType : s.Shows "variables_by_type" (tagEntry "examples") s.variablesByType
  showsTriggersByType : s.Shows "triggers_by_type" (fun g => number g.count) s.triggersByType
  relatedTypes : ∀ g ∈ s.tagsByVendor,
    FirstAppearances ((Group.members Tag.vendor model.tags g.label).map (·.type)) g.related
  relatedVendors : ∀ g ∈ s.tagsByType,
    FirstAppearances ((Group.members Tag.type model.tags g.label).map (·.vendor)) g.related
  /-- The two ways to group tags agree. -/
  dual : (∀ tag ∈ model.tags, tag.type ≠ [] ∧ tag.vendor ≠ []) → ∀ type vendor,
    (∃ g ∈ s.tagsByVendor, g.label = vendor ∧ type ∈ g.related) ↔
      ∃ g ∈ s.tagsByType, g.label = type ∧ vendor ∈ g.related

end Summary

section

variable {α : Type} {label other : α → Text} {records : List α}

/-- A label that is not empty goes with a group exactly if some record has both. -/
theorem exists_related_iff (hlabel : ∀ r ∈ records, label r ≠ [])
    (hother : ∀ r ∈ records, other r ≠ []) {key t : Text} :
    (∃ g ∈ groupBy label (fun rs => Group.distinctLabels (rs.map other)) records,
        g.label = key ∧ t ∈ g.related) ↔
      ∃ r ∈ records, label r = key ∧ other r = t := by
  have hbears {r : α} (hr : r ∈ records) : Group.Bears key (label r) ↔ label r = key := by
    rw [Group.bears_iff, Group.labelOf, if_neg (by simpa using hlabel r hr)]
  have hmembers : t ∈ Group.distinctLabels ((Group.members label records key).map other) ↔
      ∃ r ∈ records, label r = key ∧ other r = t := by
    rw [(firstAppearances_distinctLabels _).mem, List.mem_map]
    constructor
    · rintro ⟨⟨r, hr, rfl⟩, -⟩
      obtain ⟨hr, hkey⟩ := List.mem_filter.mp hr
      exact ⟨r, hr, (hbears hr).mp (of_decide_eq_true hkey), rfl⟩
    · rintro ⟨r, hr, hkey, rfl⟩
      have hmem : r ∈ Group.members label records key :=
        List.mem_filter.mpr ⟨hr, decide_eq_true ((hbears hr).mpr hkey)⟩
      exact ⟨⟨r, hmem, rfl⟩, hother r hr⟩
  rw [groupBy_eq, ← hmembers]
  constructor
  · rintro ⟨g, hg, rfl, hrelated⟩
    obtain ⟨key, -, rfl⟩ := List.mem_map.mp hg
    exact hrelated
  · intro hrelated
    obtain ⟨r, hr, hkey, -⟩ := hmembers.mp hrelated
    have hmem : key ∈ groupLabels label records :=
      mem_groupLabels.mpr ⟨r, hr, (hbears hr).mpr hkey⟩
    exact ⟨_, List.mem_map_of_mem hmem, rfl, hrelated⟩

end

namespace Summary

/-- The types of tags. -/
def typesOf (tags : List Tag) : List Text := Group.distinctLabels (tags.map Tag.type)

/-- The vendors of tags. -/
def vendorsOf (tags : List Tag) : List Text := Group.distinctLabels (tags.map Tag.vendor)

variable (container : Text) (generatedAt : Moment) (model : Model) (vendors : List VendorHit)

/-- **The groups of a summary** divide the records of the model. -/
theorem of_divides : (Summary.of container generatedAt model vendors).Divides model where
  tagsByVendor := groupBy_partitions Tag.vendor typesOf model.tags
  tagsByType := groupBy_partitions Tag.type vendorsOf model.tags
  variablesByType := groupBy_partitions Variable.type examples model.vars
  triggersByType := groupBy_partitions Trigger.type (fun _ => []) model.triggers
  showsTagsByVendor := congrArg (some ∘ Data.object)
    (ofList_groupBy Tag.vendor typesOf model.tags (tagEntry "types"))
  showsTagsByType := congrArg (some ∘ Data.object)
    (ofList_groupBy Tag.type vendorsOf model.tags (tagEntry "vendors"))
  showsVariablesByType := congrArg (some ∘ Data.object)
    (ofList_groupBy Variable.type examples model.vars (tagEntry "examples"))
  showsTriggersByType := congrArg (some ∘ Data.object)
    (ofList_groupBy Trigger.type (fun _ => []) model.triggers fun g => number g.count)
  relatedTypes g hg := by
    have hrelated : g.related = typesOf (Group.members Tag.vendor model.tags g.label) :=
      related_of_mem_groupBy (show g ∈ groupBy Tag.vendor typesOf model.tags from hg)
    rw [hrelated]
    exact firstAppearances_distinctLabels _
  relatedVendors g hg := by
    have hrelated : g.related = vendorsOf (Group.members Tag.type model.tags g.label) :=
      related_of_mem_groupBy (show g ∈ groupBy Tag.type vendorsOf model.tags from hg)
    rw [hrelated]
    exact firstAppearances_distinctLabels _
  dual hlabelled type vendor := by
    have htypes := fun tag htag => (hlabelled tag htag).1
    have hvendors := fun tag htag => (hlabelled tag htag).2
    have hboth : (∃ tag ∈ model.tags, tag.vendor = vendor ∧ tag.type = type) ↔
        ∃ tag ∈ model.tags, tag.type = type ∧ tag.vendor = vendor := by
      simp only [and_comm]
    exact (exists_related_iff hvendors htypes).trans
      (hboth.trans (exists_related_iff htypes hvendors).symm)

/-- Three tags of two types and two vendors. -/
def pairedModel : Model where
  tags := [
    { id := "1", position := 0, type := "Custom HTML", vendor := "Meta", raw := .null },
    { id := "2", position := 1, type := "GA4 Event", vendor := "Google", raw := .null },
    { id := "3", position := 2, type := "Custom HTML", vendor := "Google", raw := .null }]

/-- All of its tags are labelled, and a vendor that has a type stands under that type. -/
theorem pairedModel_divides : let s := Summary.of "GTM-X" default pairedModel []
    (∀ tag ∈ pairedModel.tags, tag.type ≠ [] ∧ tag.vendor ≠ []) ∧ s.Divides pairedModel ∧
      ∃ g ∈ s.tagsByType, g.label = ("Custom HTML" : Text) ∧ ("Google" : Text) ∈ g.related := by
  intro s
  have hlabelled : ∀ tag ∈ pairedModel.tags, tag.type ≠ [] ∧ tag.vendor ≠ [] := by decide
  have hdivides : s.Divides pairedModel := of_divides "GTM-X" default pairedModel []
  have htag : ∃ tag ∈ pairedModel.tags, tag.vendor = "Google" ∧ tag.type = "Custom HTML" := by
    decide
  have hvendor : ∃ g ∈ s.tagsByVendor,
      g.label = ("Google" : Text) ∧ ("Custom HTML" : Text) ∈ g.related :=
    (exists_related_iff (fun tag h => (hlabelled tag h).2) fun tag h => (hlabelled tag h).1).mpr
      htag
  exact ⟨hlabelled, hdivides, (hdivides.dual hlabelled _ _).mp hvendor⟩

end Summary

end TagAudit
