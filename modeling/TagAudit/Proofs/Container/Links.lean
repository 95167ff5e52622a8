import Mathlib.Algebra.BigOperators.Group.List.Basic
import Mathlib.Algebra.GroupWithZero.Nat
import Mathlib.Data.List.Count
import TagAudit.Proofs.Container.Decoding

/-!
# Links from both ends

A tag shows the triggers that fire or block it, a trigger the tags that it fires. Both come from the
positions that the rules list, which are arbitrary integers: repeated, negative, or past the last
tag.

* `get_ofShapes`: what is filed under a position after all rules.
* `rulesListing`: the rules that list a position, with how often each does and in which order.
* `Linked`: the links of a model, told by the shapes of the rules.
* `ofDocument_linked`: the links of every model.
-/

namespace TagAudit.Container

theorem triggerId_injective : Function.Injective triggerId := fun _ _ h =>
  Text.ofNat_injective (List.append_cancel_left h)

/-! ## Filing -/

theorem TagIndex.get_addAll (index : TagIndex) (tags : List Int) (tag : Int) (id : Text) :
    (index.addAll tags id).get tag = index.get tag ++ List.replicate (tags.count tag) id := by
  induction tags generalizing index with
  | nil => simp [addAll]
  | cons listed tags ih =>
    have ih' := ih (index.add listed id)
    unfold addAll at ih' ⊢
    rw [List.foldl_cons, ih', get_add, List.append_assoc, List.count_cons]
    by_cases h : tag = listed
    · subst h
      simp [List.replicate_succ]
    · have h' : ¬listed = tag := fun e => h e.symm
      simp [h, h']

/-- **The invariant of the pass.** After some rules, a position has the triggers that it had before
and then those of the rules, each as often as its rule lists the position. -/
theorem get_foldl_addRule (entries : List (RuleShape × Nat)) (links : Links) (tag : Int) :
    (entries.foldl (fun links (shape, i) => links.addRule shape i) links).firing.get tag =
        links.firing.get tag ++
          entries.flatMap (fun e => List.replicate (e.1.fires.count tag) (triggerId e.2)) ∧
      (entries.foldl (fun links (shape, i) => links.addRule shape i) links).blocking.get tag =
        links.blocking.get tag ++
          entries.flatMap (fun e => List.replicate (e.1.blocks.count tag) (triggerId e.2)) := by
  induction entries generalizing links with
  | nil => simp
  | cons entry entries ih =>
    obtain ⟨shape, i⟩ := entry
    obtain ⟨hfiring, hblocking⟩ := ih (links.addRule shape i)
    rw [List.foldl_cons, hfiring, hblocking]
    simp [Links.addRule, TagIndex.get_addAll]

/-! ## Rules that list a tag -/

section

variable (field : RuleShape → List Int)

/-- The positions of the rules that list a tag, each as often as its rule does. -/
def rulesListing (shapes : List RuleShape) (tag : Int) : List Nat :=
  shapes.zipIdx.flatMap fun e => List.replicate ((field e.1).count tag) e.2

theorem mem_rulesListing {shapes : List RuleShape} {tag : Int} {r : Nat} :
    r ∈ rulesListing field shapes tag ↔
      ∃ shape, shapes[r]? = some shape ∧ tag ∈ field shape := by
  unfold rulesListing
  rw [List.mem_flatMap]
  constructor
  · rintro ⟨⟨shape, i⟩, hmem, hr⟩
    obtain ⟨hcount, rfl⟩ := List.mem_replicate.mp hr
    exact ⟨shape, List.mem_zipIdx_iff_getElem?.mp hmem,
      List.count_pos_iff.mp (Nat.pos_of_ne_zero hcount)⟩
  · rintro ⟨shape, hshape, htag⟩
    refine ⟨(shape, r), List.mem_zipIdx_iff_getElem?.mpr hshape, ?_⟩
    exact List.mem_replicate.mpr ⟨Nat.ne_of_gt (List.count_pos_iff.mpr htag), rfl⟩

theorem pairwise_rulesListing (shapes : List RuleShape) (tag : Int) :
    (rulesListing field shapes tag).Pairwise (· ≤ ·) := by
  have hpositions : shapes.zipIdx.Pairwise fun a b => a.2 < b.2 := by
    rw [← List.pairwise_map (f := Prod.snd) (R := (· < ·))]
    rw [List.zipIdx_map_snd]
    exact List.pairwise_lt_range'
  refine List.pairwise_flatMap.mpr ⟨fun e _ => ?_, hpositions.imp fun hlt => ?_⟩
  · exact List.pairwise_replicate.mpr (.inr (Nat.le_refl _))
  · intro r hr s hs
    rw [List.eq_of_mem_replicate hr, List.eq_of_mem_replicate hs]
    omega

/-- The count of a rule, where the positions of the rules start anywhere. -/
theorem count_flatMap_zipIdx (shapes : List RuleShape) (tag : Int) (first r : Nat) :
    ((shapes.zipIdx first).flatMap fun e => List.replicate ((field e.1).count tag) e.2).count
        (first + r) = ((shapes[r]?).map fun shape => (field shape).count tag).getD 0 := by
  induction shapes generalizing first r with
  | nil => simp
  | cons shape shapes ih =>
    rw [List.zipIdx_cons, List.flatMap_cons, List.count_append, List.count_replicate]
    cases r with
    | zero =>
      -- The other rules come later.
      have hlater : first ∉ (shapes.zipIdx (first + 1)).flatMap
          fun e => List.replicate ((field e.1).count tag) e.2 := by
        intro hmem
        obtain ⟨e, he, hfirst⟩ := List.mem_flatMap.mp hmem
        have hle := List.le_snd_of_mem_zipIdx he
        rw [← List.eq_of_mem_replicate hfirst] at hle
        omega
      simp [List.count_eq_zero_of_not_mem hlater]
    | succ r =>
      have ih' := ih (first + 1) r
      rw [show first + 1 + r = first + (r + 1) by omega] at ih'
      rw [ih']
      simp

theorem count_rulesListing {shapes : List RuleShape} {r : Nat} {shape : RuleShape}
    (hshape : shapes[r]? = some shape) (tag : Int) :
    (rulesListing field shapes tag).count r = (field shape).count tag := by
  have h := count_flatMap_zipIdx field shapes tag 0 r
  rw [Nat.zero_add, hshape] at h
  exact h

end

/-- After all rules, a position has the triggers of the rules that list it. -/
theorem get_ofShapes (shapes : List RuleShape) (tag : Int) :
    (Links.ofShapes shapes).firing.get tag =
        (rulesListing RuleShape.fires shapes tag).map triggerId ∧
      (Links.ofShapes shapes).blocking.get tag =
        (rulesListing RuleShape.blocks shapes tag).map triggerId := by
  obtain ⟨hfiring, hblocking⟩ := get_foldl_addRule shapes.zipIdx {} tag
  unfold Links.ofShapes
  rw [hfiring, hblocking]
  simp [rulesListing, TagIndex.get, List.map_flatMap]

/-! ## Both ends -/

/-- Whether a position is that of a tag. -/
def IsTag (doc : Document) (tag : Int) : Prop := 0 ≤ tag ∧ tag < doc.tags.length

instance (doc : Document) (tag : Int) : Decidable (IsTag doc tag) :=
  inferInstanceAs (Decidable (_ ∧ _))

/-- A list holds the triggers of the rules that list a tag and nothing else: each as often as its
rule lists the tag, in the order of the rules. -/
structure FromRules (doc : Document) (field : RuleShape → List Int) (tag : Nat) (ids : List Text) :
    Prop where
  count : ∀ (r : Nat) (rule : Data), doc.rules[r]? = some rule →
    ids.count (triggerId r) = (field (shapeOf rule)).count (tag : Int)
  ordered : ∃ rs : List Nat, ids = rs.map triggerId ∧ rs.Pairwise (· ≤ ·) ∧
    ∀ r ∈ rs, r < doc.rules.length

/-- Whether the rule at a position has an issue of its trigger. -/
def HasTriggerIssue (m : Model) (r : Nat) : Prop :=
  ∃ issue ∈ m.issues, issue.operation = "decode_trigger" ∧
    Members.get? issue.context "position" = some (.int r)

/-- The links of a model, told by the shapes of the rules. -/
structure Linked (doc : Document) (m : Model) : Prop where
  length_tags : m.tags.length = doc.tags.length
  length_triggers : m.triggers.length = doc.rules.length
  ids : tagIdentifiers doc = .ok (m.tags.map (·.id))
  firing : ∀ (i : Nat) (tag : Tag), m.tags[i]? = some tag →
    FromRules doc RuleShape.fires i tag.firing
  blocking : ∀ (i : Nat) (tag : Tag), m.tags[i]? = some tag →
    FromRules doc RuleShape.blocks i tag.blocking
  /-- What a rule lists is linked once where it is a tag, and else not at all. -/
  total : ∀ (r : Nat) (rule : Data), doc.rules[r]? = some rule →
    (m.tags.map (·.firing.count (triggerId r))).sum =
        ((shapeOf rule).fires.filter (IsTag doc ·)).length ∧
      (m.tags.map (·.blocking.count (triggerId r))).sum =
        ((shapeOf rule).blocks.filter (IsTag doc ·)).length
  tagIds : ∀ (r : Nat) (rule : Data), doc.rules[r]? = some rule → ¬HasTriggerIssue m r →
    ∃ trigger, m.triggers[r]? = some trigger ∧ trigger.id = triggerId r ∧
      trigger.tagIds.map some =
        ((shapeOf rule).fires.filter (IsTag doc ·)).map fun i =>
          (m.tags[i.toNat]?).map (·.id)

theorem fromRules_get (doc : Document) (tag : Nat) :
    FromRules doc RuleShape.fires tag ((linksOf doc).firing.get tag) ∧
      FromRules doc RuleShape.blocks tag ((linksOf doc).blocking.get tag) := by
  have hlisted (field : RuleShape → List Int) : FromRules doc field tag
      ((rulesListing field (doc.rules.map shapeOf) tag).map triggerId) := by
    refine ⟨fun r rule hrule => ?_, _, rfl, pairwise_rulesListing field _ _, fun r hr => ?_⟩
    · rw [List.count_map_of_injective _ _ triggerId_injective]
      exact count_rulesListing field (by rw [List.getElem?_map, hrule]; rfl) _
    · obtain ⟨shape, hshape, -⟩ := (mem_rulesListing field).mp hr
      simpa using (List.getElem?_eq_some_iff.mp hshape).1
  obtain ⟨hfiring, hblocking⟩ := get_ofShapes (doc.rules.map shapeOf) tag
  unfold linksOf
  rw [hfiring, hblocking]
  exact ⟨hlisted _, hlisted _⟩

theorem sum_range_ite (x : Int) (n : Nat) :
    ((List.range n).map fun i : Nat => if x = (i : Int) then 1 else 0).sum =
      if 0 ≤ x ∧ x < (n : Int) then 1 else 0 := by
  induction n with
  | zero => rw [if_neg (by omega)]; rfl
  | succ n ih =>
    rw [List.range_succ, List.map_append, List.sum_append, ih, List.map_singleton,
      List.sum_singleton]
    split <;> split <;> split <;> omega

/-- The positions of a list, counted tag by tag. -/
theorem sum_count_range (doc : Document) (listed : List Int) :
    ((List.range doc.tags.length).map fun i : Nat => listed.count (i : Int)).sum =
      (listed.filter (IsTag doc ·)).length := by
  induction listed with
  | nil => simp
  | cons x listed ih =>
    have hcount : ∀ i : Nat, (x :: listed).count (i : Int) =
        listed.count (i : Int) + if x = (i : Int) then 1 else 0 := by
      intro i
      simp [List.count_cons]
    simp only [hcount, List.sum_map_add, ih, sum_range_ite]
    by_cases hx : IsTag doc x
    · rw [List.filter_cons_of_pos (by simpa using hx), List.length_cons]
      exact congrArg _ (if_pos hx)
    · rw [List.filter_cons_of_neg (by simpa using hx)]
      exact congrArg _ (if_neg hx)

/-- The identifiers at some positions are those at the positions of tags among them. -/
theorem map_some_tagsAt {doc : Document} {ids : List Text} (hlen : ids.length = doc.tags.length)
    (positions : List Int) :
    (tagsAt ids positions).map some =
      (positions.filter (IsTag doc ·)).map fun i => ids[i.toNat]? := by
  induction positions with
  | nil => rfl
  | cons i positions ih =>
    by_cases hi : IsTag doc i
    · obtain ⟨id, hid⟩ : ∃ id, ids[i.toNat]? = some id :=
        ⟨_, List.getElem?_eq_getElem (by have := hi.1; have := hi.2; omega)⟩
      have hhead : tagsAt ids (i :: positions) = id :: tagsAt ids positions :=
        List.filterMap_cons_some (by rw [if_neg (by have := hi.1; omega), hid])
      rw [hhead, List.map_cons, ih, List.filter_cons_of_pos (by simpa using hi), List.map_cons, hid]
    · have hnone : (if i < 0 then none else ids[i.toNat]?) = none := by
        split
        · rfl
        · rw [List.getElem?_eq_none_iff]
          unfold IsTag at hi
          omega
      have hhead : tagsAt ids (i :: positions) = tagsAt ids positions :=
        List.filterMap_cons_none hnone
      rw [hhead, ih, List.filter_cons_of_neg (by simpa using hi)]

/-- The links of one rule, counted over all tags. -/
theorem sum_count_links {doc : Document} {tags : List Tag} (hlen : tags.length = doc.tags.length)
    {links : Tag → List Text} {field : RuleShape → List Int}
    (hlinks : ∀ (i : Nat) (tag : Tag), tags[i]? = some tag → FromRules doc field i (links tag))
    {r : Nat} {rule : Data} (hrule : doc.rules[r]? = some rule) :
    (tags.map fun tag => (links tag).count (triggerId r)).sum =
      ((field (shapeOf rule)).filter (IsTag doc ·)).length := by
  rw [← sum_count_range]
  refine congrArg List.sum (List.ext_getElem (by simp [hlen]) fun i hi _ => ?_)
  rw [List.length_map] at hi
  simp [(hlinks i _ (List.getElem?_eq_getElem hi)).count r rule hrule]

theorem modelWith_linked {doc : Document} {ids : List Text} (h : tagIdentifiers doc = .ok ids)
    (component : Text) : Linked doc (modelWith doc component ids) := by
  have hids : (modelWith doc component ids).tags.map (·.id) = ids := map_id_tagWith h
  have hlen : (modelWith doc component ids).tags.length = doc.tags.length := List.length_mapIdx
  have hlinks : ∀ (i : Nat) (tag : Tag), (modelWith doc component ids).tags[i]? = some tag →
      FromRules doc RuleShape.fires i tag.firing ∧
        FromRules doc RuleShape.blocks i tag.blocking := by
    intro i tag htag
    obtain ⟨raw, hraw, rfl⟩ : ∃ raw, doc.tags[i]? = some raw ∧ tagWith doc ids i raw = tag := by
      simpa [modelWith] using htag
    obtain ⟨-, hfiring, hblocking⟩ := tagWith_eq h hraw
    rw [hfiring, hblocking]
    exact fromRules_get doc i
  refine ⟨hlen, List.length_mapIdx, by rw [hids, h], fun i tag htag => (hlinks i tag htag).1,
    fun i tag htag => (hlinks i tag htag).2, fun r rule hrule => ?_, fun r rule hrule hissue => ?_⟩
  · exact ⟨sum_count_links hlen (fun i tag htag => (hlinks i tag htag).1) hrule,
      sum_count_links hlen (fun i tag htag => (hlinks i tag htag).2) hrule⟩
  · have htrigger : (modelWith doc component ids).triggers[r]? =
        some (recordOr (undecodedTrigger rule r) (triggerOutcome doc ids r rule)) := by
      simp [modelWith, hrule]
    refine ⟨_, htrigger, ?_⟩
    cases hrecord : triggerOutcome doc ids r rule with
    | error fault =>
      have hmem : Issue.ofFault component "decode_trigger" [("position", .int r)] fault ∈
          (modelWith doc component ids).issues := by
        have hstep : _ ∈ issuesOf component "decode_trigger" (triggerOutcome doc ids) doc.rules :=
          mem_issuesOf.mpr ⟨r, rule, fault, hrule, hrecord, rfl⟩
        simp [modelWith, hstep]
      exact absurd ⟨_, hmem, rfl, rfl⟩ hissue
    | ok record =>
      obtain ⟨hid, htagIds, -, -⟩ := decodeTrigger_eq_ok hrecord
      have hget : ∀ i : Nat, ((modelWith doc component ids).tags[i]?).map (·.id) = ids[i]? := by
        intro i
        rw [← List.getElem?_map, hids]
      refine ⟨hid, ?_⟩
      simp only [hget]
      have hlen' : ids.length = doc.tags.length := by rw [← hids, List.length_map, hlen]
      exact htagIds ▸ map_some_tagsAt hlen' _

/-- **Links from both ends.** In every model of a document, the triggers of the tags and the tags of
the triggers are those that the rules list. -/
theorem ofDocument_linked {doc : Document} {component : Text} {m : Model}
    (h : Model.ofDocument doc component = .ok m) : Linked doc m := by
  obtain ⟨ids, hids, rfl⟩ := ofDocument_eq_ok_iff.mp h
  exact modelWith_linked hids component

/-- Rules that list tags twice, at negative positions and past the end, one tag that is not a map
and one rule whose positions cannot be read. -/
def linkedDocument : Document where
  tags := [
    .object [("function", .text "__ua")], .text "tag", .object [("function", .text "__html")]]
  rules := [
    .array [.array [.text "add", .int 2, .int 0, .int 2, .int (-1), .int 3]],
    .object [("tags", .array [.int 1, .int 2]), ("block", .int 0)],
    .object [("tags", .array [.int 0, .text "²"])]]

/-- The links of `linkedDocument`. -/
theorem linkedDocument_linked : ∃ m, Model.ofDocument linkedDocument decoderName = .ok m ∧
    Linked linkedDocument m ∧
    m.tags.map (·.firing) =
      ([["trigger_0"], ["trigger_1"], ["trigger_0", "trigger_0", "trigger_1"]] : List (List Text)) ∧
    m.tags.map (·.blocking) = ([["trigger_1"], [], []] : List (List Text)) ∧
    m.triggers.map (·.tagIds) =
      ([["__html", "__ua", "__html"], ["tag_1", "__html"], []] : List (List Text)) := by
  obtain ⟨m, hm⟩ : ∃ m, Model.ofDocument linkedDocument decoderName = .ok m := ⟨_, rfl⟩
  refine ⟨m, hm, ofDocument_linked hm, ?_⟩
  cases hm
  decide +kernel

end TagAudit.Container
