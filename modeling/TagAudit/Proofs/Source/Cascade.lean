import TagAudit.Proofs.Data.Members
import TagAudit.Proofs.Source.Braces
import TagAudit.Proofs.Source.Sites

/-!
# The cascade of strategies

What each strategy looks for in a source, told without the steps in which it looks, and what the
cascade makes of it.

* `Accepts`: what counts as a container.
* `Strategy.Finds`: what a strategy finds. A match that leads nowhere ends the strategies that take
  the first site; a push that leads nowhere is passed over, and so is a span of the scan.
* `find_eq_some_iff`: the strategies do find that, and nothing else.
* `Cascaded`, `locate_cascaded`: the first strategy that finds something decides.
-/

namespace TagAudit.Source

/-! ## Containers -/

/-- The members of the container that a value holds, out of its resource wrapper. -/
def Accepts (v : Data) (members : Members Data) : Prop :=
  unwrapResource v = .object members ∧ ∃ key ∈ containerKeys, key ∈ members.keys

theorem any_has_iff {keys : List Text} {members : Members Data} :
    keys.any (Members.has members) = true ↔ ∃ key ∈ keys, key ∈ members.keys := by
  simp only [List.any_eq_true, Members.has_eq_true_iff]

theorem accept?_eq_some_iff {v : Data} {members : Members Data} :
    accept? v = some members ↔ Accepts v members := by
  unfold accept? Accepts
  cases hv : unwrapResource v with
  | object inner =>
    simp only [looksLikeContainer, Data.members?, any_has_iff, Option.ite_none_right_eq_some,
      Option.some.injEq, Data.object.injEq]
    constructor
    · rintro ⟨hkey, rfl⟩
      exact ⟨rfl, hkey⟩
    · rintro ⟨rfl, hkey⟩
      exact ⟨hkey, rfl⟩
  | _ => simp [looksLikeContainer]

/-- What a value unwraps to is the value or its resource. -/
theorem Accepts.eq_or_resource {v : Data} {members : Members Data} (h : Accepts v members) :
    v = .object members ∨ v.get? "resource" = some (.object members) := by
  have hv := h.1
  unfold unwrapResource at hv
  split at hv
  case h_1 inner hresource =>
    obtain rfl := Data.object.inj hv
    exact .inr hresource
  case h_2 => exact .inl hv

/-! ## What strategies find -/

/-- The balanced span at the front of a text, within the window. -/
def SpanAt (limits : Limits) (here span : Text) : Prop :=
  span <+: here.take limits.window ∧ Balanced span

/-- A container that is assigned at the first site of its kind and read by `reads`. -/
def Assigned (limits : Limits) (reads : Text → Data → Prop) (head : List Piece) (text : Text)
    (members : Members Data) : Prop :=
  ∃ before lead here span v, FirstSite head text before lead here ∧ SpanAt limits here span ∧
    reads span v ∧ Accepts v members

/-- Strict JSON and its value. -/
def ReadsStrict (span : Text) (v : Data) : Prop := Json.read span = .ok v

/-- The keys of which a pushed object has at least one. -/
def pushKeys : List Text := ["tags", "macros", "resource"]

/-- A container that is pushed where `here` begins. -/
def Pushed (limits : Limits) (here : Text) (members : Members Data) : Prop :=
  ∃ (span : Text) (outer : Members Data), SpanAt limits here span ∧
    ReadsStrict span (.object outer) ∧ (∃ key ∈ pushKeys, key ∈ outer.keys) ∧
    Accepts (.object outer) members

/-- A span that is an object with a list of tags or of variables. -/
def Listed (span : Text) (members : Members Data) : Prop :=
  ReadsStrict span (.object members) ∧
    ∃ key ∈ (["tags", "macros"] : List Text), ∃ items, members.get? key = some (.array items)

/-- `var data = ` -/
def varDataHead : List Piece :=
  [.word "var", .blanks 1, .word "data", .blanks 0, .word "=", .blanks 0]

/-- `google_tag_manager["ID"] = ` -/
def directHead (id : Text) : List Piece :=
  [.word "google_tag_manager[\"", .word id, .word "\"]", .blanks 0, .word "=", .blanks 0]

/-- `.push(` -/
def pushHead : List Piece := [.word ".push", .blanks 0, .word "(", .blanks 0]

/-- `google_tag_manager ['ID'] = ` -/
def indexedHead (id : Text) : List Piece :=
  [.word "google_tag_manager", .blanks 0, .word "[", .blanks 0, .mark, .word id, .mark, .blanks 0,
    .word "]", .blanks 0, .word "=", .blanks 0]

/-- `{"resource": ` -/
def resourceHead : List Piece :=
  [.word "\x7b", .blanks 0, .word "\"resource\"", .blanks 0, .word ":", .blanks 0]

/-- What a strategy finds in a source. -/
def Strategy.Finds (limits : Limits) (text id : Text) : Strategy → Members Data → Prop
  | varData, members =>
    Assigned limits (fun span v => Literal.evaluate span = .ok v) varDataHead text members
  | directAssignment, members => Assigned limits ReadsStrict (directHead id) text members
  | pushCall, members =>
    ∃ before lead here, Site pushHead text before lead here ∧ Pushed limits here members ∧
      ∀ before' lead' here', Site pushHead text before' lead' here' →
        before'.length < before.length → ∀ other, ¬Pushed limits here' other
  | indexedAssignment, members => Assigned limits ReadsStrict (indexedHead id) text members
  | legacyResource, members =>
    ∃ before lead here span v inner, FirstSite resourceHead text before lead here ∧
      SpanAt limits (lead ++ here) span ∧ ReadsStrict span v ∧
      v.get? "resource" = some (.object inner) ∧ Accepts v members
  | exhaustiveScan, members =>
    ∃ earlier span later, scanCandidates limits text = earlier ++ span :: later ∧
      Listed span members ∧ ∀ passed ∈ earlier, ∀ other, ¬Listed passed other

/-! ## Each strategy -/

theorem readStrict?_eq_some_iff {span : Text} {v : Data} :
    readStrict? span = some v ↔ ReadsStrict span v := by
  unfold readStrict? ReadsStrict
  cases Json.read span <;> simp [Except.toOption]

theorem evaluate_toOption_eq_some_iff {span : Text} {v : Data} :
    (Literal.evaluate span).toOption = some v ↔ Literal.evaluate span = .ok v := by
  cases Literal.evaluate span <;> simp [Except.toOption]

theorem members?_eq_some_iff {v : Data} {members : Members Data} :
    v.members? = some members ↔ v = .object members := by
  cases v <;> simp [Data.members?]

/-- A match is its pieces and what follows from the brace on. -/
theorem exists_lead (m : Pattern.Match) : ∃ lead, m.here = lead ++ m.last :=
  ⟨_, (List.take_append_drop ..).symm⟩

theorem spanAfter?_eq_some_iff {limits : Limits} {head : List Piece} (hsharp : isSharp head = true)
    {text span : Text} : spanAfter? limits (sitePattern head) text = some span ↔
      ∃ before lead here, FirstSite head text before lead here ∧ SpanAt limits here span := by
  unfold spanAfter? SpanAt
  simp only [Option.bind_eq_some_iff, balanced_eq_some_iff]
  constructor
  · rintro ⟨m, hm, hspan⟩
    obtain ⟨lead, hlead⟩ := exists_lead m
    obtain ⟨before, hsite⟩ := (search?_eq_some_iff hsharp).mp ⟨m, hm, rfl, hlead⟩
    exact ⟨before, lead, m.last, hsite, hspan⟩
  · rintro ⟨before, lead, here, hsite, hspan⟩
    obtain ⟨m, hm, rfl, -⟩ := (search?_eq_some_iff hsharp).mpr ⟨before, hsite⟩
    exact ⟨m, hm, hspan⟩

/-- The strategies that take what is assigned at the first site. -/
theorem assigned_iff {limits : Limits} {reads : Text → Data → Prop} {read : Text → Option Data}
    (hread : ∀ span v, read span = some v ↔ reads span v) {head : List Piece}
    (hsharp : isSharp head = true) {text : Text} {members : Members Data} :
    ((spanAfter? limits (sitePattern head) text).bind fun span => (read span).bind accept?) =
      some members ↔ Assigned limits reads head text members := by
  unfold Assigned
  simp only [Option.bind_eq_some_iff, spanAfter?_eq_some_iff hsharp, hread, accept?_eq_some_iff]
  constructor
  · rintro ⟨span, ⟨before, lead, here, hsite, hspan⟩, v, hv, haccepts⟩
    exact ⟨before, lead, here, span, v, hsite, hspan, hv, haccepts⟩
  · rintro ⟨before, lead, here, span, v, hsite, hspan, hv, haccepts⟩
    exact ⟨span, ⟨before, lead, here, hsite, hspan⟩, v, hv, haccepts⟩

/-- What the push at the front of a text passes, if it is a container. -/
theorem pushed?_eq_some_iff {limits : Limits} {m : Pattern.Match} {members : Members Data} :
    pushed? limits m = some members ↔ Pushed limits m.last members := by
  unfold pushed? Pushed SpanAt
  simp only [Option.bind_eq_bind, Option.bind_eq_some_iff, balanced_eq_some_iff,
    readStrict?_eq_some_iff, members?_eq_some_iff, Option.ite_none_right_eq_some]
  constructor
  · rintro ⟨span, hspan, _, hread, outer, rfl, hkey, haccepts⟩
    exact ⟨span, outer, hspan, hread, any_has_iff.mp hkey, accept?_eq_some_iff.mp haccepts⟩
  · rintro ⟨span, outer, hspan, hread, hkey, haccepts⟩
    exact ⟨span, hspan, _, hread, outer, rfl, any_has_iff.mpr hkey,
      accept?_eq_some_iff.mpr haccepts⟩

theorem listed?_eq_some_iff {span : Text} {members : Members Data} :
    listed? span = some members ↔ Listed span members := by
  have hlist (key : Text) : ((Members.get? members key).bind Data.items?).isSome = true ↔
      ∃ items, members.get? key = some (.array items) := by
    rw [Option.isSome_iff_exists]
    simp only [Option.bind_eq_some_iff]
    constructor
    · rintro ⟨items, v, hv, hitems⟩
      cases v <;> cases hitems
      exact ⟨items, hv⟩
    · rintro ⟨items, hv⟩
      exact ⟨items, _, hv, rfl⟩
  unfold listed? Listed
  simp only [Option.bind_eq_bind, Option.bind_eq_some_iff, readStrict?_eq_some_iff,
    members?_eq_some_iff, Option.ite_none_right_eq_some, Option.some.injEq, Bool.or_eq_true]
  constructor
  · rintro ⟨_, hread, _, rfl, hkey, rfl⟩
    refine ⟨hread, ?_⟩
    obtain hkey | hkey := hkey
    · exact ⟨"tags", by decide, (hlist _).mp hkey⟩
    · exact ⟨"macros", by decide, (hlist _).mp hkey⟩
  · rintro ⟨hread, key, hkey, hitems⟩
    refine ⟨_, hread, members, rfl, ?_, rfl⟩
    obtain rfl | rfl := List.mem_pair.mp hkey
    · exact .inl ((hlist _).mpr hitems)
    · exact .inr ((hlist _).mpr hitems)

/-- **What a strategy finds** is what it is said to find. -/
theorem find_eq_some_iff {limits : Limits} {text id : Text} {s : Strategy}
    {members : Members Data} :
    s.find limits text id = some members ↔ s.Finds limits text id members := by
  cases s with
  | varData =>
    have hsharp : isSharp varDataHead = true := rfl
    exact assigned_iff (fun _ _ => evaluate_toOption_eq_some_iff) hsharp
  | directAssignment =>
    have hsharp : isSharp (directHead id) = true := rfl
    exact assigned_iff (fun _ _ => readStrict?_eq_some_iff) hsharp
  | indexedAssignment =>
    have hsharp : isSharp (indexedHead id) = true := rfl
    exact assigned_iff (fun _ _ => readStrict?_eq_some_iff) hsharp
  | pushCall =>
    have hsharp : isSharp pushHead = true := rfl
    have honce : beginsOnce '.' pushHead = true := rfl
    exact findSome?_findAll_iff hsharp honce (by decide) fun _ _ => pushed?_eq_some_iff
  | legacyResource =>
    have hsharp : isSharp resourceHead = true := rfl
    unfold Strategy.find Strategy.Finds
    simp only [Option.bind_eq_bind, Option.bind_eq_some_iff, readStrict?_eq_some_iff,
      balanced_eq_some_iff]
    constructor
    · rintro ⟨m, hm, span, hspan, v, hread, h⟩
      obtain ⟨lead, hlead⟩ := exists_lead m
      obtain ⟨before, hsite⟩ := (search?_eq_some_iff hsharp).mp ⟨m, hm, rfl, hlead⟩
      rw [hlead] at hspan
      split at h
      case h_1 inner hinner =>
        exact ⟨before, lead, m.last, span, v, inner, hsite, hspan, hread, hinner,
          accept?_eq_some_iff.mp h⟩
      case h_2 => cases h
    · rintro ⟨before, lead, here, span, v, inner, hsite, hspan, hread, hinner, haccepts⟩
      obtain ⟨m, hm, rfl, hhere⟩ := (search?_eq_some_iff hsharp).mpr ⟨before, hsite⟩
      rw [← hhere] at hspan
      refine ⟨m, hm, span, hspan, v, hread, ?_⟩
      simp only [hinner]
      exact accept?_eq_some_iff.mpr haccepts
  | exhaustiveScan =>
    unfold Strategy.find Strategy.Finds
    simp only [List.findSome?_eq_some_iff, listed?_eq_some_iff, Option.eq_none_iff_forall_ne_some,
      ne_eq]

/-! ## Where containers come from -/

/-- What the exhaustive scan reads are balanced spans of the text. -/
theorem mem_scanCandidates {limits : Limits} {text span : Text}
    (h : span ∈ scanCandidates limits text) : span <:+: text ∧ Balanced span := by
  unfold scanCandidates at h
  obtain ⟨p, hp, rfl⟩ := List.mem_map.mp h
  have hranked := List.mem_mergeSort.mp (List.mem_of_mem_take hp)
  obtain ⟨s, hs, rfl⟩ := List.mem_map.mp (List.mem_filter.mp hranked).1
  obtain ⟨⟨i, here⟩, hbrace, hspan⟩ := List.mem_filterMap.mp hs
  obtain ⟨hfront, hbalanced⟩ := (balanced_eq_some_iff _ _ _).mp hspan
  have hwithin := (hfront.trans (List.take_prefix _ _)).isInfix
  have hhere : here <:+ text := mem_braces hbrace ▸ List.drop_suffix i text
  exact ⟨hwithin.trans hhere.isInfix, hbalanced⟩

/-- A container that some balanced span of a text holds: the object that the span spells, or its
resource. -/
def Carried (text : Text) (members : Members Data) : Prop :=
  ∃ span v, span <:+: text ∧ Balanced span ∧ Literal.evaluate span = .ok v ∧
    (v = .object members ∨ v.get? "resource" = some (.object members)) ∧
    ∃ key ∈ containerKeys, key ∈ members.keys

theorem SpanAt.within {limits : Limits} {head : List Piece} {text before lead here span : Text}
    (hsite : Site head text before lead here) (h : SpanAt limits here span) : span <:+: text := by
  rw [hsite.text_eq, ← List.append_assoc]
  exact ((h.1.trans (List.take_prefix _ _)).isInfix).trans (List.suffix_append _ _).isInfix

theorem Accepts.carried {text span : Text} {v : Data} {members : Members Data}
    (h : Accepts v members) (hwithin : span <:+: text) (hbalanced : Balanced span)
    (hread : Literal.evaluate span = .ok v) : Carried text members :=
  ⟨span, v, hwithin, hbalanced, hread, h.eq_or_resource, h.2⟩

theorem Assigned.carried {limits : Limits} {reads : Text → Data → Prop}
    (hreads : ∀ span v, reads span v → Literal.evaluate span = .ok v) {head : List Piece}
    {text : Text} {members : Members Data} (h : Assigned limits reads head text members) :
    Carried text members := by
  obtain ⟨before, lead, here, span, v, hsite, hspan, hread, haccepts⟩ := h
  exact haccepts.carried (hspan.within hsite.toSite) hspan.2 (hreads _ _ hread)

/-- **What a strategy finds** is carried by a balanced span of the source. -/
theorem Strategy.Finds.carried {limits : Limits} {text id : Text} {s : Strategy}
    {members : Members Data} (h : s.Finds limits text id members) : Carried text members := by
  cases s with
  | varData => exact Assigned.carried (fun _ _ h => h) h
  | directAssignment | indexedAssignment =>
    exact Assigned.carried (fun _ _ => Literal.evaluate_of_read) h
  | pushCall =>
    obtain ⟨before, lead, here, hsite, ⟨span, outer, hspan, hread, -, haccepts⟩, -⟩ := h
    exact haccepts.carried (hspan.within hsite) hspan.2 (Literal.evaluate_of_read hread)
  | legacyResource =>
    obtain ⟨before, lead, here, span, v, inner, hsite, hspan, hread, -, haccepts⟩ := h
    refine haccepts.carried ?_ hspan.2 (Literal.evaluate_of_read hread)
    rw [hsite.text_eq]
    exact ((hspan.1.trans (List.take_prefix _ _)).isInfix).trans (List.suffix_append _ _).isInfix
  | exhaustiveScan =>
    obtain ⟨earlier, span, later, hcandidates, ⟨hread, key, hkey, items, hitems⟩, -⟩ := h
    obtain ⟨hwithin, hbalanced⟩ := mem_scanCandidates (hcandidates ▸ List.mem_append_cons_self)
    have hcontainer : key ∈ containerKeys := by
      obtain rfl | rfl := List.mem_pair.mp hkey <;> decide
    exact ⟨span, _, hwithin, hbalanced, Literal.evaluate_of_read hread, .inl rfl, key, hcontainer,
      Members.mem_keys_of_get? hitems⟩

/-! ## The cascade -/

/-- The strategies in front of a strategy. -/
def Strategy.before (s : Strategy) : List Strategy := Strategy.cascade.takeWhile (· ≠ s)

theorem Strategy.mem_cascade (s : Strategy) : s ∈ Strategy.cascade := by
  cases s <;> decide

theorem Strategy.nodup_cascade : Strategy.cascade.Nodup := by decide

theorem Strategy.before_or_eq_or_before (s t : Strategy) :
    s ∈ t.before ∨ s = t ∨ t ∈ s.before := by
  cases s <;> cases t <;> decide

theorem Strategy.name_injective {s t : Strategy} (h : s.name = t.name) : s = t := by
  cases s <;> cases t <;> first | rfl | (revert h; decide)

theorem Strategy.before_eq {s : Strategy} {earlier later : List Strategy}
    (h : Strategy.cascade = earlier ++ s :: later) : s.before = earlier := by
  have hnodup := Strategy.nodup_cascade
  rw [h] at hnodup
  have hne : ∀ t ∈ earlier, decide (t ≠ s) = true := fun t ht =>
    decide_eq_true fun e => (List.nodup_append.mp hnodup).2.2 t ht s List.mem_cons_self e
  rw [before, h, List.takeWhile_append_of_pos hne, List.takeWhile_cons_of_neg (by simp),
    List.append_nil]

/-- What is located: nothing, or what the first strategy finds that finds something. -/
theorem locate_cases (limits : Limits) (text id : Text) :
    (∀ (s : Strategy) (members : Members Data), ¬s.Finds limits text id members) ∧
        locate limits text id = {} ∨
      ∃ (s : Strategy) (members : Members Data), s.Finds limits text id members ∧
        (∀ earlier ∈ s.before, ∀ members, ¬earlier.Finds limits text id members) ∧
        locate limits text id = Document.ofMembers members (some s.name) := by
  have hnone (s : Strategy) : (s.find limits text id).map
      (fun members => Document.ofMembers members (some s.name)) = none ↔
        ∀ members, ¬s.Finds limits text id members := by
    rw [Option.map_eq_none_iff, Option.eq_none_iff_forall_ne_some]
    simp only [ne_eq, find_eq_some_iff]
  unfold locate
  cases hfind : Strategy.cascade.findSome? fun s => (s.find limits text id).map fun members =>
      Document.ofMembers members (some s.name) with
  | none =>
    rw [List.findSome?_eq_none_iff] at hfind
    exact .inl ⟨fun s => (hnone s).mp (hfind s s.mem_cascade), rfl⟩
  | some doc =>
    obtain ⟨earlier, s, later, hcascade, hs, hearlier⟩ := List.findSome?_eq_some_iff.mp hfind
    obtain ⟨members, hmembers, rfl⟩ := Option.map_eq_some_iff.mp hs
    rw [← Strategy.before_eq hcascade] at hearlier
    exact .inr ⟨s, members, find_eq_some_iff.mp hmembers,
      fun t ht => (hnone t).mp (hearlier t ht), rfl⟩

/-- The first strategy that finds something decides. -/
theorem locate_eq_of_first {limits : Limits} {text id : Text} {s : Strategy}
    {members : Members Data} (hfinds : s.Finds limits text id members)
    (hfirst : ∀ earlier ∈ s.before, ∀ members, ¬earlier.Finds limits text id members) :
    locate limits text id = Document.ofMembers members (some s.name) := by
  obtain ⟨hnone, -⟩ | ⟨t, others, hothers, hfirst', hdoc⟩ := locate_cases limits text id
  · exact absurd hfinds (hnone s members)
  obtain hbefore | rfl | hbefore := s.before_or_eq_or_before t
  · exact absurd hfinds (hfirst' s hbefore members)
  · obtain rfl := Option.some.inj
      ((find_eq_some_iff.mpr hothers).symm.trans (find_eq_some_iff.mpr hfinds))
    exact hdoc
  · exact absurd hothers (hfirst t hbefore others)

/-- What a document says about the strategies: which one is reported, what the document is then, and
when none is. -/
structure Cascaded (limits : Limits) (text id : Text) (doc : Document) : Prop where
  named : ∀ name, doc.strategy = some name → ∃ s : Strategy, name = s.name
  reported : ∀ s : Strategy, doc.strategy = some s.name ↔
    (∃ members, s.Finds limits text id members) ∧
      ∀ earlier ∈ s.before, ∀ members, ¬earlier.Finds limits text id members
  document : ∀ (s : Strategy) (members : Members Data), doc.strategy = some s.name →
    s.Finds limits text id members →
      doc = Document.ofMembers members (some s.name) ∧ Carried text members
  unreported : doc.strategy = none ↔
    ∀ (s : Strategy) (members : Members Data), ¬s.Finds limits text id members
  empty : doc.strategy = none → doc = {}

/-- **The cascade** falls through to the first strategy that finds something, and to the empty
document if none does. -/
theorem locate_cascaded (limits : Limits) (text id : Text) :
    Cascaded limits text id (locate limits text id) := by
  have hreported (s : Strategy) : (locate limits text id).strategy = some s.name ↔
      (∃ members, s.Finds limits text id members) ∧
        ∀ earlier ∈ s.before, ∀ members, ¬earlier.Finds limits text id members := by
    constructor
    · intro hs
      obtain ⟨-, hdoc⟩ | ⟨t, members, hfinds, hfirst, hdoc⟩ := locate_cases limits text id
      · rw [hdoc] at hs
        cases hs
      · rw [hdoc] at hs
        obtain rfl := Strategy.name_injective (Option.some.inj hs)
        exact ⟨⟨members, hfinds⟩, hfirst⟩
    · rintro ⟨⟨members, hfinds⟩, hfirst⟩
      rw [locate_eq_of_first hfinds hfirst]
      rfl
  have hnone : (locate limits text id).strategy = none →
      (∀ (s : Strategy) (members : Members Data), ¬s.Finds limits text id members) ∧
        locate limits text id = {} := by
    intro hstrategy
    obtain h | ⟨t, members, -, -, hdoc⟩ := locate_cases limits text id
    · exact h
    · rw [hdoc] at hstrategy
      cases hstrategy
  refine ⟨?_, hreported, ?_, ⟨fun h => (hnone h).1, ?_⟩, fun h => (hnone h).2⟩
  · intro name hname
    obtain ⟨-, hdoc⟩ | ⟨t, members, -, -, hdoc⟩ := locate_cases limits text id
    · rw [hdoc] at hname
      cases hname
    · rw [hdoc] at hname
      exact ⟨t, (Option.some.inj hname).symm⟩
  · intro s members hs hfinds
    exact ⟨locate_eq_of_first hfinds ((hreported s).mp hs).2, hfinds.carried⟩
  · intro hall
    obtain ⟨-, hdoc⟩ | ⟨t, members, hfinds, -⟩ := locate_cases limits text id
    · rw [hdoc]
    · exact absurd hfinds (hall t members)

end TagAudit.Source
