import TagAudit.Proofs.Source.Candidates
import TagAudit.Proofs.Source.Embedded

/-!
# One container in several places

The same container may be assigned to `data` or under its identifier, be pushed, or stand alone, and
each place has a strategy of its own.

* `scanCandidates_pairwise`: the exhaustive scan reads the longest span first.
* `Placed`: where a container stands for a strategy to come upon it before anything else is found.
* `locate_placed`: the document that comes of it. All strategies but the exhaustive scan take the
  container out of its resource wrapper.
* `placements_agree_iff`: when two places lead to the same document.
-/

namespace TagAudit

/-- A document without the name of the strategy that found it. -/
def Document.unnamed (doc : Document) : Document := { doc with strategy := none }

namespace Source

/-! ## The order of candidates -/

/-- No candidate of the exhaustive scan is longer than one before it. -/
theorem scanCandidates_pairwise (limits : Limits) (text : Text) :
    (scanCandidates limits text).Pairwise fun s t => t.length ≤ s.length := by
  rw [scanCandidates_eq, List.pairwise_map]
  refine ((ranked_ranking limits text).order.sublist (List.take_sublist ..)).imp fun h => ?_
  unfold RanksBefore at h
  omega

/-- Of the candidates with a list of tags or variables, the first one is no shorter than any. -/
theorem exists_first_listed {limits : Limits} {text c : Text} {outer : Members Data}
    (hmem : c ∈ scanCandidates limits text) (hlisted : Listed c outer) :
    ∃ earlier span later members, scanCandidates limits text = earlier ++ span :: later ∧
      Listed span members ∧ (∀ passed ∈ earlier, ∀ other, ¬Listed passed other) ∧
      c.length ≤ span.length := by
  have hfound : ((scanCandidates limits text).findSome? listed?).isSome := by
    rw [List.findSome?_isSome_iff]
    exact ⟨c, hmem, by rw [listed?_eq_some_iff.mpr hlisted]; rfl⟩
  obtain ⟨members, hmembers⟩ := Option.isSome_iff_exists.mp hfound
  obtain ⟨earlier, span, later, hcandidates, hspan, hearlier⟩ :=
    List.findSome?_eq_some_iff.mp hmembers
  have hpassed : ∀ passed ∈ earlier, ∀ other, ¬Listed passed other := fun passed hp other hother =>
    by simpa [hearlier passed hp] using listed?_eq_some_iff.mpr hother
  refine ⟨earlier, span, later, members, hcandidates, listed?_eq_some_iff.mp hspan, hpassed, ?_⟩
  rw [hcandidates] at hmem
  obtain hearly | hrest := List.mem_append.mp hmem
  · exact absurd hlisted (hpassed c hearly outer)
  · obtain rfl | hlater := List.mem_cons.mp hrest
    · exact Nat.le_refl _
    · have hpairwise := scanCandidates_pairwise limits text
      rw [hcandidates, List.pairwise_append, List.pairwise_cons] at hpairwise
      exact hpairwise.2.1.1 c hlater

/-! ## Places -/

/-- Strict JSON for an object with a list of tags or of variables. In it is a container with the
members `inner`, which are those of the resource if the object wraps one. -/
structure IsContainer (limits : Limits) (c : Text) (outer inner : Members Data) : Prop where
  reads : Json.read c = .ok (.object outer)
  opens : c.head? = some ('\x7b' : CodePoint)
  closes : c.getLast? = some ('\x7d' : CodePoint)
  fits : c.length ≤ limits.window
  lists : ∃ key ∈ (["tags", "macros"] : List Text), ∃ items, outer.get? key = some (.array items)
  accepts : Accepts (.object outer) inner

theorem IsContainer.listed {limits : Limits} {c : Text} {outer inner : Members Data}
    (h : IsContainer limits c outer inner) : Listed c outer := ⟨h.reads, h.lists⟩

/-- Where a text stands in a source for a strategy to come upon it. -/
inductive Stands (limits : Limits) (id source c : Text) : Strategy → Prop where
  /-- The first object that is assigned to `data`. -/
  | varData {before lead after : Text} : FirstSite varDataHead source before lead (c ++ after) →
    Stands limits id source c .varData
  /-- The first object that is assigned under the identifier. -/
  | direct {before lead after : Text} : FirstSite (directHead id) source before lead (c ++ after) →
    Stands limits id source c .directAssignment
  /-- The same with blanks and any marks. -/
  | indexed {before lead after : Text} :
    FirstSite (indexedHead id) source before lead (c ++ after) →
    Stands limits id source c .indexedAssignment
  /-- An object that is pushed, and no container is pushed before. -/
  | pushed {before lead after : Text} : Site pushHead source before lead (c ++ after) →
    (∀ before' lead' here', Site pushHead source before' lead' here' →
      before'.length < before.length → ∀ members, ¬Pushed limits here' members) →
    Stands limits id source c .pushCall
  /-- A candidate of the exhaustive scan. Any other one is part of it or no container. -/
  | alone : c ∈ scanCandidates limits source →
    (∀ span ∈ scanCandidates limits source, ∀ members, Listed span members → span <:+: c) →
    Stands limits id source c .exhaustiveScan

/-- A text stands in a source for a strategy to come upon it, and no strategy in front of that one
finds anything. -/
structure Placed (limits : Limits) (id source c : Text) (s : Strategy) : Prop where
  stands : Stands limits id source c s
  first : ∀ earlier ∈ s.before, ∀ members, ¬earlier.Finds limits source id members

/-- The members that a strategy takes from a container. -/
def Strategy.takes (outer inner : Members Data) : Strategy → Members Data
  | exhaustiveScan => outer
  | _ => inner

variable {limits : Limits} {id source c : Text} {outer inner : Members Data} {s : Strategy}

theorem Stands.finds (hc : IsContainer limits c outer inner) (h : Stands limits id source c s) :
    s.Finds limits source id (s.takes outer inner) := by
  have hbalanced : Balanced c := Json.balanced_of_read hc.reads hc.opens hc.closes
  cases h with
  | varData hsite =>
    exact assigned_of_firstSite hsite hbalanced hc.fits (Literal.evaluate_of_read hc.reads)
      hc.accepts
  | direct hsite | indexed hsite =>
    exact assigned_of_firstSite hsite hbalanced hc.fits hc.reads hc.accepts
  | @pushed before lead after hsite hfirst =>
    have hkey : ∃ key ∈ pushKeys, key ∈ outer.keys := by
      obtain ⟨key, hkey, items, hitems⟩ := hc.lists
      refine ⟨key, ?_, Members.mem_keys_of_get? hitems⟩
      obtain rfl | rfl := List.mem_pair.mp hkey <;> decide
    have hpushed : Pushed limits (c ++ after) inner :=
      ⟨c, outer, spanAt_of_balanced hbalanced hc.fits after, hc.reads, hkey, hc.accepts⟩
    exact ⟨before, lead, c ++ after, hsite, hpushed, hfirst⟩
  | alone hmem hwithin =>
    -- The first candidate with a list is no shorter than this one, and part of it.
    obtain ⟨earlier, span, later, members, hcandidates, hlisted, hearlier, hlength⟩ :=
      exists_first_listed hmem hc.listed
    have hpart : span <:+: c := hwithin span (hcandidates ▸ List.mem_append_cons_self) _ hlisted
    obtain rfl : span = c := hpart.eq_of_length (Nat.le_antisymm hpart.length_le hlength)
    exact ⟨earlier, span, later, hcandidates, hc.listed, hearlier⟩

/-- **A placed container** is located there, and only the exhaustive scan leaves it in its resource
wrapper. -/
theorem locate_placed (hc : IsContainer limits c outer inner) (h : Placed limits id source c s) :
    locate limits source id = Document.ofMembers (s.takes outer inner) (some s.name) :=
  locate_eq_of_first (h.stands.finds hc) h.first

/-- **Two places of one container** lead to the same document, apart from the name of the strategy,
exactly if both or neither are for the exhaustive scan, or the fields of the document are the same
in the object and in its resource. -/
theorem placements_agree_iff (hc : IsContainer limits c outer inner)
    (h : Placed limits id source c s) {id' source' : Text} {s' : Strategy}
    (h' : Placed limits id' source' c s') :
    (locate limits source id).strategy = some s.name ∧
    (locate limits source' id').strategy = some s'.name ∧
    ((locate limits source id).unnamed = (locate limits source' id').unnamed ↔
      (s = .exhaustiveScan ↔ s' = .exhaustiveScan) ∨
        Document.ofMembers outer none = Document.ofMembers inner none) := by
  rw [locate_placed hc h, locate_placed hc h']
  refine ⟨rfl, rfl, ?_⟩
  have hunnamed (t : Strategy) :
      (Document.ofMembers (t.takes outer inner) (some t.name)).unnamed =
        Document.ofMembers (if t = .exhaustiveScan then outer else inner) none := by
    cases t <;> rfl
  rw [hunnamed, hunnamed]
  by_cases hs : s = .exhaustiveScan <;> by_cases hs' : s' = .exhaustiveScan
  · simp [hs, hs']
  · simp [hs, hs']
  · simp [hs, hs', eq_comm]
  · simp [hs, hs']

/-- Limits without a least length and a margin. -/
def openLimits : Limits := { minLength := 0, tailMargin := 0 }

/-- A container without a resource. -/
def plainContainer : Text := "\x7b\"tags\":[1]\x7d"

/-- The container assigned to `data`. -/
def assignedSource : Text := ("f();" : Text) ++ (("var data = " : Text) ++ (plainContainer ++ []))

/-- The container as an argument of a call. -/
def argumentSource : Text := ("f(" : Text) ++ plainContainer ++ (")" : Text)

/-- Without a resource, the two places lead to the same document. -/
theorem plainContainer_placed :
    ∃ members, IsContainer openLimits plainContainer members members ∧
      Placed openLimits "GTM-1" assignedSource plainContainer .varData ∧
      Placed openLimits "GTM-1" argumentSource plainContainer .exhaustiveScan ∧
      (locate openLimits assignedSource "GTM-1").unnamed =
        (locate openLimits argumentSource "GTM-1").unnamed := by
  have hcontainer : IsContainer openLimits plainContainer [("tags", .array [.int 1])]
      [("tags", .array [.int 1])] :=
    ⟨by cbv, rfl, rfl, by decide, ⟨"tags", by decide, _, rfl⟩, rfl, "tags", by decide, by decide⟩
  have hbefore : varDataPattern.search? "f();" = none := by decide +kernel
  have hlead : Spells varDataHead "var data = " :=
    .word (.blanks (b := " ") (by decide) (by decide) (.word (.blanks (b := " ") (by decide)
      (by decide) (.word (.blanks (b := " ") (by decide) (by decide) .nil)))))
  have hassigned : Placed openLimits "GTM-1" assignedSource plainContainer .varData := by
    have honce : beginsOnce 'v' varDataHead = true := rfl
    refine ⟨.varData (.of_append honce (by decide) (search?_eq_none_iff.mp hbefore) hlead rfl), ?_⟩
    exact fun _ h => by cases h
  have hargument : Placed openLimits "GTM-1" argumentSource plainContainer .exhaustiveScan := by
    have hcandidates : scanCandidates openLimits argumentSource = [plainContainer] := by cbv
    refine ⟨.alone (by simp [hcandidates]) ?_, ?_⟩
    · rw [hcandidates]
      rintro _ ⟨⟩ _ -
      · exact List.infix_refl _
      · contradiction
    · have hnone : ∀ earlier ∈ Strategy.exhaustiveScan.before,
          earlier.find openLimits argumentSource "GTM-1" = none := by
        have hearlier : Strategy.exhaustiveScan.before =
          [.varData, .directAssignment, .pushCall, .indexedAssignment, .legacyResource] := by decide
        rw [hearlier]
        simp only [List.forall_mem_cons]
        exact ⟨by cbv, by cbv, by cbv, by cbv, by cbv, List.forall_mem_nil _⟩
      intro earlier hearlier members hfinds
      rw [← find_eq_some_iff, hnone earlier hearlier] at hfinds
      cases hfinds
  exact ⟨_, hcontainer, hassigned, hargument,
    (placements_agree_iff hcontainer hassigned hargument).2.2.mpr (.inr rfl)⟩

/-- A container that wraps a resource. -/
def wrappedContainer : Text := "\x7b\"tags\":[1],\"resource\":\x7b\"tags\":[2]\x7d\x7d"

/-- The resource is unwrapped where the object is assigned to `data`, and not where only the scan
comes upon it. -/
theorem wrappedContainer_disagrees :
    locate openLimits (("var data = " : Text) ++ wrappedContainer) "GTM-1" =
      { tags := [.int 2], strategy := some "var_data_assignment" } ∧
    locate openLimits (("f(" : Text) ++ wrappedContainer ++ (")" : Text)) "GTM-1" =
      { tags := [.int 1], strategy := some "exhaustive_scan" } := by
  constructor <;> cbv

end Source

end TagAudit
