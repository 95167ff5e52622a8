import Mathlib
import TagAudit.Proofs.Source.Cascade

/-!
# Candidates of the exhaustive scan

The scan collects spans, sorts them by their lengths and reads the first ones. Here its candidates
and their order are told without the steps in which they are found.

* `Candidate`: which spans are candidates, each at its offset. `RanksBefore`: which of two comes
  first.
* `Ranking`: the candidates in order. There is one such list (`ranked_ranking`, `Ranking.unique`),
  and the scan reads its first items (`scanCandidates_eq`).
* `scan_selects`: the scan finds the first of them that holds a container.
* `Relaxes`: limits that let more candidates in. They come behind the others
  (`Relaxes.scanCandidates_prefix`), so what was located stays located (`locate_relaxed`).
-/

namespace TagAudit.Source

/-! ## Candidates -/

/-- An opening brace in front of the margin stands at an offset. -/
def IsOpening (limits : Limits) (text : Text) (i : Nat) : Prop :=
  text[i]? = some ('\x7b' : CodePoint) ∧ i + limits.tailMargin < text.length

/-- The span at an offset is a candidate: it opens with one of the last braces in front of the
margin, closes within the window, and is long enough. -/
structure Candidate (limits : Limits) (text : Text) (i : Nat) (span : Text) : Prop where
  opening : IsOpening limits text i
  recent : {j | i < j ∧ IsOpening limits text j}.ncard < limits.bracePositions
  extracted : extract text i limits.window = some span
  long : limits.minLength < span.length

/-- The longer candidate comes first, and of two equally long ones the one that stands first. -/
def RanksBefore (p q : Nat × Text) : Prop :=
  q.2.length < p.2.length ∨ q.2.length = p.2.length ∧ p.1 < q.1

/-- The candidates in order. -/
structure Ranking (limits : Limits) (text : Text) (ranked : List (Nat × Text)) : Prop where
  candidates : ∀ p, p ∈ ranked ↔ Candidate limits text p.1 p.2
  order : ranked.Pairwise RanksBefore

/-! ## What the scan collects -/

/-- The offsets of the braces that the scan considers. -/
def considered (limits : Limits) (text : Text) : List Nat :=
  (openings (text.length - limits.tailMargin) text).rtake limits.bracePositions

/-- The spans at these offsets that are long enough, in the order of the offsets. -/
def collected (limits : Limits) (text : Text) : List (Nat × Text) :=
  ((considered limits text).filterMap fun i =>
    (balanced limits.window (text.drop i)).map fun span => (i, span)).filter fun p =>
      limits.minLength < p.2.length

/-- The same, sorted by length. -/
def ranked (limits : Limits) (text : Text) : List (Nat × Text) :=
  (collected limits text).mergeSort fun p q => q.2.length ≤ p.2.length

theorem mem_considered {limits : Limits} {text : Text} {i : Nat} :
    i ∈ considered limits text ↔ IsOpening limits text i ∧
      {j | i < j ∧ IsOpening limits text j}.ncard < limits.bracePositions := by
  have hopening (j : Nat) : j ∈ openings (text.length - limits.tailMargin) text ↔
      IsOpening limits text j := by
    rw [mem_openings, IsOpening, and_comm, Nat.lt_sub_iff_add_lt]
  have horder := pairwise_openings (text.length - limits.tailMargin) text
  have hlater : {j | i < j ∧ IsOpening limits text j} =
      ((openings (text.length - limits.tailMargin) text).filter (i < ·)).toFinset := by
    ext j
    simp [hopening, and_comm]
  rw [hlater, Set.ncard_coe_finset,
    List.toFinset_card_of_nodup ((horder.imp Nat.ne_of_lt).filter _), ← hopening]
  constructor
  · intro hi
    have hmem := List.mem_of_mem_drop hi
    exact ⟨hmem, (mem_rtake_iff horder hmem _).mp hi⟩
  · rintro ⟨hmem, hcount⟩
    exact (mem_rtake_iff horder hmem _).mpr hcount

theorem pairwise_considered (limits : Limits) (text : Text) :
    (considered limits text).Pairwise (· < ·) :=
  (pairwise_openings _ text).sublist (List.drop_sublist ..)

theorem extract_natCast (text : Text) (i window : Nat) :
    extract text i window = balanced window (text.drop i) := by
  simp [extract]

theorem mem_collected {limits : Limits} {text : Text} {p : Nat × Text} :
    p ∈ collected limits text ↔ Candidate limits text p.1 p.2 := by
  obtain ⟨i, span⟩ := p
  simp only [collected, List.mem_filter, List.mem_filterMap, Option.map_eq_some_iff, Prod.mk.injEq,
    decide_eq_true_eq, mem_considered]
  constructor
  · rintro ⟨⟨j, ⟨hopening, hrecent⟩, s, hs, rfl, rfl⟩, hlong⟩
    exact ⟨hopening, hrecent, (extract_natCast ..).trans hs, hlong⟩
  · rintro ⟨hopening, hrecent, hspan, hlong⟩
    rw [extract_natCast] at hspan
    exact ⟨⟨i, ⟨hopening, hrecent⟩, span, hspan, rfl, rfl⟩, hlong⟩

theorem pairwise_collected (limits : Limits) (text : Text) :
    (collected limits text).Pairwise fun p q => p.1 < q.1 := by
  refine List.Pairwise.filter _ (List.pairwise_filterMap.mpr ?_)
  refine (pairwise_considered limits text).imp fun hlt => ?_
  simp only [Option.map_eq_some_iff]
  rintro _ ⟨_, -, rfl⟩ _ ⟨_, -, rfl⟩
  exact hlt

/-- **What the scan reads**: the first candidates. -/
theorem scanCandidates_eq (limits : Limits) (text : Text) :
    scanCandidates limits text = ((ranked limits text).take limits.maxCandidates).map (·.2) := by
  have hcount :
      ((text.length : Int) - limits.tailMargin).toNat = text.length - limits.tailMargin := by
    omega
  have hspans : (braces text (some limits.bracePositions) limits.tailMargin).filterMap
      (fun start => balanced limits.window start.2) =
      ((considered limits text).filterMap fun i =>
        (balanced limits.window (text.drop i)).map fun span => (i, span)).map (·.2) := by
    rw [braces_some, hcount, Int.toNat_natCast, ← considered, List.filterMap_map,
      List.map_filterMap]
    simp [Function.comp_def]
  have hlong : (((braces text (some limits.bracePositions) limits.tailMargin).filterMap
      fun start => balanced limits.window start.2).map fun s => (s.length, s)).filter
        (fun s => limits.minLength < s.1) =
      (collected limits text).map fun p => (p.2.length, p.2) := by
    rw [hspans, List.map_map, List.filter_map]
    rfl
  have hsorted : ((ranked limits text).map fun p => (p.2.length, p.2)) =
      ((collected limits text).map fun p => (p.2.length, p.2)).mergeSort fun a b => b.1 ≤ a.1 :=
    List.map_mergeSort fun _ _ _ _ => rfl
  change ((((((braces text (some limits.bracePositions) limits.tailMargin).filterMap
    fun start => balanced limits.window start.2).map fun s => (s.length, s)).filter
      fun s => limits.minLength < s.1).mergeSort fun a b => b.1 ≤ a.1).take
        limits.maxCandidates).map (·.2) = _
  rw [hlong, ← hsorted, ← List.map_take, List.map_map]
  rfl

/-! ## The order of candidates -/

theorem RanksBefore.asymm {p q : Nat × Text} (h : RanksBefore p q) : ¬RanksBefore q p := by
  unfold RanksBefore at *
  omega

theorem RanksBefore.ne {p q : Nat × Text} (h : RanksBefore p q) : p ≠ q := by
  rintro rfl
  exact h.asymm h

/-- A list without repetitions holds no two items in both orders. -/
theorem not_pair_sublist {α : Type} {l : List α} (h : l.Nodup) {a b : α} (hab : [a, b].Sublist l) :
    ¬[b, a].Sublist l := by
  induction l with
  | nil => simp at hab
  | cons c l ih =>
    obtain ⟨hc, hl⟩ := List.nodup_cons.mp h
    intro hba
    cases hab with
    | cons _ hab =>
      cases hba with
      | cons _ hba => exact ih hl hab hba
      | cons_cons _ _ => exact hc (hab.mem (by simp))
    | cons_cons _ hb =>
      cases hba with
      | cons _ hba => exact hc (hba.mem (by simp))
      | cons_cons _ _ => exact hc (hb.mem (by simp))

/-- Sorting by length keeps the order of equally long candidates. -/
theorem ranked_ranking (limits : Limits) (text : Text) :
    Ranking limits text (ranked limits text) := by
  have hperm : (ranked limits text).Perm (collected limits text) := List.mergeSort_perm _ _
  refine ⟨fun p => hperm.mem_iff.trans mem_collected, List.pairwise_iff_forall_sublist.mpr ?_⟩
  intro p q hpq
  have htrans : ∀ p q r : Nat × Text, decide (q.2.length ≤ p.2.length) = true →
      decide (r.2.length ≤ q.2.length) = true → decide (r.2.length ≤ p.2.length) = true := by
    simp only [decide_eq_true_eq]
    omega
  have htotal : ∀ p q : Nat × Text,
      (decide (q.2.length ≤ p.2.length) || decide (p.2.length ≤ q.2.length)) = true := by
    simp only [Bool.or_eq_true, decide_eq_true_eq]
    omega
  have hlength : q.2.length ≤ p.2.length := of_decide_eq_true
    (List.pairwise_iff_forall_sublist.mp (List.pairwise_mergeSort htrans htotal _) hpq)
  rcases Nat.lt_or_eq_of_le hlength with hlt | heq
  · exact .inl hlt
  refine .inr ⟨heq, ?_⟩
  have hnodup : (ranked limits text).Nodup :=
    hperm.nodup_iff.mpr ((pairwise_collected limits text).imp fun h heq => by simp [heq] at h)
  -- Where `q` was collected in front of `p`, it would stand in front of it still.
  have hp := hperm.mem_iff.mp (hpq.mem (by simp : p ∈ [p, q]))
  obtain ⟨front, back, hcollected⟩ := List.append_of_mem hp
  have horder := pairwise_collected limits text
  have hmem := hperm.mem_iff.mp (hpq.mem (by simp : q ∈ [p, q]))
  rw [hcollected] at horder hmem
  rcases List.mem_append.mp hmem with hfront | hrest
  · have hqp : [q, p].Sublist (collected limits text) := by
      rw [hcollected]
      exact (List.singleton_sublist.mpr hfront).append (by simp)
    exact absurd (List.pair_sublist_mergeSort htrans htotal (decide_eq_true heq.ge) hqp)
      (not_pair_sublist hnodup hpq)
  rcases List.mem_cons.mp hrest with rfl | hback
  · exact absurd hpq (not_pair_sublist hnodup hpq)
  · exact (List.pairwise_cons.mp (List.pairwise_append.mp horder).2.1).1 q hback

/-- There is one such list. -/
theorem Ranking.unique {limits : Limits} {text : Text} {l l' : List (Nat × Text)}
    (h : Ranking limits text l) (h' : Ranking limits text l') : l = l' := by
  have hperm : l.Perm l' := (List.perm_ext_iff_of_nodup (h.order.imp RanksBefore.ne)
    (h'.order.imp RanksBefore.ne)).mpr fun p => (h.candidates p).trans (h'.candidates p).symm
  exact hperm.eq_of_pairwise (fun _ _ _ _ hpq hqp => absurd hqp hpq.asymm) h.order h'.order

/-! ## What the scan finds -/

/-- **The exhaustive scan** reads the first candidates in their order, and finds the first of them
that holds a container. Those in front of it count, and stop nothing. -/
theorem scan_selects (limits : Limits) (text id : Text) :
    ∃ candidates, Ranking limits text candidates ∧
      (∀ other, Ranking limits text other → other = candidates) ∧
      (∀ members, Strategy.exhaustiveScan.find limits text id = some members ↔
        ∃ earlier p later, candidates.take limits.maxCandidates = earlier ++ p :: later ∧
          Listed p.2 members ∧ ∀ passed ∈ earlier, ∀ other, ¬Listed passed.2 other) ∧
      (Strategy.exhaustiveScan.find limits text id = none ↔
        ∀ p ∈ candidates.take limits.maxCandidates, ∀ members, ¬Listed p.2 members) := by
  have hnone (span : Text) : listed? span = none ↔ ∀ members, ¬Listed span members := by
    simp only [Option.eq_none_iff_forall_ne_some, ne_eq, listed?_eq_some_iff]
  refine ⟨ranked limits text, ranked_ranking limits text,
    fun other h => h.unique (ranked_ranking limits text), fun members => ?_, ?_⟩
  · simp only [Strategy.find, scanCandidates_eq, List.findSome?_map, List.findSome?_eq_some_iff,
      Function.comp_apply, listed?_eq_some_iff, hnone]
  · simp only [Strategy.find, scanCandidates_eq, List.findSome?_map, List.findSome?_eq_none_iff,
      Function.comp_apply, hnone]

/-! ## Other limits -/

/-- Limits that differ in letting shorter candidates in, and more of them. -/
structure Relaxes (limits relaxed : Limits) : Prop where
  window : relaxed.window = limits.window
  bracePositions : relaxed.bracePositions = limits.bracePositions
  tailMargin : relaxed.tailMargin = limits.tailMargin
  minLength : relaxed.minLength ≤ limits.minLength
  maxCandidates : limits.maxCandidates ≤ relaxed.maxCandidates

/-- What a list in order keeps is at its front, if nothing that is kept stands behind something that
is not. -/
theorem filter_prefix {α : Type} {R : α → α → Prop} {p : α → Bool} {l : List α}
    (h : l.Pairwise R) (hp : ∀ a b, R a b → p b = true → p a = true) : l.filter p <+: l := by
  induction l with
  | nil => simp
  | cons a l ih =>
    obtain ⟨ha, hl⟩ := List.pairwise_cons.mp h
    cases hpa : p a with
    | true =>
      rw [List.filter_cons_of_pos hpa]
      exact List.cons_prefix_cons.mpr ⟨rfl, ih hl⟩
    | false =>
      have hnone : ∀ b ∈ l, ¬p b = true := fun b hb hpb => by simp [hp a b (ha b hb) hpb] at hpa
      rw [List.filter_cons_of_neg (by simp [hpa]), List.filter_eq_nil_iff.mpr hnone]
      exact List.nil_prefix

section

variable {limits relaxed : Limits} (h : Relaxes limits relaxed)

include h

/-- The candidates are those of the relaxed limits that are long enough. -/
theorem Relaxes.candidate_iff {text : Text} {i : Nat} {span : Text} :
    Candidate limits text i span ↔
      Candidate relaxed text i span ∧ limits.minLength < span.length := by
  have hopening (j : Nat) : IsOpening relaxed text j ↔ IsOpening limits text j := by
    rw [IsOpening, IsOpening, h.tailMargin]
  constructor
  · rintro ⟨hi, hrecent, hspan, hlong⟩
    refine ⟨⟨(hopening i).mpr hi, ?_, ?_, Nat.lt_of_le_of_lt h.minLength hlong⟩, hlong⟩
    · simpa only [hopening, h.bracePositions] using hrecent
    · rw [h.window]
      exact hspan
  · rintro ⟨⟨hi, hrecent, hspan, -⟩, hlong⟩
    refine ⟨(hopening i).mp hi, ?_, ?_, hlong⟩
    · simpa only [hopening, h.bracePositions] using hrecent
    · rw [← h.window]
      exact hspan

/-- **More candidates** come behind the others. -/
theorem Relaxes.ranked_prefix (text : Text) : ranked limits text <+: ranked relaxed text := by
  have hrelaxed := ranked_ranking relaxed text
  have hlong : Ranking limits text
      ((ranked relaxed text).filter fun p => limits.minLength < p.2.length) := by
    refine ⟨fun p => ?_, hrelaxed.order.filter _⟩
    rw [List.mem_filter, hrelaxed.candidates, h.candidate_iff, decide_eq_true_eq]
  rw [(ranked_ranking limits text).unique hlong]
  refine filter_prefix hrelaxed.order fun p q hpq hq => ?_
  simp only [decide_eq_true_eq] at hq ⊢
  unfold RanksBefore at hpq
  omega

theorem Relaxes.scanCandidates_prefix (text : Text) :
    scanCandidates limits text <+: scanCandidates relaxed text := by
  rw [scanCandidates_eq, scanCandidates_eq]
  exact (((h.ranked_prefix text).take _).trans (List.take_prefix_take_left h.maxCandidates)).map _

/-- Only the exhaustive scan depends on the limits that are relaxed. -/
theorem Relaxes.finds_iff {text id : Text} {s : Strategy} (hs : s ≠ .exhaustiveScan)
    {members : Members Data} :
    s.Finds relaxed text id members ↔ s.Finds limits text id members := by
  have hspan (here span : Text) : SpanAt relaxed here span ↔ SpanAt limits here span := by
    rw [SpanAt, SpanAt, h.window]
  cases s with
  | exhaustiveScan => exact absurd rfl hs
  | varData | directAssignment | indexedAssignment | pushCall | legacyResource =>
    simp only [Strategy.Finds, Assigned, Pushed, hspan]

theorem Relaxes.finds {text id : Text} {s : Strategy} {members : Members Data}
    (hfinds : s.Finds limits text id members) : s.Finds relaxed text id members := by
  by_cases hs : s = .exhaustiveScan
  · subst hs
    rw [← find_eq_some_iff] at hfinds ⊢
    exact (h.scanCandidates_prefix text).findSome?_eq_some hfinds
  · exact (h.finds_iff hs).mpr hfinds

end

theorem Strategy.ne_exhaustiveScan_of_before {s t : Strategy} (h : t ∈ s.before) :
    t ≠ .exhaustiveScan := by
  revert h
  cases s <;> cases t <;> decide

/-- **What was located** stays located, when shorter candidates are let in and more of them. -/
theorem locate_relaxed {limits relaxed : Limits} (h : Relaxes limits relaxed) {text id : Text}
    (hlocated : (locate limits text id).located = true) :
    locate relaxed text id = locate limits text id := by
  obtain ⟨-, hempty⟩ | ⟨s, members, hfinds, hfirst, hdoc⟩ := locate_cases limits text id
  · rw [hempty] at hlocated
    cases hlocated
  · rw [hdoc]
    refine locate_eq_of_first (h.finds hfinds) fun earlier hearlier other hother => ?_
    have hne := Strategy.ne_exhaustiveScan_of_before hearlier
    exact hfirst earlier hearlier other ((h.finds_iff hne).mp hother)

/-- Limits that let one long span in. -/
def strictLimits : Limits := { minLength := 14, maxCandidates := 1, tailMargin := 0 }

/-- A container between two short spans, one of them inside a string of it. -/
def crowdedSource : Text := "f(\x7b\x7d,\x7b\"tags\":[\"\x7b\x7d\"]\x7d)"

/-- The container stays located when all spans are let in. -/
theorem crowdedSource_relaxed :
    Relaxes strictLimits { strictLimits with minLength := 0, maxCandidates := 3 } ∧
      (locate strictLimits crowdedSource "GTM-1").located = true ∧
      locate { strictLimits with minLength := 0, maxCandidates := 3 } crowdedSource "GTM-1" =
        locate strictLimits crowdedSource "GTM-1" := by
  have hrelaxes : Relaxes strictLimits { strictLimits with minLength := 0, maxCandidates := 3 } :=
    ⟨rfl, rfl, rfl, by decide, by decide⟩
  have hlocated : (locate strictLimits crowdedSource "GTM-1").located = true := by cbv
  exact ⟨hrelaxes, hlocated, locate_relaxed hrelaxes hlocated⟩

end TagAudit.Source
