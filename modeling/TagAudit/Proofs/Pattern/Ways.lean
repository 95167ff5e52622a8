import TagAudit.Proofs.Pattern.Replacing

/-!
# Where groups stand

A match keeps the texts of its groups, but not where they stand. Here the ways in which a pattern
matches at a place are listed once more, the preferred one first, and every group has its place.

* `ways`: the list; `outcomes_eq_map_ways`: its members lead to the outcomes, in the same order, by
  induction on the pattern.
* `exists_start_of_mem_kept`: a group stands inside the text that the pattern takes;
  `split_of_group?`: it is the part of the text at its place.
* `at?_eq_head?_ways`: the match is the first way.
-/

namespace TagAudit.Pattern

/-- A text that is kept under a number, and where it stands. -/
structure Kept where
  number : Nat
  start : Place
  text : Text

/-- One way in which a pattern matches: the text that it takes, and the groups, the latest first. -/
structure Way where
  text : Text
  kept : List Kept

/-- The place behind a group. -/
def Kept.stop (k : Kept) : Place := k.start.after k.text

/-- A group without its place. -/
def Kept.entry (k : Kept) : Nat × Text := (k.number, k.text)

/-- A way that keeps nothing. -/
def Way.bare (t : Text) : Way := ⟨t, []⟩

/-- One way after the other. -/
def Way.append (w v : Way) : Way := ⟨w.text ++ v.text, v.kept ++ w.kept⟩

/-- The outcome that a way leads to. -/
def Way.outcome (w : Way) (o : Outcome) : Outcome :=
  let y := o.place.after w.text
  ⟨y.offset, y.before, y.rest, w.kept.map Kept.entry ++ o.groups⟩

/-- The runs of a class at the front of a text, the longest first: at least `least` code points,
with `count` taken already. -/
def runTexts (cls : CharClass) (least : Nat) (most : Option Nat) (count : Nat) : Text → List Text
  | [] => if least ≤ count then [[]] else []
  | c :: rest =>
    (if most.all (count < ·) && cls.mem c then
      (runTexts cls least most (count + 1) rest).map (c :: ·) else []) ++
    if least ≤ count then [[]] else []

/-- The ways in which a pattern matches at a place, the preferred one first. -/
def ways : Pattern → Place → List Way
  | empty, _ => [.bare []]
  | one cls, x =>
    match x.rest with
    | c :: _ => if cls.mem c then [.bare [c]] else []
    | [] => []
  | many cls least most, x => (runTexts cls least most 0 x.rest).map .bare
  | seq p q, x => (ways p x).flatMap fun w => (ways q (x.after w.text)).map w.append
  | alt p q, x => ways p x ++ ways q x
  | group n p, x => (ways p x).map fun w => ⟨w.text, ⟨n, x, w.text⟩ :: w.kept⟩
  | notBehind cls, x => if ¬x.before.any cls.mem then [.bare []] else []
  | notAhead cls, x => if ¬x.rest.head?.any cls.mem then [.bare []] else []
  | boundary, x => if isBoundary x.before x.rest.head? then [.bare []] else []
  | start, x => if x.offset = 0 then [.bare []] else []
  | stop, x => if atStop x.rest then [.bare []] else []

theorem Way.outcome_bare_nil (o : Outcome) : (Way.bare []).outcome o = o := rfl

/-- What only looks at a place takes and keeps nothing. -/
theorem eq_bare_of_mem_look {condition : Prop} [Decidable condition] {w : Way}
    (h : w ∈ if condition then [Way.bare []] else []) : condition ∧ w = .bare [] := by
  split at h
  case isTrue hlook => exact ⟨hlook, List.mem_singleton.mp h⟩
  case isFalse => cases h

/-- One code point is taken from the front, and nothing is kept. -/
theorem mem_ways_one {cls : CharClass} {x : Place} {w : Way} :
    w ∈ (one cls).ways x ↔ ∃ c, x.rest.head? = some c ∧ cls.mem c = true ∧ w = .bare [c] := by
  rw [ways]
  cases x.rest with
  | nil => simp
  | cons c rest => by_cases hc : cls.mem c <;> simp [hc]

/-- The second pattern goes on where the first one stops. -/
theorem mem_ways_seq {p q : Pattern} {x : Place} {w : Way} :
    w ∈ (seq p q).ways x ↔ ∃ u ∈ p.ways x, ∃ v ∈ q.ways (x.after u.text), u.append v = w := by
  simp only [ways, List.mem_flatMap, List.mem_map]

/-! ## Runs -/

section

variable {cls : CharClass} {least : Nat} {most : Option Nat} {count : Nat} {text : Text}

theorem mem_runTexts {t : Text} (h : t ∈ runTexts cls least most count text) :
    t <+: text.takeWhile cls.mem := by
  induction text generalizing count t with
  | nil =>
    obtain rfl : t = [] := by
      rw [runTexts] at h
      split at h <;> simp_all
    exact List.nil_prefix
  | cons c rest ih =>
    rw [runTexts, List.mem_append] at h
    obtain h | h := h
    · split at h
      case isFalse => cases h
      case isTrue htake =>
        obtain ⟨r, hr, rfl⟩ := List.mem_map.mp h
        rw [Bool.and_eq_true] at htake
        rw [List.takeWhile_cons_of_pos htake.2]
        exact List.cons_prefix_cons.mpr ⟨rfl, ih hr⟩
    · obtain rfl : t = [] := by split at h <;> simp_all
      exact List.nil_prefix

theorem runTexts_ne_nil (h : least ≤ count) : runTexts cls least most count text ≠ [] := by
  cases text <;> simp [runTexts, h]

/-- **The preferred run** is the longest. -/
theorem head?_runTexts {bound : Nat} {t : Text}
    (h : (runTexts cls least (some bound) count text).head? = some t) :
    t = (text.takeWhile cls.mem).take (bound - count) := by
  induction text generalizing count t with
  | nil =>
    rw [runTexts] at h
    split at h <;> simp_all
  | cons c rest ih =>
    rw [runTexts] at h
    split at h
    case isTrue htake =>
      simp only [Option.all_some, Bool.and_eq_true, decide_eq_true_eq] at htake
      have hbound : bound - count = bound - (count + 1) + 1 := by omega
      rw [List.takeWhile_cons_of_pos htake.2, hbound, List.take_succ_cons]
      cases hlonger : runTexts cls least (some bound) (count + 1) rest with
      | nil =>
        -- Where a run may end here, a longer one may end further on.
        rw [hlonger, List.map_nil, List.nil_append] at h
        split at h
        case isTrue hleast => exact absurd hlonger (runTexts_ne_nil (by omega))
        case isFalse => cases h
      | cons r others =>
        rw [hlonger, List.map_cons, List.cons_append, List.head?_cons, Option.some.injEq] at h
        have hr : r = (rest.takeWhile cls.mem).take (bound - (count + 1)) :=
          ih (by rw [hlonger]; rfl)
        rw [← h, hr]
    case isFalse hstop =>
      obtain rfl : t = [] := by
        rw [List.nil_append] at h
        split at h <;> simp_all
      simp only [Option.all_some, Bool.and_eq_true, decide_eq_true_eq, not_and_or] at hstop
      obtain hcount | hc := hstop
      · rw [Nat.sub_eq_zero_of_le (Nat.not_lt.mp hcount), List.take_zero]
      · rw [List.takeWhile_cons_of_neg hc, List.take_nil]

/-- **A run**, with `count` code points taken already. -/
theorem runs_eq_map_runTexts {o : Outcome} {found : List Outcome} (ho : o.rest = text) :
    runs cls least most count o found text =
      (runTexts cls least most count text).map (fun t => (Way.bare t).outcome o) ++ found := by
  induction text generalizing count o found with
  | nil =>
    rw [runs, runTexts]
    split <;> simp [Way.outcome_bare_nil]
  | cons c rest ih =>
    have hcons (t : Text) :
        (Way.bare t).outcome (o.advance c rest) = (Way.bare (c :: t)).outcome o := by
      simp [Way.outcome, Way.bare, Outcome.place, Outcome.advance, Place.after_cons, Place.next, ho]
    rw [runs, runTexts]
    split
    case isTrue =>
      rw [ih rfl]
      simp only [hcons, List.map_append, List.map_map, List.append_assoc]
      split <;> simp [Way.outcome_bare_nil, Function.comp_def]
    case isFalse => split <;> simp [Way.outcome_bare_nil]

end

/-! ## Ways and outcomes -/

theorem prefix_of_mem_ways {p : Pattern} {x : Place} {w : Way} (h : w ∈ p.ways x) :
    w.text <+: x.rest := by
  induction p generalizing x w with
  | one cls =>
    obtain ⟨c, hc, -, rfl⟩ := mem_ways_one.mp h
    obtain ⟨rest, hrest⟩ := List.head?_eq_some_iff.mp hc
    exact ⟨rest, hrest.symm⟩
  | many cls least most =>
    obtain ⟨t, ht, rfl⟩ := List.mem_map.mp h
    exact (mem_runTexts ht).trans (List.takeWhile_prefix _)
  | seq p q ihp ihq =>
    obtain ⟨u, hu, v, hv, rfl⟩ := mem_ways_seq.mp h
    obtain ⟨behind, hbehind⟩ := ihp hu
    have hv := ihq hv
    rw [Place.rest_after_append hbehind.symm] at hv
    rw [← hbehind]
    exact (List.prefix_append_right_inj u.text).mpr hv
  | alt p q ihp ihq =>
    obtain h | h := List.mem_append.mp h
    · exact ihp h
    · exact ihq h
  | group n p ih =>
    obtain ⟨v, hv, rfl⟩ := List.mem_map.mp h
    exact ih (w := v) hv
  | empty =>
    obtain rfl := List.mem_singleton.mp h
    exact List.nil_prefix
  | notBehind | notAhead | boundary | start | stop =>
    obtain ⟨-, rfl⟩ := eq_bare_of_mem_look h
    exact List.nil_prefix

/-- **Ways** lead to the outcomes, in the same order. -/
theorem outcomes_eq_map_ways (p : Pattern) (o : Outcome) :
    p.outcomes o = (p.ways o.place).map (·.outcome o) := by
  induction p generalizing o with
  | empty => rfl
  | one cls =>
    have hplace : o.place.rest = o.rest := rfl
    rw [outcomes, ways, hplace]
    cases hrest : o.rest with
    | nil => rfl
    | cons c rest =>
      dsimp only
      split
      case isTrue =>
        simp [Way.outcome, Way.bare, Outcome.place, Outcome.advance, Place.next, hrest, Place.after]
      case isFalse => rfl
  | many cls least most =>
    rw [outcomes, runs_eq_map_runTexts rfl, List.append_nil, ways, List.map_map]
    rfl
  | seq p q ihp ihq =>
    rw [outcomes, ways, ihp, List.flatMap_map, List.map_flatMap]
    refine List.flatMap_congr fun w _ => ?_
    have hplace : (w.outcome o).place = o.place.after w.text := rfl
    rw [ihq, hplace, List.map_map]
    refine List.map_congr_left fun v _ => ?_
    simp [Way.outcome, Way.append, Outcome.place, Place.after_append]
  | alt p q ihp ihq => rw [outcomes, ways, ihp, ihq, List.map_append]
  | group n p ih =>
    rw [outcomes, ways, ih, List.map_map, List.map_map]
    refine List.map_congr_left fun w hw => ?_
    have htext : o.rest.take ((w.outcome o).offset - o.offset) = w.text := by
      have hoffset : (w.outcome o).offset = o.offset + w.text.length := Place.offset_after _ _
      rw [hoffset, Nat.add_sub_cancel_left]
      exact (List.prefix_iff_eq_take.mp (prefix_of_mem_ways hw)).symm
    simp only [Function.comp_apply, htext]
    rfl
  | notBehind | notAhead =>
    rw [outcomes, ways, apply_ite (List.map _), ← ite_not]
    rfl
  | boundary | start | stop =>
    rw [outcomes, ways, apply_ite (List.map _)]
    rfl

/-! ## Places of groups -/

/-- A group stands inside the text that the pattern takes. -/
theorem exists_start_of_mem_kept {p : Pattern} {x : Place} {w : Way} (hw : w ∈ p.ways x) {k : Kept}
    (hk : k ∈ w.kept) : ∃ t, k.start = x.after t ∧ t ++ k.text <+: w.text := by
  induction p generalizing x w with
  | group n p ih =>
    obtain ⟨v, hv, rfl⟩ := List.mem_map.mp hw
    obtain rfl | hk := List.mem_cons.mp hk
    · exact ⟨[], rfl, List.prefix_refl _⟩
    · exact ih (w := v) hv hk
  | seq p q ihp ihq =>
    obtain ⟨u, hu, v, hv, rfl⟩ := mem_ways_seq.mp hw
    obtain hk | hk := List.mem_append.mp hk
    · obtain ⟨t, hstart, ht⟩ := ihq hv hk
      refine ⟨u.text ++ t, by rw [hstart, Place.after_append], ?_⟩
      rw [List.append_assoc]
      exact (List.prefix_append_right_inj u.text).mpr ht
    · obtain ⟨t, hstart, ht⟩ := ihp hu hk
      exact ⟨t, hstart, ht.trans (List.prefix_append _ _)⟩
  | alt p q ihp ihq =>
    obtain hw | hw := List.mem_append.mp hw
    · exact ihp hw hk
    · exact ihq hw hk
  | many cls least most =>
    obtain ⟨t, -, rfl⟩ := List.mem_map.mp hw
    cases hk
  | one cls =>
    obtain ⟨c, -, -, rfl⟩ := mem_ways_one.mp hw
    cases hk
  | empty =>
    obtain rfl := List.mem_singleton.mp hw
    cases hk
  | notBehind | notAhead | boundary | start | stop =>
    obtain ⟨-, rfl⟩ := eq_bare_of_mem_look hw
    cases hk

/-- The group of a way under a number; group 0 is all that the pattern takes at `x`. -/
def Way.group? (w : Way) (x : Place) (number : Nat) : Option Kept :=
  if number = 0 then some ⟨0, x, w.text⟩ else w.kept.find? fun k => k.number == number

theorem exists_start_of_group? {p : Pattern} {x : Place} {w : Way} (hw : w ∈ p.ways x)
    {number : Nat} {k : Kept} (hk : w.group? x number = some k) :
    ∃ t, k.start = x.after t ∧ t ++ k.text <+: w.text := by
  rw [Way.group?] at hk
  split at hk
  case isTrue =>
    cases hk
    exact ⟨[], rfl, List.prefix_refl _⟩
  case isFalse => exact exists_start_of_mem_kept hw (List.mem_of_find?_eq_some hk)

/-- A group stands in the text where its place says, between what is in front and what is behind. -/
theorem split_of_group? {p : Pattern} {text front : Text} {w : Way} (hfront : front <+: text)
    (hw : w ∈ p.ways ((Place.start text).after front)) {number : Nat} {k : Kept}
    (hk : w.group? ((Place.start text).after front) number = some k) :
    k.start.rest = k.text ++ k.stop.rest ∧
      text.take k.start.offset ++ (k.text ++ k.stop.rest) = text := by
  obtain ⟨rest, htext⟩ := hfront
  obtain ⟨t, hstart, ht⟩ := exists_start_of_group? hw hk
  obtain ⟨behind, hbehind⟩ := ht.trans (prefix_of_mem_ways hw)
  rw [Place.rest_after_append (x := .start text) htext.symm] at hbehind
  rw [← Place.after_append] at hstart
  have hsplit : front ++ t ++ (k.text ++ behind) = text := by
    rw [← htext, ← hbehind, List.append_assoc, List.append_assoc]
  have hstartRest : k.start.rest = k.text ++ behind := by
    rw [hstart]
    exact Place.rest_after_append hsplit.symm
  have hstopRest : k.stop.rest = behind := Place.rest_after_append hstartRest
  have hoffset : k.start.offset = (front ++ t).length := by
    rw [hstart, Place.offset_after]
    exact Nat.zero_add _
  have hlead : text.take k.start.offset = front ++ t := by
    rw [hoffset]
    exact (List.prefix_iff_eq_take.mp ⟨_, hsplit⟩).symm
  exact ⟨by rw [hstopRest, hstartRest], by rw [hlead, hstopRest, hsplit]⟩

/-- **The match** at a place is the preferred way. -/
theorem at?_eq_head?_ways (p : Pattern) (x : Place) :
    p.at? x = (p.ways x).head?.map fun w =>
      ⟨x.offset, w.text, x.rest, w.kept.map Kept.entry⟩ := by
  have houtcome : x.outcome.place = x := rfl
  have hat : p.at? x = (p.outcomes x.outcome).head?.map fun o =>
      ⟨x.offset, x.rest.take (o.offset - x.offset), x.rest, o.groups⟩ := rfl
  rw [hat, outcomes_eq_map_ways, houtcome, List.head?_map, Option.map_map]
  cases hways : (p.ways x).head? with
  | none => rfl
  | some w =>
    have htext : x.rest.take ((w.outcome x.outcome).offset - x.offset) = w.text := by
      have hoffset : (w.outcome x.outcome).offset = x.offset + w.text.length :=
        Place.offset_after _ _
      rw [hoffset, Nat.add_sub_cancel_left]
      exact (List.prefix_iff_eq_take.mp (prefix_of_mem_ways (List.mem_of_mem_head? hways))).symm
    simp only [Option.map_some, Function.comp_apply, htext]
    simp only [Way.outcome, Place.outcome, List.append_nil]

theorem exists_way_of_at? {p : Pattern} {x : Place} {m : Match} (h : p.at? x = some m) :
    ∃ w, (p.ways x).head? = some w ∧
      ∀ number, m.group? number = (w.group? x number).map (·.text) := by
  rw [at?_eq_head?_ways] at h
  obtain ⟨w, hw, rfl⟩ := Option.map_eq_some_iff.mp h
  refine ⟨w, hw, fun number => ?_⟩
  unfold Match.group? Way.group?
  split
  case isTrue => rfl
  case isFalse =>
    rw [List.find?_map, Option.map_map]
    rfl

end TagAudit.Pattern
