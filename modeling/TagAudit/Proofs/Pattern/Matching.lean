import Mathlib.Data.List.Infix
import TagAudit.Pattern.Basic

/-!
# What patterns match

`Pattern.outcomes` lists the ways in which a pattern matches. Here the texts that a pattern takes
are described without a list and without an order, and the search for matches is described by where
it looks.

* `Takes`: the texts that a pattern takes at a place.
* `exists_outcome_iff`: the outcomes are the places behind these texts, by induction on the pattern.
* `at?_eq_none_iff`, `at?_sound`: the match at one place.
* `search?_eq_findSome?`: the first match is the one at the first place that has one.
* `findAll_eq_filterMap`: all matches are those at all places, if none begins inside another one.
-/

namespace TagAudit.Pattern

/-! ## Places -/

/-- Where a matcher stands: how many code points stand in front, the last of them, and what
follows. -/
structure Place where
  offset : Nat
  before : Option CodePoint
  rest : Text

namespace Place

/-- The start of a text. -/
def start (text : Text) : Place := ⟨0, none, text⟩

/-- The place behind one more code point. -/
def next (x : Place) (c : CodePoint) : Place := ⟨x.offset + 1, some c, x.rest.tail⟩

/-- The place behind a text. -/
def after (x : Place) (t : Text) : Place := t.foldl next x

theorem after_append (x : Place) (s t : Text) : x.after (s ++ t) = (x.after s).after t :=
  List.foldl_append ..

theorem after_cons (x : Place) (c : CodePoint) (t : Text) : x.after (c :: t) = (x.next c).after t :=
  rfl

theorem rest_after (x : Place) (t : Text) : (x.after t).rest = x.rest.drop t.length := by
  induction t generalizing x with
  | nil => rfl
  | cons c t ih =>
    rw [after_cons, ih, next, List.length_cons, ← List.drop_one, List.drop_drop, Nat.add_comm]

theorem offset_after (x : Place) (t : Text) : (x.after t).offset = x.offset + t.length := by
  induction t generalizing x with
  | nil => rfl
  | cons c t ih =>
    have hnext : (x.next c).offset = x.offset + 1 := rfl
    rw [after_cons, ih, hnext, List.length_cons]
    omega

theorem rest_after_append {x : Place} {s t : Text} (h : x.rest = s ++ t) :
    (x.after s).rest = t := by
  rw [rest_after, h, List.drop_left]

end Place

/-- Where an outcome stands. -/
def Outcome.place (o : Outcome) : Place := ⟨o.offset, o.before, o.rest⟩

/-! ## Texts that a pattern takes -/

/-- The texts that a pattern takes at a place. -/
def Takes : Pattern → Place → Text → Prop
  | empty, _, t => t = []
  | one cls, _, t => ∃ c, t = [c] ∧ cls.mem c = true
  | many cls least most, _, t =>
    (∀ c ∈ t, cls.mem c = true) ∧ least ≤ t.length ∧ ∀ bound ∈ most, t.length ≤ bound
  | seq p q, x, t => ∃ u v, t = u ++ v ∧ Takes p x u ∧ Takes q (x.after u) v
  | alt p q, x, t => Takes p x t ∨ Takes q x t
  | group _ p, x, t => Takes p x t
  | notBehind cls, x, t => t = [] ∧ ¬x.before.any cls.mem = true
  | notAhead cls, x, t => t = [] ∧ ¬x.rest.head?.any cls.mem = true
  | boundary, x, t => t = [] ∧ isBoundary x.before x.rest.head? = true
  | start, x, t => t = [] ∧ x.offset = 0
  | stop, x, t => t = [] ∧ atStop x.rest = true

theorem takes_all_cons {p : Pattern} {ps : List Pattern} {x : Place} {t : Text} :
    Takes (all (p :: ps)) x t ↔ ∃ u v, t = u ++ v ∧ Takes p x u ∧ Takes (all ps) (x.after u) v := by
  cases ps with
  | nil => simp [all, Takes]
  | cons q ps => rfl

theorem mem_anyOf {t : Text} {c : CodePoint} : (CharClass.anyOf t).mem c = true ↔ c ∈ t := by
  have hrange (d : CodePoint) : (ClassItem.range d.val d.val).mem c = true ↔ c = d := by
    simp only [ClassItem.mem, Bool.and_eq_true, decide_eq_true_eq, CodePoint.ext_iff]
    omega
  simp [CharClass.anyOf, CharClass.mem, hrange]

theorem takes_literal {w : Text} {x : Place} {t : Text} : Takes (literal w) x t ↔ t = w := by
  unfold literal
  induction w generalizing x t with
  | nil => rfl
  | cons c w ih =>
    rw [List.map_cons, takes_all_cons]
    constructor
    · rintro ⟨_, v, rfl, ⟨d, rfl, hd⟩, hv⟩
      rw [List.mem_singleton.mp (mem_anyOf.mp hd), ih.mp hv]
      rfl
    · rintro rfl
      exact ⟨[c], w, rfl, ⟨c, rfl, mem_anyOf.mpr (List.mem_singleton.mpr rfl)⟩, ih.mpr rfl⟩

/-! ## Outcomes -/

theorem exists_stay_iff {condition : Prop} [Decidable condition] {o : Outcome}
    {found : List Outcome} {y : Place} :
    (∃ r ∈ if condition then o :: found else found, r.place = y) ↔
      (∃ r ∈ found, r.place = y) ∨ condition ∧ y = o.place := by
  split
  case isTrue h => simp [h, eq_comm, or_comm]
  case isFalse h => simp [h]

section

variable {cls : CharClass} {least : Nat} {most : Option Nat} {count : Nat}

/-- The runs of a class in front of a text, with `count` code points taken already. -/
def IsRun (cls : CharClass) (least : Nat) (most : Option Nat) (count : Nat) (text t : Text) :
    Prop :=
  t <+: text ∧ (∀ c ∈ t, cls.mem c = true) ∧ least ≤ count + t.length ∧
    ∀ bound ∈ most, t = [] ∨ count + t.length ≤ bound

theorem isRun_nil {text : Text} : IsRun cls least most count text [] ↔ least ≤ count := by
  simp [IsRun]

theorem isRun_cons {c d : CodePoint} {rest t : Text} :
    IsRun cls least most count (c :: rest) (d :: t) ↔
      d = c ∧ (most.all (count < ·) && cls.mem c) = true ∧
        IsRun cls least most (count + 1) rest t := by
  simp only [IsRun, Bool.and_eq_true, Option.all_eq_true, decide_eq_true_eq, List.length_cons,
    List.cons_prefix_cons, List.forall_mem_cons]
  constructor
  · rintro ⟨⟨rfl, ht⟩, ⟨hd, hall⟩, hleast, hbound⟩
    have hle (bound : Nat) (hb : bound ∈ most) : count + (t.length + 1) ≤ bound :=
      (hbound bound hb).resolve_left (List.cons_ne_nil d t)
    refine ⟨rfl, ⟨fun bound hb => ?_, hd⟩, ht, hall, by omega, fun bound hb => .inr ?_⟩
    · have := hle bound hb
      omega
    · have := hle bound hb
      omega
  · rintro ⟨rfl, ⟨hmost, hd⟩, ht, hall, hleast, hbound⟩
    refine ⟨⟨rfl, ht⟩, ⟨hd, hall⟩, by omega, fun bound hb => .inr ?_⟩
    have := hmost bound hb
    obtain rfl | hle := hbound bound hb
    · exact this
    · omega

/-- Where a run cannot go on, it ends. -/
theorem exists_isRun_stop {text : Text} {x y : Place}
    (h : ∀ d t, ¬IsRun cls least most count text (d :: t)) :
    (∃ t, IsRun cls least most count text t ∧ y = x.after t) ↔ least ≤ count ∧ y = x := by
  constructor
  · rintro ⟨t, ht, rfl⟩
    cases t with
    | nil => exact ⟨isRun_nil.mp ht, rfl⟩
    | cons d t => exact absurd ht (h d t)
  · rintro ⟨hleast, rfl⟩
    exact ⟨[], isRun_nil.mpr hleast, rfl⟩

/-- Where a run can go on, it ends or goes on. -/
theorem exists_isRun_cons {c : CodePoint} {rest : Text} {x y : Place}
    (h : (most.all (count < ·) && cls.mem c) = true) :
    (∃ t, IsRun cls least most count (c :: rest) t ∧ y = x.after t) ↔
      (least ≤ count ∧ y = x) ∨
        ∃ t, IsRun cls least most (count + 1) rest t ∧ y = (x.next c).after t := by
  constructor
  · rintro ⟨t, ht, rfl⟩
    cases t with
    | nil => exact .inl ⟨isRun_nil.mp ht, rfl⟩
    | cons d t =>
      obtain ⟨rfl, -, ht'⟩ := isRun_cons.mp ht
      exact .inr ⟨t, ht', rfl⟩
  · rintro (⟨hleast, rfl⟩ | ⟨t, ht, rfl⟩)
    · exact ⟨[], isRun_nil.mpr hleast, rfl⟩
    · exact ⟨c :: t, isRun_cons.mpr ⟨rfl, h, ht⟩, rfl⟩

theorem Outcome.place_advance {o : Outcome} {c : CodePoint} {rest : Text} (h : o.rest = c :: rest) :
    (o.advance c rest).place = o.place.next c := by
  simp [Outcome.place, Outcome.advance, Place.next, h]

/-- **A run** reaches the places behind the runs. -/
theorem exists_run_iff {o : Outcome} {found : List Outcome} {text : Text} (ho : o.rest = text)
    {y : Place} :
    (∃ r ∈ runs cls least most count o found text, r.place = y) ↔
      (∃ r ∈ found, r.place = y) ∨
        ∃ t, IsRun cls least most count text t ∧ y = o.place.after t := by
  induction text generalizing count o found with
  | nil =>
    have hstop (d : CodePoint) (t : Text) : ¬IsRun cls least most count [] (d :: t) :=
      fun h => absurd (List.prefix_nil.mp h.1) (List.cons_ne_nil d t)
    rw [runs, exists_stay_iff, exists_isRun_stop hstop]
  | cons c rest ih =>
    rw [runs]
    split
    case isTrue htake =>
      rw [ih rfl, exists_stay_iff, or_assoc, Outcome.place_advance ho, exists_isRun_cons htake]
    case isFalse htake =>
      rw [exists_stay_iff, exists_isRun_stop fun d t h => htake (isRun_cons.mp h).2.1]

end

/-- A place leads to those behind the texts that a pattern takes there. -/
def Leads (p : Pattern) (x y : Place) : Prop := ∃ t, t <+: x.rest ∧ Takes p x t ∧ y = x.after t

theorem leads_seq {p q : Pattern} {x y : Place} :
    Leads (seq p q) x y ↔ ∃ z, Leads p x z ∧ Leads q z y := by
  constructor
  · rintro ⟨_, ⟨w, hw⟩, ⟨u, v, rfl, hu, hv⟩, rfl⟩
    rw [List.append_assoc] at hw
    have hrest : (x.after u).rest = v ++ w := Place.rest_after_append hw.symm
    exact ⟨x.after u, ⟨u, ⟨v ++ w, hw⟩, hu, rfl⟩, v, ⟨w, hrest.symm⟩, hv, Place.after_append x u v⟩
  · rintro ⟨_, ⟨u, ⟨w, hw⟩, hu, rfl⟩, v, hv, htakes, rfl⟩
    rw [Place.rest_after_append hw.symm] at hv
    refine ⟨u ++ v, ?_, ⟨u, v, rfl, hu, htakes⟩, (Place.after_append x u v).symm⟩
    rw [← hw]
    exact (List.prefix_append_right_inj u).mpr hv

theorem leads_many {cls : CharClass} {least : Nat} {most : Option Nat} {x y : Place} :
    Leads (many cls least most) x y ↔ ∃ t, IsRun cls least most 0 x.rest t ∧ y = x.after t := by
  have hbound (t : Text) (bound : Nat) : t = [] ∨ t.length ≤ bound ↔ t.length ≤ bound :=
    or_iff_right_of_imp (by rintro rfl; exact Nat.zero_le bound)
  simp only [Leads, Takes, IsRun, Nat.zero_add, hbound, and_assoc]

/-- One code point is taken, or nothing is. -/
theorem exists_one_iff {cls : CharClass} {o : Outcome} {y : Place} :
    (∃ r ∈ (one cls).outcomes o, r.place = y) ↔ Leads (one cls) o.place y := by
  rw [outcomes]
  cases hrest : o.rest with
  | nil => simp [Leads, Takes, Outcome.place, hrest]
  | cons c rest =>
    have hplace : (o.advance c rest).place = o.place.after [c] := Outcome.place_advance hrest
    have hrest' : o.place.rest = c :: rest := hrest
    constructor
    · rintro ⟨r, hr, rfl⟩
      obtain ⟨hc, hr⟩ := List.mem_ite_nil_right.mp hr
      obtain rfl := List.mem_singleton.mp hr
      exact ⟨[c], by simp [hrest'], ⟨c, rfl, hc⟩, hplace⟩
    · rintro ⟨_, ht, ⟨d, rfl, hd⟩, rfl⟩
      rw [hrest'] at ht
      obtain ⟨rfl, -⟩ := List.cons_prefix_cons.mp ht
      exact ⟨_, List.mem_ite_nil_right.mpr ⟨hd, List.mem_singleton.mpr rfl⟩, hplace⟩

/-- What only looks at a place leaves it or fails. -/
theorem exists_look_iff {condition : Prop} [Decidable condition] {o : Outcome} {y : Place} :
    (∃ r ∈ if condition then [o] else [], r.place = y) ↔
      ∃ t, t <+: o.rest ∧ (t = [] ∧ condition) ∧ y = o.place.after t := by
  rw [exists_stay_iff]
  constructor
  · rintro (⟨_, h, -⟩ | ⟨h, rfl⟩)
    · cases h
    · exact ⟨[], List.nil_prefix, ⟨rfl, h⟩, rfl⟩
  · rintro ⟨t, -, ⟨rfl, h⟩, rfl⟩
    exact .inr ⟨h, rfl⟩

/-- **Outcomes** stand behind the texts that the pattern takes. -/
theorem exists_outcome_iff {p : Pattern} {o : Outcome} {y : Place} :
    (∃ r ∈ p.outcomes o, r.place = y) ↔ Leads p o.place y := by
  induction p generalizing o y with
  | empty =>
    have h : (∃ r ∈ if True then [o] else [], r.place = y) ↔ _ := exists_look_iff
    simpa [outcomes, Leads, Takes] using h
  | one cls => exact exists_one_iff
  | many cls least most =>
    rw [outcomes, exists_run_iff rfl, leads_many]
    exact or_iff_right (by rintro ⟨_, h, -⟩; cases h)
  | seq p q ihp ihq =>
    rw [outcomes, leads_seq]
    constructor
    · rintro ⟨r, hr, rfl⟩
      obtain ⟨r', hr', hr⟩ := List.mem_flatMap.mp hr
      exact ⟨r'.place, ihp.mp ⟨r', hr', rfl⟩, ihq.mp ⟨r, hr, rfl⟩⟩
    · rintro ⟨_, hp, hq⟩
      obtain ⟨r', hr', rfl⟩ := ihp.mpr hp
      obtain ⟨r, hr, rfl⟩ := ihq.mpr hq
      exact ⟨r, List.mem_flatMap.mpr ⟨r', hr', hr⟩, rfl⟩
  | alt p q ihp ihq =>
    rw [outcomes]
    simp only [List.mem_append, or_and_right, exists_or, ihp, ihq, Leads, Takes, and_or_left]
  | group n p ih =>
    have hgroup : Leads (group n p) o.place y ↔ Leads p o.place y := Iff.rfl
    rw [outcomes, hgroup, ← ih]
    simp only [List.mem_map]
    constructor
    · rintro ⟨_, ⟨r, hr, rfl⟩, rfl⟩
      exact ⟨r, hr, rfl⟩
    · rintro ⟨r, hr, rfl⟩
      exact ⟨_, ⟨r, hr, rfl⟩, rfl⟩
  | notBehind cls | notAhead cls =>
    rw [outcomes, ← ite_not]
    exact exists_look_iff
  | boundary => exact exists_look_iff
  | start => exact exists_look_iff
  | stop => exact exists_look_iff

/-! ## One place -/

/-- The match of a pattern at a place. -/
def at? (p : Pattern) (x : Place) : Option Match := p.matchAt? x.offset x.before x.rest

/-- The outcome that a match at a place begins with. -/
def Place.outcome (x : Place) : Outcome := ⟨x.offset, x.before, x.rest, []⟩

theorem at?_eq_none_iff {p : Pattern} {x : Place} :
    p.at? x = none ↔ ∀ t, t <+: x.rest → ¬Takes p x t := by
  have hnone : p.at? x = none ↔ ∀ r, r ∉ p.outcomes x.outcome := by
    unfold at? matchAt?
    rw [Option.map_eq_none_iff, List.head?_eq_none_iff, List.eq_nil_iff_forall_not_mem]
    rfl
  rw [hnone]
  constructor
  · intro h t ht htakes
    obtain ⟨r, hr, -⟩ := (exists_outcome_iff (o := x.outcome)).mpr ⟨t, ht, htakes, rfl⟩
    exact h r hr
  · intro h r hr
    obtain ⟨t, ht, htakes, -⟩ := exists_outcome_iff.mp ⟨r, hr, rfl⟩
    exact h t ht htakes

theorem isSome_at?_iff {p : Pattern} {x : Place} :
    (p.at? x).isSome = true ↔ ∃ t, t <+: x.rest ∧ Takes p x t := by
  rw [← not_iff_not, Bool.not_eq_true, Option.isSome_eq_false_iff, Option.isNone_iff_eq_none,
    at?_eq_none_iff]
  simp only [not_exists, not_and]

/-- **A match** takes its text from the front. -/
theorem at?_sound {p : Pattern} {x : Place} {m : Match} (h : p.at? x = some m) :
    m.offset = x.offset ∧ m.here = x.rest ∧ m.text <+: x.rest ∧ Takes p x m.text := by
  obtain ⟨r, hr, rfl⟩ := Option.map_eq_some_iff.mp h
  obtain ⟨t, ht, htakes, hplace⟩ :=
    (exists_outcome_iff (o := x.outcome)).mp ⟨r, List.mem_of_mem_head? hr, rfl⟩
  have hoffset : r.offset = x.offset + t.length := by
    have := congrArg Place.offset hplace
    rwa [Place.offset_after] at this
  have htext : x.rest.take (r.offset - x.offset) = t := by
    rw [hoffset, Nat.add_sub_cancel_left]
    exact (List.prefix_iff_eq_take.mp ht).symm
  refine ⟨rfl, rfl, ?_, ?_⟩
  · rw [htext]
    exact ht
  · rw [htext]
    exact htakes

/-! ## The first place -/

section

variable {α : Type} {f : Text → Option α}

theorem findSome?_inits_cons (c : CodePoint) (rest : Text) :
    (c :: rest).inits.findSome? f =
      (f []).or (rest.inits.findSome? fun t => f (c :: t)) := by
  rw [List.inits_cons, List.findSome?_cons, List.findSome?_map]
  cases f [] <;> rfl

/-- The first beginning of a text for which something is found. -/
theorem findSome?_inits_eq_some_iff {text : Text} {b : α} :
    text.inits.findSome? f = some b ↔ ∃ t, t <+: text ∧ f t = some b ∧
      ∀ u, u <+: text → u.length < t.length → f u = none := by
  induction text generalizing f with
  | nil => simp
  | cons c rest ih =>
    rw [findSome?_inits_cons]
    cases hnil : f [] with
    | some a =>
      rw [Option.some_or]
      constructor
      · rintro ⟨⟩
        exact ⟨[], List.nil_prefix, hnil, fun u _ hu => by cases hu⟩
      · rintro ⟨t, ht, hb, hfirst⟩
        cases t with
        | nil => rw [← hnil, hb]
        | cons d t =>
          have := hfirst [] List.nil_prefix (by simp)
          rw [hnil] at this
          cases this
    | none =>
      rw [Option.none_or, ih]
      constructor
      · rintro ⟨t, ht, hb, hfirst⟩
        refine ⟨c :: t, List.cons_prefix_cons.mpr ⟨rfl, ht⟩, hb, fun u hu hlen => ?_⟩
        cases u with
        | nil => exact hnil
        | cons d u =>
          obtain ⟨rfl, hu'⟩ := List.cons_prefix_cons.mp hu
          exact hfirst u hu' (by simpa using hlen)
      · rintro ⟨t, ht, hb, hfirst⟩
        cases t with
        | nil => rw [hnil] at hb; cases hb
        | cons d t =>
          obtain ⟨rfl, ht'⟩ := List.cons_prefix_cons.mp ht
          refine ⟨t, ht', hb, fun u hu hlen => ?_⟩
          exact hfirst (d :: u) (List.cons_prefix_cons.mpr ⟨rfl, hu⟩) (by simpa using hlen)

end

theorem searchFrom?_eq_findSome? (p : Pattern) (x : Place) :
    p.searchFrom? x.offset x.before x.rest = x.rest.inits.findSome? fun t => p.at? (x.after t) := by
  obtain ⟨offset, before, rest⟩ := x
  induction rest generalizing offset before with
  | nil =>
    rw [searchFrom?, List.inits, List.findSome?_singleton]
    rfl
  | cons c rest ih =>
    have hrest := ih (offset + 1) (some c)
    rw [findSome?_inits_cons, searchFrom?, hrest]
    unfold at?
    simp only [Place.after, List.foldl_nil, List.foldl_cons, Place.next, List.tail_cons]
    cases p.matchAt? offset before (c :: rest) <;> rfl

/-- **The first match** is the one at the first place that has one. -/
theorem search?_eq_findSome? (p : Pattern) (text : Text) :
    p.search? text = text.inits.findSome? fun t => p.at? ((Place.start text).after t) :=
  searchFrom?_eq_findSome? p (.start text)

/-! ## All places -/

/-- No match begins inside another one, and none is empty. -/
def Separate (p : Pattern) : Prop :=
  ∀ (x : Place) (m : Match), p.at? x = some m →
    m.text ≠ [] ∧ ∀ t, t <+: m.text → t ≠ [] → t.length < m.text.length → p.at? (x.after t) = none

theorem filterMap_inits_cons {α : Type} (f : Text → Option α) (c : CodePoint) (rest : Text) :
    (c :: rest).inits.filterMap f =
      (f []).toList ++ rest.inits.filterMap fun t => f (c :: t) := by
  rw [List.inits_cons, List.filterMap_cons, List.filterMap_map]
  cases f [] <;> rfl

/-- In the text of a match there is no other one behind its start. -/
theorem Separate.at?_inside {p : Pattern} (hp : p.Separate) {x : Place} {m : Match}
    (h : p.at? x = some m) {t : Text} (ht : t <+: x.rest) (hne : t ≠ [])
    (hlen : t.length < m.text.length) : p.at? (x.after t) = none := by
  obtain ⟨-, -, hm, -⟩ := at?_sound h
  exact (hp x m h).2 t (List.prefix_of_prefix_length_le ht hm hlen.le) hne hlen

/-- What was found already stands in front. -/
theorem findFrom_append {p : Pattern} (done : List Match) (skip offset : Nat)
    (before : Option CodePoint) (text : Text) : p.findFrom done skip offset before text =
      done.reverse ++ p.findFrom [] skip offset before text := by
  induction text generalizing done skip offset before with
  | nil => cases hat : p.matchAt? offset before [] <;> cases skip <;> simp [findFrom, hat]
  | cons c rest ih =>
    cases skip with
    | succ skip => exact ih done skip _ _
    | zero =>
      rw [findFrom, findFrom]
      cases p.matchAt? offset before (c :: rest) with
      | none => exact ih done 0 _ _
      | some m =>
        dsimp only
        rw [ih (m :: done), ih [m], List.reverse_cons, List.append_assoc]
        rfl

/-- Matches are sought from a place on, after `skip` places that have none. -/
theorem findFrom_eq {p : Pattern} (hp : p.Separate) (skip : Nat) (x : Place)
    (hskip : ∀ t, t <+: x.rest → t.length < skip → p.at? (x.after t) = none) :
    p.findFrom [] skip x.offset x.before x.rest =
      x.rest.inits.filterMap fun t => p.at? (x.after t) := by
  obtain ⟨offset, before, rest⟩ := x
  induction rest generalizing skip offset before with
  | nil =>
    cases skip with
    | zero => cases hat : p.matchAt? offset before [] <;> simp [findFrom, hat, at?, Place.after]
    | succ skip =>
      have hnone : p.at? ⟨offset, before, []⟩ = none :=
        hskip [] List.nil_prefix (Nat.succ_pos skip)
      simp [findFrom, Place.after, hnone]
  | cons c rest ih =>
    have hcons (t : Text) : Place.after ⟨offset, before, c :: rest⟩ (c :: t) =
        Place.after ⟨offset + 1, some c, rest⟩ t := rfl
    have hfront {t : Text} (ht : t <+: rest) : c :: t <+: c :: rest :=
      List.cons_prefix_cons.mpr ⟨rfl, ht⟩
    rw [filterMap_inits_cons]
    simp only [hcons]
    cases skip with
    | succ skip =>
      have hnone : p.at? ⟨offset, before, c :: rest⟩ = none :=
        hskip [] List.nil_prefix (Nat.succ_pos skip)
      have hrest := ih skip (offset + 1) (some c) fun t ht hlen =>
        hskip (c :: t) (hfront ht) (Nat.succ_lt_succ hlen)
      rw [findFrom, hrest, Place.after, List.foldl_nil, hnone]
      rfl
    | zero =>
      rw [findFrom]
      cases hat : p.matchAt? offset before (c :: rest) with
      | none =>
        have hnone : p.at? ⟨offset, before, c :: rest⟩ = none := hat
        have hrest := ih 0 (offset + 1) (some c) fun _ _ h => absurd h (Nat.not_lt_zero _)
        rw [Place.after, List.foldl_nil, hnone]
        exact hrest
      | some m =>
        have hsome : p.at? ⟨offset, before, c :: rest⟩ = some m := hat
        have hrest := ih (m.text.length - 1) (offset + 1) (some c) fun t ht hlen =>
          hp.at?_inside hsome (hfront ht) (List.cons_ne_nil c t) (Nat.add_lt_of_lt_sub hlen)
        rw [Place.after, List.foldl_nil, hsome]
        dsimp only
        rw [findFrom_append, hrest]
        rfl

/-- What was found already is found. -/
theorem mem_findFrom {p : Pattern} {m : Match} {done : List Match} (hm : m ∈ done)
    (skip offset : Nat) (before : Option CodePoint) (text : Text) :
    m ∈ p.findFrom done skip offset before text := by
  induction text generalizing done skip offset before with
  | nil => cases hat : p.matchAt? offset before [] <;> cases skip <;> simp [findFrom, hat, hm]
  | cons c rest ih =>
    cases skip with
    | succ skip => exact ih hm _ _ _
    | zero =>
      rw [findFrom]
      cases p.matchAt? offset before (c :: rest) with
      | none => exact ih hm _ _ _
      | some found => exact ih (List.mem_cons_of_mem _ hm) _ _ _

/-- A match at the start is one of all matches. -/
theorem mem_findAll_of_start {p : Pattern} {text : Text} {m : Match}
    (h : p.at? (.start text) = some m) : m ∈ p.findAll text := by
  have hat : p.matchAt? 0 none text = some m := h
  unfold findAll
  cases text with
  | nil => simp [findFrom, hat]
  | cons c rest =>
    rw [findFrom, hat]
    exact mem_findFrom List.mem_cons_self _ _ _ _

/-- **All matches** are those at all places. -/
theorem findAll_eq_filterMap {p : Pattern} (hp : p.Separate) (text : Text) :
    p.findAll text = text.inits.filterMap fun t => p.at? ((Place.start text).after t) :=
  findFrom_eq hp 0 (.start text) fun _ _ h => absurd h (Nat.not_lt_zero _)

end TagAudit.Pattern
