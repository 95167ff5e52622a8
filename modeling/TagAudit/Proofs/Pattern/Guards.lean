import Mathlib.Data.List.TakeWhile
import TagAudit.Proofs.Pattern.Ways

/-!
# What follows a group

A group that is followed by something else than a class of code points, or by a look ahead, cannot
stand in front of that class. Whether a pattern is made like that is read off the pattern, and what
is read off holds at every place.

* `covers`, `avoids`: two classes, compared code point by code point where that is possible.
* `opensOutside`, `bars`, `closes`: what a pattern says about the code point in front of which it
  matches, and about the one behind what it takes.
* `guards`: whether a group cannot stand in front of a class; `faces_of_guards` is its soundness.
* `endsInRun`: whether a pattern ends with a group for a run of bounded length; then
  `text_of_endsInRun` says how much of the run it takes.
-/

namespace TagAudit

/-! ## Classes -/

namespace CharClass

/-- The decimal digits of any script. -/
def decimals : CharClass := { items := [.decimal] }

/-- The decimal digits of ASCII. -/
def asciiDigits : CharClass := { items := [.range 0x30 0x39] }

/-- Whether a class is what its items hold. -/
def isPlain (cls : CharClass) : Bool := !cls.negated && !cls.caseless

/-- Whether something holds of all code points from one number to another one. -/
def allBetween (low high : Nat) (f : CodePoint → Bool) : Bool :=
  (List.range' low (high + 1 - low)).all fun n => f (.ofNat n)

/-- Whether a class holds every code point of another one, as far as its items tell. -/
def covers (outer inner : CharClass) : Bool :=
  inner.isPlain && outer.isPlain && inner.items.all fun
    | .range low high => allBetween low high outer.mem
    | item => item ∈ outer.items

/-- Whether a class holds no code point of another one, as far as its items tell. -/
def avoids (cls other : CharClass) : Bool :=
  cls.isPlain && cls.items.all fun
    | .range low high => allBetween low high (!other.mem ·)
    | _ => false

variable {cls inner outer : CharClass} {c : CodePoint}

theorem mem_of_isPlain (h : cls.isPlain = true) : cls.mem c = cls.items.any (·.mem c) := by
  simp only [isPlain, Bool.and_eq_true, Bool.not_eq_true'] at h
  simp [mem, h.1, h.2]

theorem mem_decimals : decimals.mem c = c.isDecimal := by
  simp [mem_of_isPlain, isPlain, decimals, ClassItem.mem]

theorem mem_asciiDigits : asciiDigits.mem c = c.isAsciiDigit := by
  simp [mem_of_isPlain, isPlain, asciiDigits, ClassItem.mem, CodePoint.isAsciiDigit]

theorem of_allBetween {low high : Nat} {f : CodePoint → Bool} (h : allBetween low high f = true)
    (hc : (ClassItem.range low high).mem c = true) : f c = true := by
  simp only [ClassItem.mem, Bool.and_eq_true, decide_eq_true_eq] at hc
  have hself : CodePoint.ofNat c.val = c := CodePoint.ext (CodePoint.val_ofNat c.lt)
  have hf := List.all_eq_true.mp h c.val (List.mem_range'_1.mpr (by omega))
  rwa [hself] at hf

theorem mem_of_covers (h : outer.covers inner = true) (hc : inner.mem c = true) :
    outer.mem c = true := by
  simp only [covers, Bool.and_eq_true] at h
  obtain ⟨⟨hinner, houter⟩, hitems⟩ := h
  rw [mem_of_isPlain hinner] at hc
  obtain ⟨item, hitem, hc⟩ := List.any_eq_true.mp hc
  have hchecked := List.all_eq_true.mp hitems item hitem
  cases item with
  | range low high => exact of_allBetween hchecked hc
  | decimal | blank | wordPart =>
    rw [mem_of_isPlain houter]
    exact List.any_eq_true.mpr ⟨_, of_decide_eq_true hchecked, hc⟩

theorem not_mem_of_avoids {other : CharClass} (h : cls.avoids other = true)
    (hc : cls.mem c = true) : other.mem c = false := by
  simp only [avoids, Bool.and_eq_true] at h
  rw [mem_of_isPlain h.1] at hc
  obtain ⟨item, hitem, hc⟩ := List.any_eq_true.mp hc
  have hchecked := List.all_eq_true.mp h.2 item hitem
  cases item with
  | range low high => exact Bool.not_eq_true' _ ▸ of_allBetween hchecked hc
  | decimal | blank | wordPart => cases hchecked

end CharClass

namespace Pattern

variable {cls : CharClass} {p : Pattern} {x : Place} {w : Way}

/-! ## What a pattern says about its neighbours -/

/-- Whether a place stands in front of a code point of a class. -/
def Place.faces (x : Place) (cls : CharClass) : Bool := x.rest.head?.any cls.mem

/-- Whether all that a pattern takes begins outside a class. -/
def opensOutside (cls : CharClass) : Pattern → Bool
  | one other | many other _ _ => other.avoids cls
  | seq p q | alt p q => opensOutside cls p && opensOutside cls q
  | group _ p => opensOutside cls p
  | empty | notBehind _ | notAhead _ | boundary | start | stop => true

/-- Whether a pattern matches nowhere in front of a class. -/
def bars (cls : CharClass) : Pattern → Bool
  | one other => other.avoids cls
  | notAhead other => other.covers cls
  | seq p q => bars cls p || opensOutside cls p && bars cls q
  | alt p q => bars cls p && bars cls q
  | group _ p => bars cls p
  | empty | many _ _ _ | notBehind _ | boundary | start | stop => false

/-- Whether a pattern never stops in front of a class. -/
def closes (cls : CharClass) : Pattern → Bool
  | notAhead other => other.covers cls
  | seq _ q => closes cls q
  | alt p q => closes cls p && closes cls q
  | group _ p => closes cls p
  | empty | one _ | many _ _ _ | notBehind _ | boundary | start | stop => false

/-- Whether the groups of a number never stop in front of a class, where `barred` says that the
pattern itself does not. -/
def shields (number : Nat) (cls : CharClass) (barred : Bool) : Pattern → Bool
  | seq p q => shields number cls (bars cls q) p && shields number cls barred q
  | alt p q => shields number cls barred p && shields number cls barred q
  | group n p => (n ≠ number || barred) && shields number cls barred p
  | empty | one _ | many _ _ _ | notBehind _ | notAhead _ | boundary | start | stop => true

/-- Whether a group never stops in front of a class. -/
def guards (number : Nat) (cls : CharClass) (p : Pattern) : Bool :=
  if number = 0 then closes cls p else shields number cls (closes cls p) p

theorem not_faces_of_one {other : CharClass} (h : other.avoids cls = true)
    (hw : w ∈ (one other).ways x) : x.faces cls = false := by
  obtain ⟨c, hrest, hc, -⟩ := mem_ways_one.mp hw
  rw [Place.faces, hrest]
  exact CharClass.not_mem_of_avoids h hc

theorem not_faces_of_notAhead {other : CharClass} (h : other.covers cls = true)
    (hw : w ∈ (notAhead other).ways x) : w.text = [] ∧ x.faces cls = false := by
  obtain ⟨hahead, rfl⟩ := eq_bare_of_mem_look hw
  refine ⟨rfl, Bool.eq_false_iff.mpr fun hfaces => hahead ?_⟩
  obtain ⟨c, hc, hmem⟩ := (Option.any_eq_true _ _).mp hfaces
  exact (Option.any_eq_true _ _).mpr ⟨c, hc, CharClass.mem_of_covers h hmem⟩

theorem opensOutside_sound (h : p.opensOutside cls = true) (hw : w ∈ p.ways x) :
    w.text = [] ∨ x.faces cls = false := by
  induction p generalizing x w with
  | one other => exact .inr (not_faces_of_one h hw)
  | many other least most =>
    obtain ⟨t, ht, rfl⟩ := List.mem_map.mp hw
    cases t with
    | nil => exact .inl rfl
    | cons c t =>
      have hrun := mem_runTexts ht
      obtain ⟨behind, hrest⟩ := hrun.trans (List.takeWhile_prefix _)
      have hc : other.mem c = true := List.mem_takeWhile_imp (hrun.subset List.mem_cons_self)
      refine .inr ?_
      rw [Place.faces, ← hrest]
      exact CharClass.not_mem_of_avoids h hc
  | seq p q ihp ihq =>
    obtain ⟨hp, hq⟩ := Bool.and_eq_true _ _ ▸ h
    obtain ⟨u, hu, v, hv, rfl⟩ := mem_ways_seq.mp hw
    obtain hnil | hx := ihp hp hu
    · -- Nothing was taken, so that the second pattern matches at the same place.
      rw [hnil] at hv
      obtain hv | hx := ihq hq hv
      · exact .inl (List.append_eq_nil_iff.mpr ⟨hnil, hv⟩)
      · exact .inr hx
    · exact .inr hx
  | alt p q ihp ihq =>
    obtain ⟨hp, hq⟩ := Bool.and_eq_true _ _ ▸ h
    obtain hw | hw := List.mem_append.mp hw
    · exact ihp hp hw
    · exact ihq hq hw
  | group n p ih =>
    obtain ⟨v, hv, rfl⟩ := List.mem_map.mp hw
    exact ih (w := v) h hv
  | empty =>
    obtain rfl := List.mem_singleton.mp hw
    exact .inl rfl
  | notBehind | notAhead | boundary | start | stop =>
    obtain ⟨-, rfl⟩ := eq_bare_of_mem_look hw
    exact .inl rfl

theorem bars_sound (h : p.bars cls = true) (hw : w ∈ p.ways x) : x.faces cls = false := by
  induction p generalizing x w with
  | one other => exact not_faces_of_one h hw
  | notAhead other => exact (not_faces_of_notAhead h hw).2
  | seq p q ihp ihq =>
    obtain ⟨u, hu, v, hv, rfl⟩ := mem_ways_seq.mp hw
    simp only [bars, Bool.or_eq_true, Bool.and_eq_true] at h
    obtain hp | ⟨hp, hq⟩ := h
    · exact ihp hp hu
    · obtain hnil | hx := opensOutside_sound hp hu
      · rw [hnil] at hv
        exact ihq hq hv
      · exact hx
  | alt p q ihp ihq =>
    obtain ⟨hp, hq⟩ := Bool.and_eq_true _ _ ▸ h
    obtain hw | hw := List.mem_append.mp hw
    · exact ihp hp hw
    · exact ihq hq hw
  | group n p ih =>
    obtain ⟨v, hv, rfl⟩ := List.mem_map.mp hw
    exact ih (w := v) h hv
  | empty | many | notBehind | boundary | start | stop => cases h

theorem closes_sound (h : p.closes cls = true) (hw : w ∈ p.ways x) :
    (x.after w.text).faces cls = false := by
  induction p generalizing x w with
  | notAhead other =>
    obtain ⟨hnil, hx⟩ := not_faces_of_notAhead h hw
    rw [hnil]
    exact hx
  | seq p q ihp ihq =>
    obtain ⟨u, -, v, hv, rfl⟩ := mem_ways_seq.mp hw
    rw [Way.append, Place.after_append]
    exact ihq h hv
  | alt p q ihp ihq =>
    obtain ⟨hp, hq⟩ := Bool.and_eq_true _ _ ▸ h
    obtain hw | hw := List.mem_append.mp hw
    · exact ihp hp hw
    · exact ihq hq hw
  | group n p ih =>
    obtain ⟨v, hv, rfl⟩ := List.mem_map.mp hw
    exact ih (w := v) h hv
  | empty | one | many | notBehind | boundary | start | stop => cases h

theorem shields_sound {number : Nat} {barred : Bool} (h : p.shields number cls barred = true)
    (hw : w ∈ p.ways x) (hbarred : barred = true → (x.after w.text).faces cls = false) {k : Kept}
    (hk : k ∈ w.kept) (hnumber : k.number = number) : k.stop.faces cls = false := by
  induction p generalizing x w barred with
  | seq p q ihp ihq =>
    obtain ⟨hp, hq⟩ := Bool.and_eq_true _ _ ▸ h
    obtain ⟨u, hu, v, hv, rfl⟩ := mem_ways_seq.mp hw
    obtain hk | hk := List.mem_append.mp hk
    · refine ihq hq hv (fun hb => ?_) hk
      rw [← Place.after_append]
      exact hbarred hb
    · -- A group of the first pattern stops where the second one matches.
      exact ihp hp hu (fun hb => bars_sound hb hv) hk
  | alt p q ihp ihq =>
    obtain ⟨hp, hq⟩ := Bool.and_eq_true _ _ ▸ h
    obtain hw | hw := List.mem_append.mp hw
    · exact ihp hp hw hbarred hk
    · exact ihq hq hw hbarred hk
  | group n p ih =>
    obtain ⟨v, hv, rfl⟩ := List.mem_map.mp hw
    simp only [shields, Bool.and_eq_true, Bool.or_eq_true, decide_eq_true_eq] at h
    obtain rfl | hk := List.mem_cons.mp hk
    · exact hbarred (h.1.resolve_left (not_not_intro hnumber))
    · exact ih (w := v) h.2 hv hbarred hk
  | many cls least most =>
    obtain ⟨t, -, rfl⟩ := List.mem_map.mp hw
    cases hk
  | one other =>
    obtain ⟨c, -, -, rfl⟩ := mem_ways_one.mp hw
    cases hk
  | empty =>
    obtain rfl := List.mem_singleton.mp hw
    cases hk
  | notBehind | notAhead | boundary | start | stop =>
    obtain ⟨-, rfl⟩ := eq_bare_of_mem_look hw
    cases hk

/-- **A guarded group** never stops in front of the class. -/
theorem faces_of_guards {number : Nat} (h : p.guards number cls = true) (hw : w ∈ p.ways x)
    {k : Kept} (hk : w.group? x number = some k) : k.stop.faces cls = false := by
  rw [guards] at h
  rw [Way.group?] at hk
  split at h
  case isTrue hzero =>
    rw [if_pos hzero, Option.some.injEq] at hk
    rw [← hk]
    exact closes_sound h hw
  case isFalse hzero =>
    rw [if_neg hzero] at hk
    have hnumber : k.number = number := by simpa using List.find?_some hk
    exact shields_sound h hw (fun hb => closes_sound hb hw) (List.mem_of_find?_eq_some hk) hnumber

/-! ## Runs at the end -/

/-- Whether a pattern ends with a group for a run of a class, at most `bound` code points long. -/
def endsInRun (number : Nat) (cls : CharClass) (bound : Nat) : Pattern → Bool
  | seq _ q => endsInRun number cls bound q
  | group n (many other _ most) => n = number && other = cls && most = some bound
  | _ => false

/-- **A run at the end** is taken up to its bound. -/
theorem text_of_endsInRun {number bound : Nat} (h : p.endsInRun number cls bound = true)
    (hw : (p.ways x).head? = some w) :
    ∃ k, w.kept.find? (fun k => k.number == number) = some k ∧
      k.text = (k.start.rest.takeWhile cls.mem).take bound := by
  induction p generalizing x w with
  | seq p q ihp ihq =>
    rw [ways, List.head?_flatMap] at hw
    obtain ⟨u, -, hu⟩ := List.exists_of_findSome?_eq_some hw
    rw [List.head?_map] at hu
    obtain ⟨v, hv, rfl⟩ := Option.map_eq_some_iff.mp hu
    obtain ⟨k, hk, htext⟩ := ihq h hv
    -- The groups of the second pattern are the latest ones and are found first.
    exact ⟨k, by rw [Way.append, List.find?_append, hk, Option.some_or], htext⟩
  | group n p =>
    cases p with
    | many other least most =>
      simp only [endsInRun, Bool.and_eq_true, decide_eq_true_eq] at h
      obtain ⟨⟨rfl, rfl⟩, rfl⟩ := h
      rw [ways, ways, List.map_map, List.head?_map] at hw
      obtain ⟨t, ht, rfl⟩ := Option.map_eq_some_iff.mp hw
      exact ⟨⟨n, x, t⟩, by simp [Way.bare], head?_runTexts ht⟩
    | _ => cases h
  | _ => cases h

/-- A group that takes a run up to a bound stops in front of the class if the run is longer. -/
theorem Kept.faces_stop_iff {k : Kept} {bound : Nat}
    (h : k.text = (k.start.rest.takeWhile cls.mem).take bound) :
    k.stop.faces cls = true ↔ bound < (k.start.rest.takeWhile cls.mem).length := by
  set run := k.start.rest.takeWhile cls.mem with hdef
  have hrest : k.start.rest = k.text ++ (run.drop bound ++ k.start.rest.dropWhile cls.mem) := by
    rw [h, ← List.append_assoc, List.take_append_drop, hdef, List.takeWhile_append_dropWhile]
  have hstop : k.stop.rest = run.drop bound ++ k.start.rest.dropWhile cls.mem :=
    Place.rest_after_append hrest
  rw [Place.faces, hstop]
  cases hbehind : run.drop bound with
  | nil =>
    have hlength : run.length ≤ bound := List.drop_eq_nil_iff.mp hbehind
    have hnone : (k.start.rest.dropWhile cls.mem).head?.any cls.mem = false := by
      have hhead := List.head?_dropWhile_not cls.mem k.start.rest
      cases hothers : (k.start.rest.dropWhile cls.mem).head? with
      | none => rfl
      | some c =>
        rw [hothers] at hhead
        simpa using hhead
    rw [List.nil_append, hnone]
    exact ⟨fun hfalse => Bool.noConfusion hfalse,
      fun hlong => absurd hlength (Nat.not_le.mpr hlong)⟩
  | cons c others =>
    have hrun : c ∈ run := List.mem_of_mem_drop (hbehind ▸ List.mem_cons_self)
    have hc : cls.mem c = true := List.mem_takeWhile_imp hrun
    have hlength : bound < run.length := by
      refine Nat.not_le.mp fun hshort => ?_
      rw [List.drop_eq_nil_iff.mpr hshort] at hbehind
      cases hbehind
    exact iff_of_true hc hlength

end Pattern

end TagAudit
