import TagAudit.Proofs.Pattern.Guards
import TagAudit.Vendor.Library

/-!
# Whether identifiers are whole

What a pattern finds is a part of a text, and the text may go on with one more digit behind it. Of
the well-known vendors all but two have patterns that exclude this: the one for Hotjar ends with
its run of digits and stops at the tenth, and the one for GA4 looks ahead for ASCII only.

* `sightings`: what a pattern finds, where it stands; `found_eq_map_sightings`: these are the
  identifiers that a library reports.
* `Sighting.isCut`: whether a digit follows.
* `isCut_sighting_iff`: the identifiers of the standard library that a digit follows.
-/

namespace TagAudit.Vendor

open Pattern

/-- What was found in a text, with the text in front and the text behind. -/
structure Sighting where
  front : Text
  value : Text
  behind : Text
deriving DecidableEq

namespace Sighting

/-- The text in which something was found. -/
def text (s : Sighting) : Text := s.front ++ s.value ++ s.behind

/-- Whether a decimal digit of any script follows. -/
def isCut (s : Sighting) : Bool := s.behind.head?.any CodePoint.isDecimal

/-- How many decimal digits stand one after the other where a value begins. -/
def runLength (s : Sighting) : Nat := ((s.value ++ s.behind).takeWhile CodePoint.isDecimal).length

end Sighting

/-- A group of a match where it stands; none if it did not take part or is empty. -/
def sighting? (entry : Pattern × Signature) (text : Text) (m : Match) : Option Sighting := do
  let place := m.place text
  let way ← (entry.1.ways place).head?
  let kept ← way.group? place entry.2.group
  if kept.text.isEmpty then none else
    some ⟨text.take kept.start.offset, kept.text, kept.stop.rest⟩

/-- What a pattern finds in a text, from left to right. -/
def sightings (entry : Pattern × Signature) (text : Text) : List Sighting :=
  (entry.1.findAll text).filterMap (sighting? entry text)

variable {entry : Pattern × Signature} {text : Text} {s : Sighting}

/-- What a library reports are the values of the sightings. -/
theorem found_eq_map_sightings (entry : Pattern × Signature) (text : Text) :
    Library.found entry text = (sightings entry text).map (·.value) := by
  unfold Library.found sightings
  rw [List.map_filterMap]
  refine List.filterMap_congr fun m hm => ?_
  obtain ⟨w, hw, hgroup⟩ := exists_way_of_at? (at?_place_of_mem_findAll hm)
  simp only [sighting?, hgroup, hw, Option.bind_eq_bind, Option.bind_some]
  cases w.group? (m.place text) entry.2.group with
  | none => rfl
  | some k =>
    simp only [Option.map_some, Option.bind_some]
    split <;> rfl

/-- **A sighting** is a group of the preferred way at some place, and a part of the text. -/
theorem exists_kept_of_mem_sightings (h : s ∈ sightings entry text) :
    ∃ x w k, (entry.1.ways x).head? = some w ∧ w.group? x entry.2.group = some k ∧
      k.text = s.value ∧ k.start.rest = s.value ++ s.behind ∧ k.stop.rest = s.behind ∧
      s.text = text := by
  obtain ⟨m, -, hm⟩ := List.mem_filterMap.mp h
  simp only [sighting?, Option.bind_eq_bind, Option.bind_eq_some_iff] at hm
  obtain ⟨w, hw, k, hk, hs⟩ := hm
  split at hs
  case isTrue => cases hs
  case isFalse =>
    cases hs
    obtain ⟨hrest, htext⟩ :=
      split_of_group? (List.take_prefix m.offset text) (List.mem_of_mem_head? hw) hk
    exact ⟨_, w, k, hw, hk, rfl, hrest, rfl, (List.append_assoc ..).trans htext⟩

/-! ## The well-known vendors -/

/-- **The patterns** of well-known vendors: one ends with a run of at most ten digits, one excludes
digits of ASCII behind what it finds, and the others exclude all digits there. -/
theorem guards_of_mem_standard : ∀ m ∈ Library.standard,
    (m.1 = "hotjar_site_id" ∧ m.2.2.group ≠ 0 ∧
      m.2.1.endsInRun m.2.2.group .decimals 10 = true) ∨
    (m.1 = "ga4_measurement_id" ∧ m.2.1.guards m.2.2.group .asciiDigits = true) ∨
    (m.1 ≠ "hotjar_site_id" ∧ m.1 ≠ "ga4_measurement_id" ∧
      m.2.1.guards m.2.2.group .decimals = true) := by
  decide +kernel

/-- What the standard library reports is a part of the text, and a digit follows it exactly if it is
the beginning of a run of more than ten digits for Hotjar, or a digit beyond ASCII follows for
GA4. -/
theorem isCut_sighting_iff {name : Text} (hentry : (name, entry) ∈ Library.standard) (text : Text) :
    Library.found entry text = (sightings entry text).map (·.value) ∧
    ∀ s ∈ sightings entry text, s.text = text ∧
      (s.isCut = true ↔ (name = "hotjar_site_id" ∧ 10 < s.runLength) ∨
        (name = "ga4_measurement_id" ∧
          s.behind.head?.any (fun c => c.isDecimal && !c.isAsciiDigit) = true)) := by
  refine ⟨found_eq_map_sightings entry text, fun s hs => ?_⟩
  obtain ⟨x, w, k, hw, hk, hvalue, hrest, hstop, htext⟩ := exists_kept_of_mem_sightings hs
  refine ⟨htext, ?_⟩
  have hmem : CharClass.decimals.mem = CodePoint.isDecimal := funext fun _ => CharClass.mem_decimals
  have hcut : s.isCut = k.stop.faces .decimals := by rw [Place.faces, hstop, hmem, Sighting.isCut]
  have hdistinct : ("hotjar_site_id" : Text) ≠ "ga4_measurement_id" := by decide
  obtain ⟨rfl, hgroup, hends⟩ | ⟨rfl, hguards⟩ | ⟨hopen, hascii, hguards⟩ :=
    guards_of_mem_standard _ hentry
  · -- The run of digits is taken up to the tenth.
    obtain ⟨k', hk', hrun⟩ := text_of_endsInRun hends hw
    rw [Way.group?, if_neg hgroup, hk', Option.some.injEq] at hk
    rw [hk] at hrun
    rw [hcut, Kept.faces_stop_iff hrun, hrest, hmem]
    simp [hdistinct, Sighting.runLength]
  · -- No digit of ASCII follows.
    have hascii := faces_of_guards hguards (List.mem_of_mem_head? hw) hk
    rw [Place.faces, hstop] at hascii
    rw [Sighting.isCut]
    cases hnext : s.behind.head? with
    | none => simp
    | some c =>
      rw [hnext, Option.any_some, CharClass.mem_asciiDigits] at hascii
      simp [hdistinct.symm, hascii]
  · rw [hcut, faces_of_guards hguards (List.mem_of_mem_head? hw) hk]
    simp [hopen, hascii]

/-- Seven digits are whole, and the comma behind them is no digit. -/
theorem sevenDigits_whole :
    let text : Text := "\x7bhjid: 7654321,hjsv:6\x7d"
    let s : Sighting := ⟨"\x7bhjid: ", "7654321", ",hjsv:6\x7d"⟩
    ∃ m ∈ Library.standard, m.1 = "hotjar_site_id" ∧ s ∈ sightings m.2 text ∧
      Library.found m.2 text = (sightings m.2 text).map (·.value) ∧
      s.text = text ∧ s.isCut = false := by
  intro text s
  have hfound : ∃ m ∈ Library.standard, m.1 = "hotjar_site_id" ∧ s ∈ sightings m.2 text := by
    decide +kernel
  obtain ⟨m, hm, hname, hs⟩ := hfound
  obtain ⟨hfound, hcut⟩ := isCut_sighting_iff hm text
  have hshort : ¬10 < s.runLength := by decide +kernel
  have hascii : ¬s.behind.head?.any (fun c => c.isDecimal && !c.isAsciiDigit) = true := by decide
  refine ⟨m, hm, hname, hs, hfound, (hcut s hs).1, Bool.eq_false_iff.mpr fun h => ?_⟩
  obtain ⟨-, hlong⟩ | ⟨-, hdigit⟩ := (hcut s hs).2.mp h
  · exact hshort hlong
  · exact hascii hdigit

/-- The first ten of eleven digits are reported for Hotjar, and what stands in front of an
Arabic-Indic digit is reported for GA4. -/
theorem elevenDigits_cut :
    (∃ m ∈ Library.standard, m.1 = "hotjar_site_id" ∧
      Library.found m.2 "hjid:12345678901" = ["1234567890"] ∧
      sightings m.2 "hjid:12345678901" = [⟨"hjid:", "1234567890", "1"⟩]) ∧
    (∃ m ∈ Library.standard, m.1 = "ga4_measurement_id" ∧
      Library.found m.2 "G-ABC1234567\u0663" = ["G-ABC1234567"] ∧
      sightings m.2 "G-ABC1234567\u0663" = [⟨[], "G-ABC1234567", "\u0663"⟩]) ∧
    Sighting.isCut ⟨"hjid:", "1234567890", "1"⟩ = true ∧
    Sighting.isCut ⟨[], "G-ABC1234567", "\u0663"⟩ = true := by
  decide +kernel

end TagAudit.Vendor
