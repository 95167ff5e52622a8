import TagAudit.Proofs.Literal.Key

/-!
# Numerals among texts of digits

The test for digits is wider than what can be read as a number: it lets through digits without a
place value, as in `²`, and texts of any length.

* `decimalValue?_isSome`: a code point has a place value exactly if it is a decimal digit.
* `strip_digits`: no digit is a blank.
* `readInteger_digits`: a text of digits is read exactly if it is a numeral (`IsNumeral`).
-/

namespace TagAudit

open Literal (IsDecimalRun digitValues)

/-! ## Classes of digits -/

namespace Text.Ranges

theorem mem_iff {ranges : List (Nat × Nat)} {n : Nat} :
    mem ranges n = true ↔ ∃ r ∈ ranges, r.1 ≤ n ∧ n ≤ r.2 := by
  simp [mem]

/-- No number lies in ranges of two tables that have no overlap. -/
theorem mem_eq_false {ranges others : List (Nat × Nat)}
    (hdisjoint : ∀ r ∈ ranges, ∀ s ∈ others, r.2 < s.1 ∨ s.2 < r.1) {n : Nat}
    (hn : mem ranges n = true) : mem others n = false := by
  rw [Bool.eq_false_iff]
  intro hother
  obtain ⟨r, hr, hlow, hhigh⟩ := mem_iff.mp hn
  obtain ⟨s, hs, hlow', hhigh'⟩ := mem_iff.mp hother
  have := hdisjoint r hr s hs
  omega

end Text.Ranges

namespace CodePoint

open Text

theorem mem_decimalDigits_of_isAsciiDigit {c : CodePoint} (hc : c.isAsciiDigit = true) :
    Ranges.mem Ranges.decimalDigits c.val = true := by
  rw [Ranges.mem_iff]
  refine ⟨(0x30, 0x39), by decide, ?_⟩
  simpa [isAsciiDigit] using hc

/-- The table of decimal digits begins with the ASCII ones, and has no others below `0x80`. -/
theorem isDecimal_eq_mem (c : CodePoint) :
    c.isDecimal = Ranges.mem Ranges.decimalDigits c.val := by
  rw [isDecimal, Bool.eq_iff_iff, Bool.or_eq_true, Bool.and_eq_true, decide_eq_true_eq]
  constructor
  · rintro (hc | ⟨-, hc⟩)
    · exact mem_decimalDigits_of_isAsciiDigit hc
    · exact hc
  · intro hc
    obtain ⟨r, hr, hlow, hhigh⟩ := Ranges.mem_iff.mp hc
    have htable : ∀ r ∈ Ranges.decimalDigits, r = (0x30, 0x39) ∨ 0x80 ≤ r.1 := by decide
    obtain rfl | hr := htable r hr
    · exact .inl (by simpa [isAsciiDigit] using ⟨hlow, hhigh⟩)
    · exact .inr ⟨hr.trans hlow, hc⟩

theorem decimalValue?_isSome (c : CodePoint) : c.decimalValue?.isSome = c.isDecimal := by
  unfold decimalValue?
  split
  case isTrue hc => simp [isDecimal, hc]
  case isFalse =>
    rw [Option.isSome_map, isDecimal_eq_mem, Bool.eq_iff_iff, List.find?_isSome, Ranges.mem,
      List.any_eq_true]

/-- No digit is a blank. -/
theorem isBlank_of_isDigit {c : CodePoint} (hc : c.isDigit = true) : c.isBlank = false := by
  rw [isDigit, isDecimal_eq_mem, Bool.or_eq_true, Bool.and_eq_true] at hc
  obtain hc | ⟨-, hc⟩ := hc
  · exact Ranges.mem_eq_false (by decide) hc
  · exact Ranges.mem_eq_false (by decide) hc

end CodePoint

/-! ## Reading -/

theorem Text.isDigits_iff {t : Text} : t.isDigits = true ↔ t ≠ [] ∧ ∀ c ∈ t, c.isDigit = true := by
  simp [Text.isDigits]

/-- Blanks at the ends are all that stripping takes away. -/
theorem Text.strip_digits {t : Text} (h : t.isDigits = true) : t.strip = t := by
  obtain ⟨-, hdigits⟩ := Text.isDigits_iff.mp h
  have hdrop (s : Text) (hs : ∀ c ∈ s, c ∈ t) : s.dropWhile CodePoint.isBlank = s := by
    cases s with
    | nil => rfl
    | cons c s =>
      have hblank := CodePoint.isBlank_of_isDigit (hdigits c (hs c List.mem_cons_self))
      simp [hblank]
  rw [Text.strip, Text.stripLeft, hdrop t fun _ hc => hc, Text.stripRight,
    hdrop t.reverse fun _ => List.mem_reverse.mp, List.reverse_reverse]

/-- A numeral: decimal digits of any script, and no more of them than can be read. -/
structure IsNumeral (t : Text) : Prop where
  ne_nil : t ≠ []
  decimal : IsDecimalRun t
  short : t.length ≤ Fault.digitLimit

instance (t : Text) : Decidable (IsNumeral t) :=
  decidable_of_iff (t ≠ [] ∧ (∀ c ∈ t, c.isDecimal = true) ∧ t.length ≤ Fault.digitLimit)
    ⟨fun ⟨hne, hdecimal, hshort⟩ => ⟨hne, hdecimal, hshort⟩,
      fun ⟨hne, hdecimal, hshort⟩ => ⟨hne, hdecimal, hshort⟩⟩

theorem IsNumeral.isDigits {t : Text} (h : IsNumeral t) : t.isDigits = true :=
  Text.isDigits_iff.mpr ⟨h.ne_nil, fun c hc => Literal.isDigit_of_isDecimal (h.decimal c hc)⟩

namespace Numeral

/-- Decimal digits in front of a text are collected, the last one in front. -/
theorem scan_go_run {s : Text} (hs : IsDecimalRun s) (afterDigit : Bool) (digits : List Nat)
    (rest : Text) : scan.go afterDigit digits (s ++ rest) =
      scan.go (afterDigit || !s.isEmpty) ((digitValues s).reverse ++ digits) rest := by
  induction s generalizing afterDigit digits with
  | nil => simp [digitValues]
  | cons c s ih =>
    obtain ⟨hc, hs⟩ := List.forall_mem_cons.mp hs
    obtain ⟨d, hd⟩ := Option.isSome_iff_exists.mp ((c.decimalValue?_isSome).trans hc)
    rw [List.cons_append, scan.go, hd]
    simp only [ih hs]
    simp [digitValues, hd]

theorem scan_run {s : Text} (hs : IsDecimalRun s) : scan s = some (digitValues s, []) := by
  have h := scan_go_run hs false [] []
  rw [List.append_nil] at h
  rw [scan, h, scan.go]
  cases s <;> simp [digitValues]

/-- The digits end at a code point that is neither a digit nor an underscore. -/
theorem scan_run_cons {s rest : Text} {c : CodePoint} (hs : IsDecimalRun s)
    (hc : c.isDecimal = false) (hbar : c ≠ '_') :
    scan (s ++ c :: rest) = some (digitValues s, c :: rest) := by
  have hvalue : c.decimalValue? = none := by
    rw [← Option.not_isSome_iff_eq_none, c.decimalValue?_isSome, hc]
    exact Bool.false_ne_true
  rw [scan, scan_go_run hs, scan.go, hvalue]
  cases s <;> simp [digitValues, hbar]

end Numeral

/-- A text of digits has no sign and no blanks around it. -/
theorem readInteger_eq_scan {t : Text} (h : t.isDigits = true) :
    readInteger t = match Numeral.scan t with
      | some ([], _) | none => .error (.notNumeral t)
      | some (digits, rest) =>
        match Numeral.ofDigits? digits with
        | none => .error (.longNumeral digits.length)
        | some n => if rest.isEmpty then .ok n else .error (.notNumeral t) := by
  obtain ⟨hne, hdigits⟩ := Text.isDigits_iff.mp h
  obtain ⟨c, t, rfl⟩ := List.exists_cons_of_ne_nil hne
  have hc := hdigits c List.mem_cons_self
  have hminus : c ≠ '-' := by rintro rfl; cases hc
  have hplus : c ≠ '+' := by rintro rfl; cases hc
  rw [readInteger, Text.strip_digits h]
  simp only [hminus, hplus, if_false]
  grind

/-- **Reading digits.** A text of digits is read exactly if it is a numeral. -/
theorem readInteger_digits {t : Text} (h : t.isDigits = true) {n : Int} :
    readInteger t = .ok n ↔ IsNumeral t ∧ n = Numeral.toNat 10 (digitValues t) := by
  obtain ⟨hne, hdigits⟩ := Text.isDigits_iff.mp h
  obtain ⟨s, rest, hspan⟩ : ∃ s rest, t.span CodePoint.isDecimal = (s, rest) := ⟨_, _, rfl⟩
  obtain ⟨rfl, hs, hend⟩ := Text.span_sound hspan
  rw [readInteger_eq_scan h]
  cases rest with
  | cons c rest =>
    -- A digit without a place value ends the numeral too early.
    have hc : c.isDecimal = false := hend c rfl
    have hbar : c ≠ '_' := by rintro rfl; cases hdigits '_' (by simp)
    have hnot : ¬IsNumeral (s ++ c :: rest) := by
      intro hnumeral
      rw [hnumeral.decimal c (by simp)] at hc
      cases hc
    rw [Numeral.scan_run_cons hs hc hbar]
    refine iff_of_false ?_ fun hboth => hnot hboth.1
    grind
  | nil =>
    rw [List.append_nil] at hne ⊢
    rw [Numeral.scan_run hs]
    have hlength : (digitValues s).length = s.length := List.length_map _
    have hshort : IsNumeral s ↔ ¬Fault.digitLimit < (digitValues s).length := by
      rw [hlength, Nat.not_lt]
      exact ⟨IsNumeral.short, fun hle => ⟨hne, hs, hle⟩⟩
    have hvalues : digitValues s ≠ [] := fun h => hne (List.map_eq_nil_iff.mp h)
    rw [hshort]
    grind [Numeral.ofDigits?]

end TagAudit
