import TagAudit.Config.Check
import TagAudit.Proofs.Outcome

/-!
# Settings that pass the check

* `Check.seq_eq_valid`, `Check.field_eq_valid`: a check lets through what all its parts let through,
  and a field that is missing has its default.
* `Settings.IsValid`: the bounds that settings keep. Settings that pass the check keep them
  (`Settings.isValid_of_check`), whatever mapping spells them.
-/

namespace TagAudit

open Yaml (Value Entries)
open Outcome

namespace Check

variable {α β : Type}

theorem map_eq_valid {f : α → β} {x : Check α} {b : β} :
    f <$> x = .valid b ↔ ∃ a, x = .valid a ∧ f a = b := by
  change apply (.valid f) x = .valid b ↔ _
  cases x <;> simp [apply]

theorem seq_eq_valid {f : Check (α → β)} {x : Check α} {b : β} :
    f <*> x = .valid b ↔ ∃ g a, f = .valid g ∧ x = .valid a ∧ g a = b := by
  change apply f x = .valid b ↔ _
  cases f <;> cases x <;> simp [apply]

theorem under_eq_valid {key : Text} {x : Check α} {a : α} :
    x.under key = .valid a ↔ x = .valid a := by
  cases x <;> simp [under]

theorem of_eq_valid {x : Except Complaint α} {a : α} : of x = .valid a ↔ x = .ok a := by
  cases x <;> simp [of]

/-- The value of a field is one that is let through, or the default. -/
theorem field_eq_valid {entries : Entries} {key : Text} {default a : α} {read : Value → Check α}
    (h : field entries key default read = .valid a) :
    (∃ v, read v = .valid a) ∨ a = default := by
  unfold field at h
  cases hv : entries.at? key with
  | none => simp_all
  | some v =>
    rw [hv] at h
    exact .inl ⟨v, under_eq_valid.mp h⟩

/-- The value of a mapping is that of its entries. -/
theorem mapping_eq_valid {read : Entries → Check α} {v : Value} {a : α}
    (h : mapping read v = .valid a) : ∃ entries, read entries = .valid a := by
  cases v <;> simp [mapping] at h
  exact ⟨_, h⟩

end Check

open Check

theorem checkField_eq_valid {α : Type} {entries : Entries} {key : Text} {default a : α}
    {read : Value → Except Complaint α} (h : checkField entries key default read = .valid a) :
    (∃ v, read v = .ok a) ∨ a = default := by
  obtain ⟨v, hv⟩ | hdefault := field_eq_valid h
  · exact .inl ⟨v, of_eq_valid.mp hv⟩
  · exact .inr hdefault

/-- A timeout that is read is above zero, and not too long. -/
theorem readTimeout_eq_ok {v : Value} {x : Binary64} (h : readTimeout v = .ok x) :
    x.isPositive = true ∧ atMost maxTimeout x = true := by
  obtain ⟨y, -, h⟩ := bind_eq_ok.mp h
  split at h
  · cases h
  · split at h
    · cases h
    · cases h
      simp_all

/-- A count that is read is not below its bound. -/
theorem readCount_eq_ok {least n : Nat} {v : Value} (h : readCount least v = .ok n) :
    least ≤ n := by
  obtain ⟨k, -, h⟩ := bind_eq_ok.mp h
  split at h
  · cases h
  · cases h
    omega

/-! ## Bounds -/

/-- The bounds on a download: its timeout is above zero, and not too long. -/
structure FetchSettings.IsValid (s : FetchSettings) : Prop where
  timeout_pos : s.timeout.isPositive = true
  timeout_le : atMost maxTimeout s.timeout = true

/-- The bounds on a search: it looks somewhere, and reads something. -/
structure Source.Limits.IsValid (l : Source.Limits) : Prop where
  window_pos : 0 < l.window
  bracePositions_pos : 0 < l.bracePositions
  maxCandidates_pos : 0 < l.maxCandidates

/-- The bounds on settings. -/
structure Settings.IsValid (s : Settings) : Prop where
  fetch : s.fetch.IsValid
  locator : s.locator.IsValid

theorem FetchSettings.isValid_default : ({} : FetchSettings).IsValid := by
  constructor <;> decide

theorem Source.Limits.isValid_default : ({} : Source.Limits).IsValid := by
  constructor <;> decide

theorem FetchSettings.isValid_of_check {entries : Entries} {s : FetchSettings}
    (h : FetchSettings.check entries = .valid s) : s.IsValid := by
  simp only [FetchSettings.check, seq_eq_valid, map_eq_valid] at h
  obtain ⟨_, _, ⟨_, timeout, ⟨_, -, rfl⟩, htimeout, rfl⟩, -, rfl⟩ := h
  obtain ⟨v, hv⟩ | rfl := checkField_eq_valid htimeout
  · exact ⟨(readTimeout_eq_ok hv).1, (readTimeout_eq_ok hv).2⟩
  · exact ⟨isValid_default.timeout_pos, isValid_default.timeout_le⟩

theorem Source.Limits.isValid_of_check {entries : Entries} {l : Source.Limits}
    (h : checkLimits entries = .valid l) : l.IsValid := by
  have hcount {key : Text} {default least n : Nat} (hdefault : least ≤ default)
      (hn : checkField entries key default (readCount least) = .valid n) : least ≤ n := by
    obtain ⟨v, hv⟩ | rfl := checkField_eq_valid hn
    · exact readCount_eq_ok hv
    · exact hdefault
  simp only [checkLimits, seq_eq_valid, map_eq_valid] at h
  obtain ⟨_, _, ⟨_, _, ⟨_, _, ⟨_, _, ⟨_, hwindow, rfl⟩, hpositions, rfl⟩, -, rfl⟩, hcandidates,
    rfl⟩, -, rfl⟩ := h
  exact ⟨hcount (by decide) hwindow, hcount (by decide) hpositions,
    hcount (by decide) hcandidates⟩

/-- Settings that pass the check keep their bounds. -/
theorem Settings.isValid_of_check {entries : Entries} {s : Settings}
    (h : Settings.check entries = .valid s) : s.IsValid := by
  simp only [Settings.check, seq_eq_valid, map_eq_valid] at h
  obtain ⟨_, _, ⟨_, _, ⟨_, _, ⟨_, _, ⟨_, -, rfl⟩, hfetch, rfl⟩, hlocator, rfl⟩, -, rfl⟩, -, rfl⟩ :=
    h
  constructor
  · obtain ⟨v, hv⟩ | rfl := field_eq_valid hfetch
    · obtain ⟨group, hgroup⟩ := mapping_eq_valid hv
      exact FetchSettings.isValid_of_check hgroup
    · exact FetchSettings.isValid_default
  · obtain ⟨v, hv⟩ | rfl := field_eq_valid hlocator
    · obtain ⟨group, hgroup⟩ := mapping_eq_valid hv
      exact Source.Limits.isValid_of_check hgroup
    · exact Source.Limits.isValid_default

end TagAudit
