import TagAudit.Proofs.Data.Written
import TagAudit.Proofs.Pattern.Matching
import TagAudit.Vendor.Scan

/-!
# What a scan finds

The identifiers come from the source, and the tags only say how often each is mentioned. A tag that
cannot be written as a line of text stops the scan all the same.

* `exists_scan_iff`: the tags that a scan ends well with.
* `map_key_scan`: whenever it does, the identifiers are those that the library finds in the source.
* `mem_keys_of_start`: an identifier at the start of a source is found.
-/

namespace TagAudit.Vendor

open Outcome

theorem exists_rawLine_iff {raw : Data} : (∃ t, rawLine raw = .ok t) ↔ ¬raw.HoldsLong :=
  exists_writtenOrDisplayed_iff rfl

variable {library : Library} {text : Text} {tags : List Tag} {hits : List VendorHit}

/-- **A scan** ends well unless a tag holds an integer that is too long to be written. -/
theorem exists_scan_iff :
    (∃ hits, scan library text tags = .ok hits) ↔ ∀ tag ∈ tags, ¬tag.raw.HoldsLong := by
  simp only [← exists_rawLine_iff]
  exact exists_map_eq_ok.trans exists_mapM_eq_ok

/-- The identifiers do not depend on the tags. -/
theorem map_key_scan (h : scan library text tags = .ok hits) :
    hits.map (·.key) = distinct (keys library text) := by
  obtain ⟨lines, -, h⟩ := bind_eq_ok.mp h
  cases h
  rw [List.map_map]
  exact List.map_id _

theorem mem_distinct {α : Type} [DecidableEq α] {a : α} {items : List α} :
    a ∈ distinct items ↔ a ∈ items := by
  have hfold (done : List α) : a ∈ items.foldl
      (fun done item => if item ∈ done then done else item :: done) done ↔
        a ∈ done ∨ a ∈ items := by
    induction items generalizing done with
    | nil => simp
    | cons item items ih =>
      rw [List.foldl_cons, ih, List.mem_cons, ← or_assoc]
      refine or_congr_left ?_
      split
      case isTrue h => exact (or_iff_left_of_imp fun h' => h' ▸ h).symm
      case isFalse => rw [List.mem_cons, or_comm]
  rw [distinct, List.mem_reverse, hfold]
  simp

/-- An identifier at the start of a source is found. -/
theorem mem_keys_of_start {name : Text} {p : Pattern} {vendor idType : Text}
    (hentry : (name, p, ⟨vendor, idType, 0⟩) ∈ library) {m : Pattern.Match}
    (hmatch : p.at? (.start text) = some m) (hm : m.text ≠ []) :
    (vendor, idType, m.text) ∈ keys library text := by
  refine List.mem_flatMap.mpr ⟨_, hentry, List.mem_map.mpr ⟨m.text, ?_, rfl⟩⟩
  refine List.mem_filterMap.mpr ⟨m, Pattern.mem_findAll_of_start hmatch, ?_⟩
  simp [Pattern.Match.group?, hm]

end TagAudit.Vendor
