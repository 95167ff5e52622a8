import TagAudit.Proofs.Inspection.LongNumbers
import TagAudit.Proofs.Inspection.Stages
import TagAudit.Proofs.Inspection.Tables
import TagAudit.Proofs.Vendor.Scan

/-!
# Vendor identifiers of a report

A source is scanned for vendors as it is, with a container in it or without. The tags that were
decoded are only looked at for mentions of what was found. One tag that cannot be shown keeps all
identifiers out of the report, though.

* `inspectSource_vendors`: the report has the identifiers of the source unless a raw tag holds an
  integer that is too long to be written; then it has none, and an issue.
* `inspectSource_scansNothing`: a source with an identifier and such a tag.
-/

namespace TagAudit.Inspection

open Inspector (Kept)
open Outcome

section

variable {s : Subject} {tables debug : Option Fault} {report : Report}
  (h : Accounts s (s.faults tables debug) report)

include h

theorem Accounts.tags_eq : report.model.tags = s.model.tags := by
  rw [h.model]

/-- Where all raw tags can be written, the report has the identifiers of the source. -/
theorem Accounts.keys_of_short (hshort : ∀ tag ∈ report.model.tags, ¬tag.raw.HoldsLong) :
    report.vendors.map (·.key) =
      Vendor.distinct (Vendor.keys Vendor.Library.standard s.source) := by
  rw [h.tags_eq] at hshort
  obtain ⟨hits, hhits⟩ := Vendor.exists_scan_iff.mpr hshort
  have hvendors : report.vendors = hits := by
    rw [h.vendors, Subject.vendors, Subject.scanning, hhits]
    rfl
  rw [hvendors, Vendor.map_key_scan hhits]

/-- Where one cannot, it has none, and an issue of the scan. -/
theorem Accounts.vendors_of_long (hlong : ∃ tag ∈ report.model.tags, tag.raw.HoldsLong) :
    report.vendors = [] ∧ ∃ fault, Stage.scan.issue s.container fault ∈ report.model.issues := by
  rw [h.tags_eq] at hlong
  obtain ⟨tag, htag, hlong⟩ := hlong
  cases hscan : s.scanning with
  | ok hits => exact absurd hlong (Vendor.exists_scan_iff.mp ⟨hits, hscan⟩ tag htag)
  | error fault =>
    constructor
    · rw [h.vendors, Subject.vendors, hscan]
      rfl
    · have hissue : Stage.scan.issue s.container fault ∈
          issuesOf s.container (s.faults tables debug) := by
        refine List.mem_filterMap.mpr ⟨.scan, by simp [Stage.all], ?_⟩
        simp [Subject.faults, hscan, fault?]
      refine ⟨fault, ?_⟩
      rw [h.model]
      exact List.mem_append_right _ hissue

end

/-- **Vendor identifiers.** Whatever container is in a source and whatever was inspected before, the
identifiers of the report are those of a scan without tags, in the same order, if the integers of
all raw tags can be written. If one cannot, the report has no identifiers, and an issue of the scan.
There is a report if all that the sink raises can be told in one. -/
theorem inspectSource_vendors {ω σ : Type} [Host (StateM ω)] (i : Inspector (StateM ω) σ)
    (kept : Kept) (sink : Option σ) (container source : Text) (world : ω) :
    ∃ hits outcome kept' sink' world',
      Vendor.scan Vendor.Library.standard source [] = .ok hits ∧
      i.inspectSourceNext kept sink container source world = ((outcome, kept', sink'), world') ∧
      (Tells i.writer → ∃ report, outcome = .ok report) ∧
      ∀ report, outcome = .ok report →
        ((∀ tag ∈ report.model.tags, ¬tag.raw.HoldsLong) →
          report.vendors.map (·.key) = hits.map (·.key)) ∧
        ((∃ tag ∈ report.model.tags, tag.raw.HoldsLong) → report.vendors = [] ∧
          ∃ fault, Stage.scan.issue container.strip fault ∈ report.model.issues) := by
  obtain ⟨hits, hhits⟩ : ∃ hits, Vendor.scan Vendor.Library.standard source [] = .ok hits :=
    Vendor.exists_scan_iff.mpr fun _ h => nomatch h
  obtain ⟨outcome, kept', sink', world', faults, written, hrun, hwriting, haccounted⟩ :=
    inspectSourceNext_accounted i kept sink container source world
  refine ⟨hits, outcome, kept', sink', world', hhits, hrun,
    fun htells => haccounted.exists_report htells hwriting, ?_⟩
  rintro report rfl
  cases haccounted with
  | report haccounts =>
    refine ⟨fun hshort => ?_, haccounts.vendors_of_long⟩
    rw [haccounts.keys_of_short hshort, Vendor.map_key_scan hhits]

/-! ## Identifiers that are lost -/

/-- Such a tag loses the identifiers of a source that has any, if there is a report at all. -/
theorem inspectSource_loses {ω σ : Type} [Host (StateM ω)] (i : Inspector (StateM ω) σ)
    (htells : Tells i.writer) (kept : Kept) (sink : Option σ) (container source : Text) (world : ω)
    (hlong : ∃ tag ∈
      (⟨i.settings.locator, kept.decoder.name, container.strip, source⟩ : Subject).model.tags,
        tag.raw.HoldsLong)
    (hkeys : ∃ key, key ∈ Vendor.keys Vendor.Library.standard source) :
    ∃ report, (i.inspectSourceNext kept sink container source world).1.1 = .ok report ∧
      ¬∀ hits, Vendor.scan Vendor.Library.standard source [] = .ok hits →
        report.vendors.map (·.key) = hits.map (·.key) := by
  obtain ⟨hits, hhits⟩ : ∃ hits, Vendor.scan Vendor.Library.standard source [] = .ok hits :=
    Vendor.exists_scan_iff.mpr fun _ h => nomatch h
  obtain ⟨outcome, kept', sink', world', faults, written, hrun, hwriting, haccounted⟩ :=
    inspectSourceNext_accounted i kept sink container source world
  obtain ⟨report, rfl⟩ := haccounted.exists_report htells hwriting
  cases haccounted with
  | report haccounts =>
    refine ⟨report, congrArg (·.1.1) hrun, fun hall => ?_⟩
    have hsame := hall hits hhits
    rw [← haccounts.tags_eq] at hlong
    rw [(haccounts.vendors_of_long hlong).1, Vendor.map_key_scan hhits] at hsame
    obtain ⟨key, hkey⟩ := hkeys
    have hfound := Vendor.mem_distinct.mpr hkey
    rw [← hsame] at hfound
    cases hfound

/-- The pattern of measurement identifiers: `G-` and seven to twelve capital letters and digits,
with no letter or digit around them. -/
def measurementPattern : Pattern :=
  let inside : CharClass := { items := [.range 65 90, .range 97 122, .range 48 57] }
  .all [.notBehind { items := inside.items ++ [.range 95 95, .range 45 45] }, .one (.single 'G'),
    .one (.single '-'), .many { items := [.range 65 90, .range 48 57] } 7 (some 12),
    .notAhead inside]

theorem mem_standard : (("ga4_measurement_id" : Text), measurementPattern,
    ⟨"Google Analytics", "GA4 Measurement ID", 0⟩) ∈ Vendor.Library.standard := by
  have hhead : Vendor.Library.standard.head? = some (("ga4_measurement_id" : Text),
      measurementPattern, ⟨"Google Analytics", "GA4 Measurement ID", 0⟩) := by
    decide +kernel
  exact List.mem_of_mem_head? hhead

/-- A source that begins with an identifier and holds a tag, which is no map but an integer. -/
def lostSource (digits : Text) : Text :=
  ("G-ABC1234567;" : Text) ++ (("var data = " : Text) ++ hexLiteral "tags" digits)

theorem exists_key_lostSource (digits : Text) :
    ∃ key, key ∈ Vendor.keys Vendor.Library.standard (lostSource digits) := by
  obtain ⟨m, hmatch, hm⟩ : ∃ m, measurementPattern.at? (.start (lostSource digits)) = some m ∧
      m.text = ("G-ABC1234567" : Text) := ⟨_, rfl, rfl⟩
  exact ⟨_, Vendor.mem_keys_of_start mem_standard hmatch (by rw [hm]; decide)⟩

/-- The one tag of the source is a placeholder with the integer. -/
theorem model_lostSource (component container : Text) :
    ∃ tag ∈ (⟨{}, component, container, lostSource longDigits⟩ : Subject).model.tags,
      tag.raw.HoldsLong := by
  let s : Subject := ⟨{}, component, container, lostSource longDigits⟩
  have hbefore : (Source.sitePattern Source.varDataHead).search? "G-ABC1234567;" = none := by
    decide +kernel
  have hdocument : s.document = hexDocument "tags" longDigits :=
    locate_hexLiteral (by decide) longDigits_hex (List.cons_ne_nil _ _) longDigits_length hbefore _
  obtain ⟨tag, issues, hmodel, hraw⟩ : ∃ tag issues, s.model = { tags := [tag], issues } ∧
      tag.raw = .int (hexValue longDigits) := by
    rw [Subject.model, Subject.decoding, hdocument]
    exact ⟨_, _, rfl, rfl⟩
  refine ⟨tag, ?_, ?_⟩
  · rw [hmodel]
    exact List.mem_singleton_self tag
  · rw [hraw]
    exact .int longDigits_long

/-- An integer that is too long keeps the identifier out of the report. -/
theorem inspectSource_scansNothing :
    ∃ report, (memoryInspector.inspectSourceNext {} none "GTM-A1" (lostSource longDigits)
        default).1.1 = .ok report ∧
      ¬∀ hits, Vendor.scan Vendor.Library.standard (lostSource longDigits) [] = .ok hits →
        report.vendors.map (·.key) = hits.map (·.key) := by
  have hlost := inspectSource_loses memoryInspector tells_memoryStore {} none "GTM-A1"
    (lostSource longDigits) default (model_lostSource Container.decoderName _)
    (exists_key_lostSource longDigits)
  -- The two statements agree up to instances; unfolding more of them would run the inspection.
  with_reducible exact hlost

end TagAudit.Inspection
