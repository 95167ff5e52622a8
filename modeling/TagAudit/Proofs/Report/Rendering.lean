import TagAudit.Proofs.Text.Utf8
import TagAudit.Proofs.Vendor.Scan
import TagAudit.Proofs.Yaml.CodePoints
import TagAudit.Report.Summary

/-!
# Which summaries have an encoding

As JSON and as YAML a summary is written in ASCII, whatever its labels are. As text it shows them as
they are, so that a surrogate in one of them leaves the whole text without an encoding.

* `Summary.IsFit`: what a summary has to be like, by format.
* `Summary.exists_render_iff`: these summaries are rendered and have an encoding.
* `Summary.not_isFit_of_type`: as text, a surrogate in the type of one tag is enough.
-/

namespace TagAudit

open Outcome

/-- JSON in ASCII has an encoding, whatever the texts in the value are. -/
theorem Json.exists_writeAscii_iff {v : Data} :
    (∃ t, Json.write (.indented true) v = .ok t ∧ t.IsEncodable) ↔ ¬v.HoldsLong := by
  have hwrite : (∃ t, Json.write (.indented true) v = .ok t) ↔ ¬v.HoldsLong :=
    Json.exists_write_iff rfl
  rw [← hwrite]
  exact ⟨fun ⟨t, ht, _⟩ => ⟨t, ht⟩, fun ⟨t, ht⟩ => ⟨t, ht, Json.noSurrogate_writeAscii ht⟩⟩

namespace Summary

/-- What a summary has to be like to be rendered with an encoding: as text it may not show
surrogates, and as data it may not hold a number that is too long to be written. -/
def IsFit (s : Summary) (verbose : Bool) : SummaryFormat → Prop
  | .text => (Text.join "\n" (s.lines verbose)).IsEncodable
  | .json | .yaml => ¬(Data.object s.toMembers).HoldsLong

/-- **Rendering.** -/
theorem exists_render_iff (s : Summary) (verbose : Bool) (format : SummaryFormat) :
    (∃ t, s.render format verbose = .ok t ∧ t.IsEncodable) ↔ s.IsFit verbose format := by
  cases format with
  | text =>
    refine ⟨?_, fun h => ⟨_, rfl, h⟩⟩
    rintro ⟨_, ⟨⟩, h⟩
    exact h
  | json => exact Json.exists_writeAscii_iff
  | yaml =>
    exact ((Yaml.yields_write s.toMembers).imp fun _ => Yaml.NoSpecial.noSurrogate).exists_iff

/-! ## Labels -/

theorem mem_join {separator : Text} {parts : List Text} {part : Text} {c : CodePoint}
    (hpart : part ∈ parts) (hc : c ∈ part) : c ∈ Text.join separator parts := by
  induction parts with
  | nil => cases hpart
  | cons first rest ih =>
    cases rest with
    | nil =>
      obtain rfl := List.mem_singleton.mp hpart
      simpa [Text.join, List.intercalate] using hc
    | cons second rest =>
      have hjoin : Text.join separator (first :: second :: rest) =
          first ++ (separator ++ Text.join separator (second :: rest)) := by
        simp [Text.join, List.intercalate]
      rw [hjoin, List.mem_append, List.mem_append]
      obtain rfl | hrest := List.mem_cons.mp hpart
      · exact .inl hc
      · exact .inr (.inr (ih hrest))

/-- Every label of a record is that of a group. -/
theorem exists_group {α : Type} (label : α → Text) (related : List α → List Text)
    {records : List α} {record : α} (hrecord : record ∈ records) :
    ∃ g ∈ groupBy label related records, g.label = Group.labelOf (label record) := by
  refine ⟨_, List.mem_map.mpr ⟨Group.labelOf (label record), ?_, rfl⟩, rfl⟩
  refine List.mem_mergeSort.mpr (Vendor.mem_distinct.mpr ?_)
  rw [List.map_map]
  exact List.mem_map.mpr ⟨record, hrecord, rfl⟩

/-- Every label is shown by the section of its groups. -/
theorem exists_line_of_label (title : String) {groups : List Group} {g : Group} (hg : g ∈ groups) :
    ∃ line ∈ groupSection title groups, ∀ c ∈ g.label, c ∈ line := by
  have hne : groups.isEmpty = false := List.isEmpty_eq_false_iff.mpr (List.ne_nil_of_mem hg)
  unfold groupSection
  rw [hne, if_neg Bool.false_ne_true]
  refine ⟨_, List.mem_append_left _ (List.mem_append_right _ (List.mem_map_of_mem hg)), ?_⟩
  intro c hc
  simp [counted, hc]

/-- A surrogate in the type of one tag is shown by the text. -/
theorem not_isFit_of_type {container : Text} {generatedAt : Moment} {model : Model}
    {vendors : List VendorHit} {verbose : Bool} {tag : Tag} {c : CodePoint}
    (htag : tag ∈ model.tags) (hc : c ∈ tag.type) (hsurrogate : c.isSurrogate = true) :
    ¬(Summary.of container generatedAt model vendors).IsFit verbose .text := by
  intro hfit
  have hlabel : Group.labelOf tag.type = tag.type :=
    if_neg (by simpa using List.ne_nil_of_mem hc)
  obtain ⟨g, hg, hgroup⟩ := exists_group Tag.type
    (fun tags => Group.distinctLabels (tags.map (·.vendor))) htag
  obtain ⟨line, hline, hshown⟩ := exists_line_of_label "TAGS BY TYPE" hg
  rw [hgroup, hlabel] at hshown
  have hlines : line ∈ (Summary.of container generatedAt model vendors).lines verbose := by
    unfold lines
    simp only [List.mem_append]
    exact .inl (.inl (.inl (.inl (.inr hline))))
  have hplain := hfit c (mem_join hlines (hshown c hc))
  rw [hsurrogate] at hplain
  cases hplain

end Summary

end TagAudit
