import TagAudit.Literal.Evaluation
import TagAudit.Proofs.Container.Locality
import TagAudit.Proofs.Json.Printing

/-!
# The raw column

The row of a tag, a trigger or a variable ends with the raw record as text. Every record that JSON
gives back can be had from that text again, in its order of keys and with lone surrogates in place,
and the row of a placeholder shows its record as well.

* `Recoverable`, `exists_rawCell`: the raw records that come back, and their text.
* `ShowsRaw`: a row whose raw cell evaluates to a value.
* `decode_showsRaw`: the rows of a whole model show the records of its document.
-/

namespace TagAudit

/-- A value that comes back from its text: JSON gives it back, and it is not nested too deep. -/
structure Data.Recoverable (raw : Data) : Prop where
  lossless : raw.Lossless
  nesting : raw.nesting ≤ Json.depthLimit

/-- A row with a raw cell that evaluates to a value. -/
def ShowsRaw (row : Except Fault Row) (raw : Data) : Prop :=
  ∃ cells cell, row = .ok cells ∧ Members.get? cells "raw" = some (.text cell) ∧
    Literal.evaluate cell = .ok raw

/-- **The text of a raw record** evaluates to the record. -/
theorem exists_rawCell {raw : Data} (h : raw.Recoverable) :
    ∃ cell, rawColumn raw = .ok cell ∧ Literal.evaluate cell = .ok raw := by
  obtain ⟨cell, hcell⟩ : ∃ t, Json.write .compact raw = .ok t :=
    (Json.exists_write_iff rfl).mpr h.lossless.not_holdsLong
  have hread : Json.read cell = .ok raw :=
    Json.readWithin_of_write Json.Style.compact_plain h.lossless hcell h.nesting
  exact ⟨cell, by rw [rawColumn, hcell], Literal.evaluate_of_read hread⟩

/-- A row that is made of the text of a raw record, and has it in its raw cell. -/
theorem showsRaw_of {raw : Data} (h : raw.Recoverable) {cells : Text → Row}
    (hcells : ∀ cell, Members.get? (cells cell) "raw" = some (.text cell)) :
    ShowsRaw (do return cells (← rawColumn raw)) raw := by
  obtain ⟨cell, hcell, hevaluate⟩ := exists_rawCell h
  exact ⟨cells cell, cell, by rw [hcell]; rfl, hcells cell, hevaluate⟩

namespace Container

/-- Where every raw record has a record at its place, every record is that of a raw one. -/
theorem exists_raw {α : Type} {records : List α} {raws : List Data}
    (hlength : records.length = raws.length) {P : Nat → Data → α → Prop}
    (hrecords : ∀ (i : Nat) (raw : Data), raws[i]? = some raw →
      ∃ record, records[i]? = some record ∧ P i raw record)
    {i : Nat} {record : α} (h : records[i]? = some record) :
    ∃ raw, raws[i]? = some raw ∧ P i raw record := by
  obtain ⟨hi, -⟩ := List.getElem?_eq_some_iff.mp h
  have hraw : raws[i]? = some raws[i] := List.getElem?_eq_getElem (hlength ▸ hi)
  obtain ⟨other, hother, hP⟩ := hrecords i _ hraw
  rw [h] at hother
  cases hother
  exact ⟨_, hraw, hP⟩

/-- A model whose rows show the records of its document, each at the position of its record. -/
structure ShowsDocument (doc : Document) (container : Text) (m : Model) : Prop where
  tags : ∀ (i : Nat) (tag : Tag), m.tags[i]? = some tag → tag.position = i ∧
    ∃ raw, doc.tags[i]? = some raw ∧ ShowsRaw (tag.toRow container) raw
  triggers : ∀ (i : Nat) (trigger : Trigger), m.triggers[i]? = some trigger → trigger.position = i ∧
    ∃ raw, doc.rules[i]? = some raw ∧ ShowsRaw (trigger.toRow container) raw
  vars : ∀ (i : Nat) (v : Variable), m.vars[i]? = some v → v.position = i ∧
    ∃ raw, doc.macros[i]? = some raw ∧ ShowsRaw (v.toRow container) raw

/-- **The raw column** of every model shows the source records, of placeholders too. -/
theorem decode_showsRaw {d : Decoder} {doc : Document} {m : Model} (h : (d.decode doc).1 = .ok m)
    (hraws : ∀ raw ∈ doc.tags ++ doc.rules ++ doc.macros, raw.Recoverable) (container : Text) :
    ShowsDocument doc container m := by
  rw [decode_eq_ofDocument] at h
  obtain ⟨ids, hids, rfl⟩ := ofDocument_eq_ok_iff.mp h
  have hrecorded := modelWith_recorded hids d.name
  have hraw {raws : List Data} (hsub : raws ⊆ doc.tags ++ doc.rules ++ doc.macros) {i : Nat}
      {raw : Data} (h : raws[i]? = some raw) : raw.Recoverable :=
    hraws raw (hsub (List.mem_of_getElem? h))
  refine ⟨fun i tag htag => ?_, fun i trigger htrigger => ?_, fun i v hv => ?_⟩
  · obtain ⟨raw, hi, hposition, rfl, -⟩ := exists_raw hrecorded.length_tags hrecorded.tags htag
    exact ⟨hposition, tag.raw, hi, showsRaw_of (hraw (by simp) hi) fun _ => rfl⟩
  · obtain ⟨raw, hi, hposition, rfl, -⟩ :=
      exists_raw hrecorded.length_triggers hrecorded.triggers htrigger
    exact ⟨hposition, trigger.raw, hi, showsRaw_of (hraw (by simp) hi) fun _ => rfl⟩
  · obtain ⟨raw, hi, hposition, rfl, -⟩ := exists_raw hrecorded.length_vars hrecorded.vars hv
    exact ⟨hposition, v.raw, hi, showsRaw_of (hraw (by simp) hi) fun _ => rfl⟩

/-- The halves of a surrogate pair next to each other and one of them alone, controls, quotes and
backslashes in keys and texts, a negative number, a tag and a variable that are no maps, and a rule
whose positions cannot be read. -/
def rawDocument : Document where
  tags := [
    .object [("vtp_html", .text [CodePoint.ofNat 0xD83D, CodePoint.ofNat 0xDE00, '\x00', '"']),
      ("function", .text "__html"), ("\\u\n", .array [.int (-12), .object [], .null])],
    .text [CodePoint.ofNat 0xDC00]]
  rules := [.object [("tags", .array [.int 0, .text "²"])]]
  macros := [.array [.bool true, .array []]]

theorem rawDocument_showsRaw :
    (∀ raw ∈ rawDocument.tags ++ rawDocument.rules ++ rawDocument.macros, raw.Recoverable) ∧
    ∃ m, (({} : Decoder).decode rawDocument).1 = .ok m ∧ ShowsDocument rawDocument "GTM-1" m ∧
      m.issues.map (·.operation) =
        (["normalize_rule", "decode_tag", "decode_variable"] : List Text) := by
  have hraws : ∀ raw ∈ rawDocument.tags ++ rawDocument.rules ++ rawDocument.macros,
      raw.Recoverable := by
    have hdecide : ∀ raw ∈ rawDocument.tags ++ rawDocument.rules ++ rawDocument.macros,
        raw.Lossless ∧ raw.nesting ≤ Json.depthLimit := by decide +kernel
    exact fun raw h => ⟨(hdecide raw h).1, (hdecide raw h).2⟩
  obtain ⟨m, hm⟩ : ∃ m, (({} : Decoder).decode rawDocument).1 = .ok m := ⟨_, rfl⟩
  refine ⟨hraws, m, hm, decode_showsRaw hm hraws "GTM-1", ?_⟩
  cases hm
  decide +kernel

end Container

end TagAudit
