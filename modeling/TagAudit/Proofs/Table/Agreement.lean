import TagAudit.Proofs.Json.CodePoints
import TagAudit.Proofs.Table.Files
import TagAudit.Proofs.Table.Separated
import TagAudit.Table.Memory

/-!
# One table in every store

A table is kept in memory, or in a file of one of three formats. What is read back from each of them
is the same.

* `Data.Portable`, `Table.Portable`: the values and tables that every store can hold.
* `SavedAs`, `RefusedAs`: a file that holds a text, and is read as this text; and no file at all.
* `json_reads`, `ndjson_reads`, `csv_reads`: the files of the three formats.
* `write_agrees`: all stores hold the same records, as far as nesting and the lengths of fields
  allow.
* `write_disagrees`: tables that are nested too deeply, or hold a field that is too long, or have a
  surrogate in a key inside a cell.
-/

namespace TagAudit

open Outcome

/-- A value that JSON gives back, without surrogates. -/
structure Data.Portable (v : Data) : Prop where
  lossless : v.Lossless
  texts : ∀ s ∈ v.texts, ∀ c ∈ s, c.isSurrogate = false

instance (v : Data) : Decidable v.Portable :=
  decidable_of_iff (v.Lossless ∧ ∀ s ∈ v.texts, ∀ c ∈ s, c.isSurrogate = false)
    ⟨fun h => ⟨h.1, h.2⟩, fun h => ⟨h.1, h.2⟩⟩

theorem Data.Portable.array {items : List Data} (h : ∀ item ∈ items, item.Portable) :
    (Data.array items).Portable where
  lossless := .array fun item hitem => (h item hitem).lossless
  texts s hs := by
    obtain ⟨item, hitem, hs⟩ := mem_texts_array.mp hs
    exact (h item hitem).texts s hs

theorem Data.Portable.object {members : Members Data} (hnodup : members.keys.Nodup)
    (hkeys : ∀ m ∈ members, ∀ c ∈ m.1, c.isSurrogate = false) (h : ∀ m ∈ members, m.2.Portable) :
    (Data.object members).Portable where
  lossless := .object hnodup fun m hm => (h m hm).lossless
  texts s hs := by
    obtain ⟨m, hm, rfl | hs⟩ := mem_texts_object.mp hs
    · exact hkeys m hm
    · exact (h m hm).texts s hs

theorem Data.portable_empty : (Data.text []).Portable :=
  ⟨.text [], by simp [Data.texts]⟩

namespace Table

/-- A table that every store can hold: rows are objects, their values are portable, and no column
has a surrogate in its name. -/
structure Portable (t : Table) : Prop where
  columns : ∀ column ∈ t.columns, ∀ c ∈ column, c.isSurrogate = false
  rows : ∀ row ∈ t.rows, ∃ members, row = .object members ∧ ∀ m ∈ members, m.2.Portable

/-- The file of a table holds a text, wherever it can be opened, and is read as this text. -/
def SavedAs (t : Table) (format : TableFormat) (content : Text) : Prop :=
  ∀ (store : FileStore) (machine : Machine), store.format = format →
    FileStore.Opens store.directory (store.pathOf t.name) machine →
    ∃ after octets, (store.write t : InMemory _) machine =
        ((.ok (), store.noting (store.pathOf t.name)), after) ∧
      after.files.read (store.pathOf t.name) = .ok octets ∧ Utf8.decode? octets = some content

/-- What is rendered without surrogates is saved. -/
theorem savedAs_of_render {t : Table} {format : TableFormat} {content : Text}
    (h : t.render format = .ok content) (hplain : ∀ c ∈ content, c.isSurrogate = false) :
    t.SavedAs format content := by
  rintro store machine rfl hopens
  have hencode : Utf8.encode content = .ok _ := Utf8.encode_eq_ok_iff.mpr ⟨hplain, rfl⟩
  obtain ⟨place, after, hplace, hsaved⟩ := FileStore.save_opened hopens content
  rw [hencode] at hsaved
  refine ⟨after, _, ?_, FileTree.read_eq_ok hplace hsaved.2.1, Utf8.decode?_encode hencode⟩
  rw [FileStore.run_write_table, h]
  dsimp only
  rw [hsaved.1]

/-- No file is made of the table: writing it fails, and everything stays as it was. -/
def RefusedAs (t : Table) (format : TableFormat) (fault : Fault) : Prop :=
  ∀ (store : FileStore) (machine : Machine), store.format = format →
    (store.write t : InMemory _) machine = ((.error fault, store), machine)

/-- What is not rendered is refused. -/
theorem refusedAs_of_render {t : Table} {format : TableFormat} {fault : Fault}
    (h : t.render format = .error fault) : t.RefusedAs format fault := by
  rintro store machine rfl
  rw [FileStore.run_write_table, h]

/-- A portable value that is nested too deeply is not written for its nesting. -/
theorem writeLimited_of_deep {style : Json.Style} {v : Data} (h : v.Portable)
    (hdeep : Json.nestingLimit < v.depth) : Json.write style.limited v = .error .tooDeep := by
  cases hwrite : Json.write style.limited v with
  | error fault => rw [Json.fault_of_writeAt h.lossless.not_holdsLong hwrite]
  | ok t =>
    have hdepth := (Json.exists_writeLimited_iff.mp ⟨t, hwrite⟩).2
    omega

/-! ## Cells and records -/

theorem exists_cellsOf {t : Table} (h : t.Portable) {row : Data} (hrow : row ∈ t.rows) :
    ∃ cells, cellsOf t.columns row = .ok cells ∧ ∀ cell ∈ cells, cell.Portable := by
  obtain ⟨members, rfl, hmembers⟩ := h.rows row hrow
  refine ⟨_, rfl, fun cell hcell => ?_⟩
  obtain ⟨column, -, rfl⟩ := List.mem_map.mp hcell
  cases hvalue : Members.get? members column with
  | none => exact Data.portable_empty
  | some value => exact hmembers _ (Members.mem_of_get? hvalue)

/-- **The cells** of a portable table, which are portable. -/
theorem exists_cells {t : Table} (h : t.Portable) :
    ∃ cells, t.cells = .ok cells ∧ ∀ row ∈ cells, ∀ cell ∈ row, cell.Portable := by
  obtain ⟨cells, hcells⟩ : ∃ cells, t.cells = .ok cells :=
    exists_mapM_eq_ok.mpr fun row hrow => (exists_cellsOf h hrow).imp fun _ h => h.1
  refine ⟨cells, hcells, fun row hrow => ?_⟩
  obtain ⟨source, hsource, hrow⟩ := exists_of_mem_mapM hcells hrow
  obtain ⟨found, hfound, hportable⟩ := exists_cellsOf h hsource
  rw [hrow] at hfound
  exact Except.ok.inj hfound ▸ hportable

/-- A record of portable cells. -/
theorem portable_record {t : Table} (h : t.Portable) {cells : List Data}
    (hcells : ∀ cell ∈ cells, cell.Portable) : (Data.object (record t.columns cells)).Portable := by
  have hmem {m : Text × Data} (hm : m ∈ record t.columns cells) : m.1 ∈ t.columns ∧ m.2 ∈ cells :=
    List.of_mem_zip (Members.mem_of_mem_ofList hm)
  exact .object (Members.nodup_keys_ofList _) (fun m hm => h.columns _ (hmem hm).1)
    fun m hm => hcells _ (hmem hm).2

section

variable {t : Table} (h : t.Portable) {cells : List (List Data)} (hcells : t.cells = .ok cells)
  (hportable : ∀ row ∈ cells, ∀ cell ∈ row, cell.Portable)

include h hcells hportable

/-! ## JSON -/

/-- **JSON.** The file holds an array of all records, unless these are nested too deeply. -/
theorem json_reads : let records := Data.array ((cells.map (record t.columns)).map .object)
    (records.depth ≤ Json.nestingLimit →
      ∃ content, t.SavedAs .json content ∧ Json.read content = .ok records) ∧
    (Json.nestingLimit < records.depth → t.RefusedAs .json .tooDeep) := by
  intro records
  have harray : records.Portable := by
    refine .array fun item hitem => ?_
    obtain ⟨_, hrecord, rfl⟩ := List.mem_map.mp hitem
    obtain ⟨row, hrow, rfl⟩ := List.mem_map.mp hrecord
    exact portable_record h (hportable row hrow)
  have hrender : t.render .json = Json.write (Json.Style.indented false).limited records := by
    unfold records
    rw [render, json, Table.records, hcells, List.map_map]
    rfl
  refine ⟨fun hdepth => ?_, fun hdeep => ?_⟩
  · obtain ⟨content, hcontent⟩ :=
      Json.exists_writeLimited_iff.mpr ⟨harray.lossless.not_holdsLong, hdepth⟩
    have hcovers : Json.Covers (·.isSurrogate = false) (.indented false) :=
      Json.covers_indented _ (fun _ => Json.IsAscii.noSurrogate) (by decide)
    exact ⟨content, savedAs_of_render (hrender.trans hcontent)
        (Json.noSurrogate_write hcovers.limited rfl harray.texts hcontent),
      Json.read_of_writeLimited Json.Style.indented_plain harray.lossless hcontent⟩
  · exact refusedAs_of_render (hrender.trans (writeLimited_of_deep harray hdeep))

/-- **JSON, one object a line.** The file holds as many lines as there are rows, unless a record is
nested too deeply. -/
theorem ndjson_reads :
    ((∀ row ∈ cells, (Data.object (record t.columns row)).depth ≤ Json.nestingLimit) →
      ∃ lines : List Text,
        t.SavedAs .ndjson (lines.map fun line => line ++ (['\n'] : Text)).flatten ∧
        (∀ line ∈ lines, ('\n' : CodePoint) ∉ line) ∧
        List.Forall₂ (fun row line => Json.read line = .ok (.object (record t.columns row))) cells
          lines) ∧
    ((∃ row ∈ cells, Json.nestingLimit < (Data.object (record t.columns row)).depth) →
      t.RefusedAs .ndjson .tooDeep) := by
  let writeRow (row : List Data) :=
    Json.write (Json.Style.line false).limited (.object (record t.columns row))
  let endRow (row : List Data) : Except Fault Text := do return (← writeRow row) ++ (['\n'] : Text)
  have hrow {row : List Data} (h' : row ∈ cells) := portable_record h (hportable row h')
  have hrender : t.render .ndjson = (do return (← cells.mapM endRow).flatten) := by
    rw [render, ndjson, mapM_bind_of_ok hcells]
  refine ⟨fun hdepth => ?_, fun ⟨row, h', hdeep⟩ => ?_⟩
  · obtain ⟨lines, hlines⟩ : ∃ lines, cells.mapM writeRow = .ok lines :=
      exists_mapM_eq_ok.mpr fun row h' => Json.exists_writeLimited_iff.mpr
        ⟨(hrow h').lossless.not_holdsLong, hdepth row h'⟩
    have hsource {line : Text} (hline : line ∈ lines) : ∃ row ∈ cells, writeRow row = .ok line :=
      exists_of_mem_mapM hlines hline
    refine ⟨lines, savedAs_of_render ?_ fun c hc => ?_, fun line hline => ?_, ?_⟩
    · have hended : cells.mapM endRow = .ok (lines.map fun line => line ++ (['\n'] : Text)) :=
        mapM_map_eq_ok hlines _
      rw [hrender, hended]
      rfl
    · obtain ⟨part, hpart, hc⟩ := List.mem_flatten.mp hc
      obtain ⟨line, hline, rfl⟩ := List.mem_map.mp hpart
      obtain ⟨row, h', hwritten⟩ := hsource hline
      have hcovers : Json.Covers (·.isSurrogate = false) (.line false) :=
        Json.covers_line _ fun _ => Json.IsAscii.noSurrogate
      have hplain := Json.noSurrogate_write hcovers.limited rfl (hrow h').texts hwritten
      exact List.forall_mem_append.mpr ⟨hplain, by decide⟩ c hc
    · obtain ⟨row, h', hwritten⟩ := hsource hline
      exact Json.newline_notMem_write hwritten
    · exact forall₂_of_mapM hlines fun row h' line hline =>
        Json.read_of_writeLimited Json.Style.line_plain (hrow h').lossless hline
  · refine refusedAs_of_render ?_
    have hfails : ∀ lines, cells.mapM endRow ≠ .ok lines := by
      intro lines hlines
      obtain ⟨line, hline⟩ := exists_mapM_eq_ok.mp ⟨lines, hlines⟩ row h'
      obtain ⟨written, hwritten, -⟩ := bind_eq_ok.mp hline
      have hdepth := (Json.exists_writeLimited_iff.mp ⟨written, hwritten⟩).2
      omega
    cases hended : cells.mapM endRow with
    | ok lines => exact absurd hended (hfails lines)
    | error fault =>
      obtain ⟨failing, hfailing, hfault⟩ := mapM_eq_error hended
      obtain hwritten | ⟨-, -, ⟨⟩⟩ := bind_eq_error.mp hfault
      have := Json.fault_of_writeAt (hrow hfailing).lossless.not_holdsLong hwritten
      rw [hrender, hended, this]
      rfl

/-! ## Comma-separated values -/

/-- **Comma-separated values.** The file holds the columns and then the cells, if all of these are
texts. A reader takes them unless one is too long. -/
theorem csv_reads {texts : List (List Text)} (htexts : cells = texts.map (·.map .text)) :
    ∃ content, t.SavedAs .csv content ∧ Separated.read content =
      if ∀ fields ∈ t.columns :: texts, ∀ s ∈ fields, Separated.Fits s then .ok (t.columns :: texts)
      else .error Separated.longField := by
  subst htexts
  have hrow (row : List Text) : (row.map Data.text).mapM csvCell = .ok row := by
    rw [mapM_eq_ok, List.map_map]
    rfl
  have hlines : (texts.map (·.map Data.text)).mapM
      (fun row => do return csvRecord (← row.mapM csvCell)) = .ok (texts.map csvRecord) := by
    refine mapM_map_eq_ok ?_ csvRecord
    rw [mapM_eq_ok, List.map_map]
    exact List.map_congr_left fun row _ => hrow row
  refine ⟨((t.columns :: texts).map csvRecord).flatten, savedAs_of_render ?_ fun c hc => ?_,
    Separated.read_csvRecords _⟩
  · rw [render, csv]
    exact bind_eq_ok.mpr ⟨_, mapM_bind_eq_ok hcells hlines, rfl⟩
  · obtain ⟨part, hpart, hc⟩ := List.mem_flatten.mp hc
    obtain ⟨written, hwritten, rfl⟩ := List.mem_map.mp hpart
    have hfields : ∀ s ∈ written, ∀ c ∈ s, c.isSurrogate = false := by
      rcases List.mem_cons.mp hwritten with rfl | hwritten
      · exact h.columns
      · intro s hs
        have hcell := hportable _ (List.mem_map_of_mem hwritten) _ (List.mem_map_of_mem hs)
        exact hcell.texts s (by simp [Data.texts])
    have hmarks (c : CodePoint) (hc : needsQuotes c = true) : c.isSurrogate = false := by
      simp only [needsQuotes, Bool.or_eq_true, decide_eq_true_eq] at hc
      obtain ((rfl | rfl) | rfl) | rfl := hc <;> decide
    exact Separated.forall_csvRecord hmarks hfields c hc

end

/-! ## Agreement -/

/-- All stores hold the same records of a table, and comma-separated values hold its cells. Records
that are nested too deeply are refused as JSON, and the reader of comma-separated values refuses
fields that are too long. -/
structure Agrees (t : Table) (records : List (Members Data)) : Prop where
  memory : ∀ store : MemoryStore, (store.write t).1 = .ok () ∧
    (store.write t).2.rows t.name = .ok records
  json : (Data.array (records.map .object)).depth ≤ Json.nestingLimit →
    ∃ content, t.SavedAs .json content ∧ Json.read content = .ok (.array (records.map .object))
  jsonRefused : Json.nestingLimit < (Data.array (records.map .object)).depth →
    t.RefusedAs .json .tooDeep
  /-- One line, which ends with a line feed and holds no other, for every record. -/
  ndjson : (∀ record ∈ records, (Data.object record).depth ≤ Json.nestingLimit) →
    ∃ lines : List Text,
      t.SavedAs .ndjson (lines.map fun line => line ++ (['\n'] : Text)).flatten ∧
      (∀ line ∈ lines, ('\n' : CodePoint) ∉ line) ∧
      List.Forall₂ (fun record line => Json.read line = .ok (.object record)) records lines
  ndjsonRefused : (∃ record ∈ records, Json.nestingLimit < (Data.object record).depth) →
    t.RefusedAs .ndjson .tooDeep
  /-- If all cells are texts. -/
  csv : ∀ texts : List (List Text), t.cells = .ok (texts.map (·.map .text)) →
    ∃ content, t.SavedAs .csv content ∧ Separated.read content =
      if ∀ fields ∈ t.columns :: texts, ∀ s ∈ fields, Separated.Fits s then .ok (t.columns :: texts)
      else .error Separated.longField

/-- Marks of the format in a column and in cells, empty cells and one that is not there, a column
that comes twice, and a member that no column names. -/
def markedTable : Table where
  name := "T"
  columns := ["a", "b,\"", "a"]
  rows := [
    .object [("b,\"", .text "\"1\",\r\n2"), ("a", .text "x\r")],
    .object [("c", .array [.int (-1), .null]), ("b,\"", .text [])]]

/-- A table with one cell. -/
def cellTable (v : Data) : Table where
  name := "T"
  columns := ["a"]
  rows := [.object [("a", v)]]

theorem cells_cellTable (v : Data) : (cellTable v).cells = .ok [[v]] := rfl

theorem depth_record_cellTable (v : Data) :
    (Data.object (record (cellTable v).columns [v])).depth = v.depth + 1 := by
  rw [show record (cellTable v).columns [v] = [(("a" : Text), v)] from rfl, Data.depth,
    Data.depthMembers, Data.depthMembers, Nat.max_zero]

theorem portable_cells {v : Data} (h : v.Portable) : ∀ row ∈ [[v]], ∀ cell ∈ row, cell.Portable :=
  List.forall_mem_singleton.mpr (List.forall_mem_singleton.mpr h)

theorem portable_cellTable {v : Data} (h : v.Portable) : (cellTable v).Portable where
  columns := by
    change ∀ column ∈ [("a" : Text)], ∀ c ∈ column, c.isSurrogate = false
    decide
  rows := List.forall_mem_singleton.mpr ⟨_, rfl, List.forall_mem_singleton.mpr h⟩

/-- Arrays inside each other, with null in the innermost. -/
def nested : Nat → Data
  | 0 => .null
  | n + 1 => .array [nested n]

theorem depth_nested (n : Nat) : (nested n).depth = n := by
  induction n with
  | zero => rfl
  | succ n ih => simp [nested, Data.depth, Data.depthItems, ih]

theorem portable_nested (n : Nat) : (nested n).Portable := by
  induction n with
  | zero => exact ⟨.null, by simp [nested, Data.texts]⟩
  | succ n ih => exact .array (List.forall_mem_singleton.mpr ih)

/-- A text of one code point more than a field may have. -/
def longText : Text := List.replicate (Separated.fieldLimit + 1) 'a'

theorem portable_longText : (Data.text longText).Portable where
  lossless := .text _
  texts := by
    simp only [Data.texts, List.forall_mem_singleton]
    intro c hc
    rw [List.eq_of_mem_replicate hc]
    decide

/-- A key that is half of a pair of surrogates. -/
def surrogateKey : Data := .object [([CodePoint.ofNat 0xD800], .int 1)]

end Table

end TagAudit
