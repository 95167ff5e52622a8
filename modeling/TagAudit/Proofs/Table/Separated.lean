import TagAudit.Proofs.Outcome
import TagAudit.Table.Format

/-!
# Reading comma-separated values

A reader of comma-separated values, which takes a text one code point at a time. Commas stand
between fields, and any line break ends a record. A field may stand between quotes, which are
doubled inside it, and may not be longer than `fieldLimit`. A line with nothing on it is a record
without fields.

* `Reader.step`, `read`: the reader.
* `run_take`: what it makes of the code points of a field, up to the limit.
* `run_field`, `run_fields`, `run_record`: what it makes of a field, of fields and of a record as
  they are written.
* `read_csvRecords`: the records that were written are read, whatever their fields hold, unless a
  field is too long.
-/

namespace TagAudit.Separated

open Outcome (ok_bind)

/-- How long a field may be. -/
def fieldLimit : Nat := 131072

/-- A field is too long. -/
def longField : Fault := .worded (.other "Error") "field larger than field limit (131072)"

/-- Where a reader stands. -/
inductive Place where
  /-- In front of a record. -/
  | record
  /-- Behind the carriage return at the end of a record. -/
  | returned
  /-- In front of a field that is not the first. -/
  | field
  /-- Inside a field, outside quotes. -/
  | plain
  /-- Between quotes. -/
  | quoted
  /-- Behind a quote that closes a field, unless it is doubled. -/
  | closing
deriving DecidableEq

/-- A reader: where it stands, and what it has read. -/
structure Reader where
  place : Place := .record
  /-- The code points of the unfinished field, in reverse. -/
  field : Text := []
  /-- The fields of the unfinished record, in reverse. -/
  fields : List Text := []
  /-- The records, in reverse. -/
  records : List (List Text) := []

namespace Reader

/-- A code point goes into the field, if there is room for it. -/
def take (place : Place) (r : Reader) (c : CodePoint) : Except Fault Reader :=
  if r.field.length < fieldLimit then .ok { r with place, field := c :: r.field }
  else .error longField

/-- The field ends. -/
def endField (r : Reader) : Reader :=
  { r with place := .field, field := [], fields := r.field.reverse :: r.fields }

/-- The record ends, with a line break. -/
def endRecord (r : Reader) (c : CodePoint) : Reader where
  place := if c = '\r' then .returned else .record
  records := r.fields.reverse :: r.records

/-- Outside quotes. -/
def stepPlain (r : Reader) (c : CodePoint) : Except Fault Reader :=
  if c = '\n' ∨ c = '\r' then .ok (r.endField.endRecord c)
  else if c = ',' then .ok r.endField
  else take .plain r c

/-- In front of a field. -/
def stepField (r : Reader) (c : CodePoint) : Except Fault Reader :=
  if c = '"' then .ok { r with place := .quoted } else r.stepPlain c

/-- In front of a record: a line break here stands for a record without fields. -/
def stepRecord (r : Reader) (c : CodePoint) : Except Fault Reader :=
  if c = '\n' ∨ c = '\r' then .ok (r.endRecord c) else r.stepField c

/-- Takes one code point. -/
def step (r : Reader) (c : CodePoint) : Except Fault Reader :=
  match r.place with
  | .record => r.stepRecord c
  | .returned => if c = '\n' then .ok { r with place := .record } else r.stepRecord c
  | .field => r.stepField c
  | .plain => r.stepPlain c
  | .quoted => if c = '"' then .ok { r with place := .closing } else take .quoted r c
  | .closing => if c = '"' then take .quoted r c else r.stepPlain c

/-- The records at the end of a text. -/
def finish (r : Reader) : List (List Text) :=
  match r.place with
  | .record | .returned => r.records.reverse
  | .field | .plain | .quoted | .closing => (r.endField.fields.reverse :: r.records).reverse

end Reader

/-- The records of a text. -/
def read (text : Text) : Except Fault (List (List Text)) := do
  return (← text.foldlM Reader.step {}).finish

/-- A field that is short enough to be read. -/
def Fits (t : Text) : Prop := t.length ≤ fieldLimit

instance (t : Text) : Decidable (Fits t) := inferInstanceAs (Decidable (_ ≤ _))

/-! ## Fields -/

open Reader

theorem needsQuotes_eq_false {c : CodePoint} (h : needsQuotes c = false) :
    c ≠ ',' ∧ c ≠ '"' ∧ ¬(c = '\n' ∨ c = '\r') := by
  simpa [needsQuotes, and_assoc] using h

theorem place_take {place : Place} {r r' : Reader} {c : CodePoint} (h : take place r c = .ok r') :
    r'.place = place := by
  unfold take at h
  split at h
  · cases h
    rfl
  · cases h

/-- **The limit.** Code points go into a field as long as there is room for them. -/
theorem run_take (place : Place) (r : Reader) (c : CodePoint) (t : Text) :
    (c :: t).foldlM (take place) r =
      if r.field.length + (c :: t).length ≤ fieldLimit then
        .ok { r with place, field := (c :: t).reverse ++ r.field }
      else .error longField := by
  induction t generalizing r c with
  | nil =>
    have hone : r.field.length + [c].length ≤ fieldLimit ↔ r.field.length < fieldLimit := Iff.rfl
    rw [List.foldlM_cons, take]
    by_cases hroom : r.field.length < fieldLimit
    · rw [if_pos hroom, ok_bind, if_pos (hone.mpr hroom)]
      rfl
    · rw [if_neg hroom, if_neg (mt hone.mp hroom)]
      rfl
  | cons d t ih =>
    rw [List.foldlM_cons, take]
    by_cases hroom : r.field.length < fieldLimit
    · rw [if_pos hroom, ok_bind, ih]
      simp [Nat.add_comm, Nat.add_left_comm]
    · rw [if_neg hroom, if_neg (by simp only [List.length_cons]; omega)]
      rfl

/-- Text without marks stands for itself. -/
theorem run_plain {t : Text} (h : ∀ c ∈ t, needsQuotes c = false) {r : Reader}
    (hplace : r.place = .plain) : t.foldlM step r = t.foldlM (take .plain) r := by
  induction t generalizing r with
  | nil => rfl
  | cons c t ih =>
    obtain ⟨hc, ht⟩ := List.forall_mem_cons.mp h
    obtain ⟨hcomma, -, hbreak⟩ := needsQuotes_eq_false hc
    have hstep : step r c = take .plain r c := by
      simp only [step, hplace, stepPlain, if_neg hbreak, if_neg hcomma]
    rw [List.foldlM_cons, List.foldlM_cons, hstep]
    exact Outcome.bind_congr_of_ok fun _ htake => ih ht (place_take htake)

/-- Between quotes, everything stands for itself but the quotes, which are doubled. -/
theorem run_quoted (t : Text) {r : Reader} (hplace : r.place = .quoted) :
    (t.flatMap fun (c : CodePoint) => if c = '"' then [c, c] else [c]).foldlM step r =
      t.foldlM (take .quoted) r := by
  induction t generalizing r with
  | nil => rfl
  | cons c t ih =>
    have hstep : (if c = '"' then [c, c] else [c] : Text).foldlM step r = take .quoted r c := by
      by_cases hc : c = '"'
      · subst hc
        rw [if_pos rfl, List.foldlM_cons, step, hplace]
        exact bind_pure (take .quoted { r with place := .closing } '"')
      · rw [if_neg hc, List.foldlM_cons, step, hplace]
        simp only [if_neg hc]
        exact bind_pure (take .quoted r c)
    rw [List.flatMap_cons, List.foldlM_append, hstep, List.foldlM_cons]
    exact Outcome.bind_congr_of_ok fun _ htake => ih (place_take htake)

section

variable (fields : List Text) (records : List (List Text))

/-- **A field** is read up to its end, unless it is too long. Only an empty one leaves the reader
where it was. -/
theorem run_field {place : Place} (hplace : place = .record ∨ place = .field) (t : Text) :
    (Fits t ∧ ∃ after, (csvField t).foldlM step ⟨place, [], fields, records⟩ =
        .ok ⟨after, t.reverse, fields, records⟩ ∧
      (after = .plain ∨ after = .closing ∨ t = [] ∧ after = place)) ∨
    ¬Fits t ∧ (csvField t).foldlM step ⟨place, [], fields, records⟩ = .error longField := by
  cases t with
  | nil => exact .inl ⟨Nat.zero_le _, place, rfl, .inr (.inr ⟨rfl, rfl⟩)⟩
  | cons c t =>
    have hroom : ([] : Text).length + (c :: t).length ≤ fieldLimit ↔ Fits (c :: t) := by
      rw [List.length_nil, Nat.zero_add, Fits]
    unfold csvField
    split
    case isTrue =>
      have hopen : step ⟨place, [], fields, records⟩ '"' = .ok ⟨.quoted, [], fields, records⟩ := by
        rcases hplace with rfl | rfl <;> rfl
      rw [List.cons_append, List.foldlM_cons, hopen, ok_bind, List.foldlM_append,
        run_quoted _ rfl, run_take]
      by_cases hfits : Fits (c :: t)
      · rw [if_pos (hroom.mpr hfits), ok_bind]
        refine .inl ⟨hfits, .closing, ?_, .inr (.inl rfl)⟩
        rw [List.append_nil]
        rfl
      · rw [if_neg (mt hroom.mp hfits)]
        exact .inr ⟨hfits, rfl⟩
    case isFalse hplain =>
      have hplain : ∀ d ∈ c :: t, needsQuotes d = false := by simpa using hplain
      obtain ⟨hc, ht⟩ := List.forall_mem_cons.mp hplain
      obtain ⟨hcomma, hquote, hbreak⟩ := needsQuotes_eq_false hc
      have hfirst : step ⟨place, [], fields, records⟩ c =
          take .plain ⟨place, [], fields, records⟩ c := by
        rcases hplace with rfl | rfl <;>
          simp only [step, stepRecord, stepField, stepPlain, if_neg hbreak, if_neg hquote,
            if_neg hcomma]
      have hrun : (c :: t).foldlM step ⟨place, [], fields, records⟩ =
          (c :: t).foldlM (take .plain) ⟨place, [], fields, records⟩ := by
        rw [List.foldlM_cons, List.foldlM_cons, hfirst]
        exact Outcome.bind_congr_of_ok fun _ htake => run_plain ht (place_take htake)
      rw [hrun, run_take]
      by_cases hfits : Fits (c :: t)
      · rw [if_pos (hroom.mpr hfits)]
        exact .inl ⟨hfits, .plain, by simp, .inl rfl⟩
      · rw [if_neg (mt hroom.mp hfits)]
        exact .inr ⟨hfits, rfl⟩

/-- A comma ends the field in front of it. -/
theorem step_comma {after : Place} (h : after ≠ .quoted) (hreturned : after ≠ .returned)
    (done : Text) : step ⟨after, done, fields, records⟩ ',' =
      .ok ⟨.field, [], done.reverse :: fields, records⟩ := by
  cases after with
  | quoted => exact absurd rfl h
  | returned => exact absurd rfl hreturned
  | record | field | plain | closing => rfl

/-- A line break ends the field in front of it, and the record. -/
theorem run_break {after : Place} (h : after = .plain ∨ after = .closing ∨ after = .field)
    (done : Text) : ("\r\n" : Text).foldlM step ⟨after, done, fields, records⟩ =
      .ok ⟨.record, [], [], (done.reverse :: fields).reverse :: records⟩ := by
  rcases h with rfl | rfl | rfl <;> rfl

/-! ## Records -/

/-- **Fields** with commas between them, up to the end of their record. In front of a record, a lone
empty field would not be seen. -/
theorem run_fields {place : Place} (hplace : place = .record ∨ place = .field) {written : List Text}
    (hne : written ≠ []) (hlone : place = .record → written ≠ [[]]) :
    (Text.join "," (written.map csvField) ++ ("\r\n" : Text)).foldlM step
        ⟨place, [], fields, records⟩ =
      if ∀ t ∈ written, Fits t then .ok ⟨.record, [], [], (fields.reverse ++ written) :: records⟩
      else .error longField := by
  induction written generalizing place fields with
  | nil => exact absurd rfl hne
  | cons t rest ih =>
    obtain ⟨hfits, after, hfield, hafter⟩ | ⟨hlong, hfield⟩ := run_field fields records hplace t
    case inr =>
      rw [if_neg fun h => hlong (h t List.mem_cons_self)]
      cases rest with
      | nil =>
        rw [List.map_singleton, Text.join, List.intercalate_singleton, List.foldlM_append, hfield]
        rfl
      | cons next rest =>
        rw [List.map_cons, List.map_cons, Text.join, List.intercalate_cons_cons, List.append_assoc,
          List.append_assoc, List.foldlM_append, hfield]
        rfl
    case inl =>
      cases rest with
      | nil =>
        have hends : after = .plain ∨ after = .closing ∨ after = .field := by
          rcases hafter with h | h | ⟨rfl, rfl⟩
          · exact .inl h
          · exact .inr (.inl h)
          · exact .inr (.inr (hplace.resolve_left fun h => hlone h rfl))
        rw [if_pos (List.forall_mem_singleton.mpr hfits), List.map_singleton, Text.join,
          List.intercalate_singleton, List.foldlM_append, hfield, ok_bind,
          run_break fields records hends]
        simp
      | cons next rest =>
        have hcomma : step ⟨after, t.reverse, fields, records⟩ ',' =
            .ok ⟨.field, [], t :: fields, records⟩ := by
          rw [step_comma, List.reverse_reverse]
          all_goals
            rcases hafter with rfl | rfl | ⟨-, rfl⟩ <;> rcases hplace with h | h <;> simp [h]
        have hrest := ih (t :: fields) (.inr rfl) (List.cons_ne_nil _ _) (fun h => by cases h)
        rw [List.map_cons, Text.join] at hrest
        rw [List.map_cons, List.map_cons, Text.join, List.intercalate_cons_cons, List.append_assoc,
          List.append_assoc, List.foldlM_append, hfield, ok_bind, List.foldlM_append]
        change (step _ ',' >>= pure) >>= _ = _
        rw [hcomma, ok_bind, show (pure _ : Except Fault Reader) = .ok _ from rfl, ok_bind, hrest]
        simp [hfits]

/-- **A record** is read as it was written, unless a field is too long. -/
theorem run_record (written : List Text) :
    (csvRecord written).foldlM step ⟨.record, [], [], records⟩ =
      if ∀ t ∈ written, Fits t then .ok ⟨.record, [], [], written :: records⟩
      else .error longField := by
  unfold csvRecord
  split
  case isTrue hlone =>
    rw [hlone]
    rfl
  case isFalse hlone =>
    cases written with
    | nil => rfl
    | cons t rest => exact run_fields [] records (.inl rfl) (List.cons_ne_nil _ _) fun _ => hlone

theorem run_records (written : List (List Text)) :
    (written.map csvRecord).flatten.foldlM step ⟨.record, [], [], records⟩ =
      if ∀ fields ∈ written, ∀ t ∈ fields, Fits t then
        .ok ⟨.record, [], [], written.reverse ++ records⟩
      else .error longField := by
  induction written generalizing records with
  | nil => rfl
  | cons first rest ih =>
    rw [List.map_cons, List.flatten_cons, List.foldlM_append, run_record]
    by_cases hfirst : ∀ t ∈ first, Fits t
    · rw [if_pos hfirst, ok_bind, ih]
      simp only [List.forall_mem_cons, and_iff_right hfirst]
      simp
    · rw [if_neg hfirst, if_neg fun h => hfirst (h first List.mem_cons_self)]
      rfl

end

/-- **A round trip.** The records that were written are read, whatever their fields hold; if a field
is too long, nothing is. -/
theorem read_csvRecords (written : List (List Text)) :
    read (written.map csvRecord).flatten =
      if ∀ fields ∈ written, ∀ t ∈ fields, Fits t then .ok written else .error longField := by
  have hrun := run_records [] written
  rw [read, hrun]
  split
  · rw [ok_bind, finish, List.append_nil, List.reverse_reverse]
    rfl
  · rfl

/-! ## Code points -/

/-- What holds of the marks of the format and of all fields holds of a record. -/
theorem forall_csvRecord {P : CodePoint → Prop} (hmarks : ∀ c, needsQuotes c = true → P c)
    {written : List Text} (hfields : ∀ t ∈ written, ∀ c ∈ t, P c) :
    ∀ c ∈ csvRecord written, P c := by
  have marks {t : Text} (h : ∀ c ∈ t, needsQuotes c = true) : ∀ c ∈ t, P c :=
    fun c hc => hmarks c (h c hc)
  have hfield {t : Text} (ht : ∀ c ∈ t, P c) : ∀ c ∈ csvField t, P c := by
    have hquote : P '"' := hmarks _ (by decide)
    unfold csvField
    split
    case isFalse => exact ht
    case isTrue =>
      intro c hc
      simp only [List.mem_append, List.mem_cons, List.mem_flatMap, List.not_mem_nil, or_false] at hc
      obtain (rfl | ⟨d, hd, hc⟩) | rfl := hc
      · exact hquote
      · have hcopy : c = d := by
          split at hc <;> simpa using hc
        exact hcopy ▸ ht d hd
      · exact hquote
  unfold csvRecord
  refine List.forall_mem_append.mpr ⟨?_, marks (by decide)⟩
  split
  · exact marks (by decide)
  · refine Text.forall_join (marks (by decide)) fun part hpart => ?_
    obtain ⟨t, ht, rfl⟩ := List.mem_map.mp hpart
    exact hfield (hfields t ht)

end TagAudit.Separated
