import TagAudit.Proofs.Data.Members
import TagAudit.Proofs.Vendor.Scan

/-!
# Scanning with registered patterns

A library is made by registering patterns, some of which are refused and some of which come under a
name that is taken already. What it finds depends on the registrations alone.

* `library_eq_ofList`: a library holds the entries that were accepted.
* `names`, `latest?`: the names in the order in which they were first accepted, and what was
  accepted last under a name.
* `distinct_eq_eraseDups`: the scan keeps first occurrences.
* `scan_registered`: the identifiers that a scan reports, and what it says of the tags.
-/

namespace TagAudit.Vendor

open Outcome

/-- A pattern to be registered under a name. -/
structure Registration where
  name : Text
  pattern : Text
  signature : Signature

namespace Registration

/-- The pattern that is registered, unless the text is none or has no such group. -/
def pattern? (r : Registration) : Option Pattern :=
  (Pattern.read? r.pattern).bind fun (p, groups) =>
    if r.signature.group ≤ groups then some p else none

/-- What is registered, with its name. -/
def accepted? (r : Registration) : Option (Text × Pattern × Signature) :=
  r.pattern?.map fun p => (r.name, p, r.signature)

/-- What is accepted of some registrations, in order. -/
def accepted (rs : List Registration) : Members (Pattern × Signature) := rs.filterMap accepted?

/-- The names of accepted registrations, each where it was first accepted. -/
def names (rs : List Registration) : List Text := (accepted rs).keys.eraseDups

/-- What was accepted last under a name. -/
def latest? (rs : List Registration) (name : Text) : Option (Pattern × Signature) :=
  Members.get? (accepted rs).reverse name

/-- The library that registrations make, starting from nothing. -/
def library (rs : List Registration) : Library :=
  rs.foldl (fun library r => library.add r.name r.pattern r.signature) []

end Registration

open Registration

/-- A registration puts its entry into a library, or leaves the library as it was. -/
theorem add_eq (lib : Library) (r : Registration) :
    lib.add r.name r.pattern r.signature =
      match r.accepted? with
      | some (name, entry) => lib.set name entry
      | none => lib := by
  unfold Library.add Library.add? Registration.accepted? Registration.pattern?
  cases Pattern.read? r.pattern with
  | none => rfl
  | some read =>
    by_cases hgroup : r.signature.group ≤ read.2
    · simp [hgroup, Nat.not_lt.mpr hgroup]
    · simp [hgroup, Nat.not_le.mp hgroup]

/-- **A library** holds what was accepted, every name once. -/
theorem library_eq_ofList (rs : List Registration) : library rs = Members.ofList (accepted rs) := by
  induction rs using List.reverseRecOn with
  | nil => rfl
  | append_singleton rs r ih =>
    have hlibrary : library (rs ++ [r]) = (library rs).add r.name r.pattern r.signature := by
      simp [library]
    have haccepted : accepted (rs ++ [r]) = accepted rs ++ r.accepted?.toList := by
      cases hr : r.accepted? <;> simp [accepted, hr]
    rw [hlibrary, add_eq, ih, haccepted]
    cases r.accepted? with
    | none => rw [Option.toList_none, List.append_nil]
    | some entry => rw [Option.toList_some, Members.ofList_concat]

/-- Registrations decide the names of a library, their order and their entries. -/
theorem library_merged (rs : List Registration) : Members.Merged (accepted rs) (library rs) := by
  rw [library_eq_ofList]
  exact Members.merged_ofList _

/-- The identifiers that a pattern matches in a text, in order, with its signature. -/
def occurrences (text : Text) (entry : Pattern × Signature) : List (Text × Text × Text) :=
  let values := (entry.1.findAll text).filterMap (·.group? entry.2.group)
  (values.filter (!·.isEmpty)).map fun value => (entry.2.vendor, entry.2.idType, value)

theorem map_found_eq (text : Text) (entry : Pattern × Signature) :
    ((Library.found entry text).map fun value => (entry.2.vendor, entry.2.idType, value)) =
      occurrences text entry := by
  unfold Library.found occurrences
  dsimp only
  rw [List.filter_filterMap]
  congr 2
  funext m
  cases m.group? entry.2.group with
  | none => rfl
  | some value => cases value <;> rfl

/-- A library finds what its entries do, name by name. -/
theorem keys_library (rs : List Registration) (text : Text) : keys (library rs) text =
    (names rs).flatMap fun name => (latest? rs name).toList.flatMap (occurrences text) := by
  have hmerged := library_merged rs
  have hnodup : (library rs).keys.Nodup := by
    rw [library_eq_ofList]
    exact Members.nodup_keys_ofList _
  unfold keys names
  rw [← hmerged.keys, Members.keys, List.flatMap_map]
  refine List.flatMap_congr fun m hm => ?_
  have hentry : latest? rs m.1 = some m.2 :=
    (hmerged.values m.1).symm.trans ((Members.get?_eq_some_iff hnodup).mpr hm)
  rw [hentry]
  simp [map_found_eq]

/-! ## First occurrences -/

section

variable {α : Type} [DecidableEq α]

theorem distinct_concat (items : List α) (item : α) :
    distinct (items ++ [item]) =
      if item ∈ items then distinct items else distinct items ++ [item] := by
  have hmem : item ∈ items.foldl (fun done item => if item ∈ done then done else item :: done) [] ↔
      item ∈ items := by
    rw [← List.mem_reverse]
    exact mem_distinct
  unfold distinct
  rw [List.foldl_append, List.foldl_cons, List.foldl_nil]
  by_cases h : item ∈ items
  · rw [if_pos h, if_pos (hmem.mpr h)]
  · rw [if_neg h, if_neg (mt hmem.mp h), List.reverse_cons]

theorem distinct_eq_eraseDups [BEq α] [LawfulBEq α] (items : List α) :
    distinct items = items.eraseDups := by
  induction items using List.reverseRecOn with
  | nil => rfl
  | append_singleton items item ih =>
    rw [distinct_concat, Members.eraseDups_concat, ih]
    by_cases h : item ∈ items <;> simp [h]

theorem nodup_distinct (items : List α) : (distinct items).Nodup := by
  induction items using List.reverseRecOn with
  | nil => exact List.nodup_nil
  | append_singleton items item ih =>
    rw [distinct_concat]
    split
    case isTrue => exact ih
    case isFalse h =>
      have hnew : item ∉ distinct items := mt mem_distinct.mp h
      simpa [List.nodup_append] using ⟨ih, fun a ha e => hnew (e ▸ ha)⟩

end

/-! ## Mentions -/

/-- What is written on a line is the JSON of a raw tag. -/
theorem rawLine_eq_ok {raw : Data} {line : Text} (h : rawLine raw = .ok line) :
    Json.write (.line false) raw = .ok line := by
  have hwritten : ∃ t, Json.write (.line false) raw = .ok t :=
    (Json.exists_write_iff rfl).mpr (exists_rawLine_iff.mp ⟨line, h⟩)
  obtain ⟨t, ht⟩ := hwritten
  rw [rawLine, ht] at h
  exact ht.trans h

/-- In how many lines a value occurs. -/
def mentionCount (lines : List Text) (value : Text) : Nat :=
  lines.countP fun line => decide (value <:+: line)

theorem mentions_eq (lines : List Text) (value : Text) :
    mentions lines value =
      if mentionCount lines value = 0 then []
      else ("referenced by " : Text) ++ Text.ofNat (mentionCount lines value) ++
        (" tag(s)" : Text) := by
  have hcount : lines.countP (Text.isInfixOf value) = mentionCount lines value :=
    List.countP_congr fun line _ => by rw [decide_eq_true_iff, Text.isInfixOf_iff]
  rw [mentions, hcount]

/-! ## Scans -/

/-- What a scan reports. -/
structure Reports (rs : List Registration) (text : Text) (tags : List Tag)
    (hits : List VendorHit) : Prop where
  /-- What the patterns match, name by name, every identifier where it is first found. -/
  keys : hits.map (·.key) =
    ((names rs).flatMap fun name => (latest? rs name).toList.flatMap (occurrences text)).eraseDups
  nodup : (hits.map (·.key)).Nodup
  /-- Other tags do not change what is found. -/
  independent : ∀ others hits', scan (library rs) text others = .ok hits' →
    hits'.map (·.key) = hits.map (·.key)
  /-- Every tag has its line of JSON, and a hit says in how many lines it occurs. -/
  mentioned : ∃ lines : List Text,
    List.Forall₂ (fun tag line => Json.write (.line false) tag.raw = .ok line) tags lines ∧
    ∀ hit ∈ hits, hit.extra =
      if mentionCount lines hit.idValue = 0 then []
      else ("referenced by " : Text) ++ Text.ofNat (mentionCount lines hit.idValue) ++
        (" tag(s)" : Text)

/-- **A scan** with the patterns of any registrations, refused and repeated ones among them. -/
theorem scan_registered {rs : List Registration} {text : Text} {tags : List Tag}
    {hits : List VendorHit} (h : scan (library rs) text tags = .ok hits) :
    Reports rs text tags hits where
  keys := by rw [map_key_scan h, distinct_eq_eraseDups, keys_library]
  nodup := map_key_scan h ▸ nodup_distinct _
  independent others hits' h' := (map_key_scan h').trans (map_key_scan h).symm
  mentioned := by
    obtain ⟨lines, hlines, h⟩ := bind_eq_ok.mp h
    cases h
    refine ⟨lines, forall₂_of_mapM hlines fun _ _ _ => rawLine_eq_ok, ?_⟩
    intro hit hhit
    obtain ⟨key, -, rfl⟩ := List.mem_map.mp hhit
    exact mentions_eq lines key.2.2

/-- Five registrations: the second is no pattern, the fourth takes the name of the first, and the
fifth has no group of that number. -/
def sampleRegistrations : List Registration := [
  ⟨"site", "\\d*", ⟨"Acme", "Number", 0⟩⟩,
  ⟨"broken", "[invalid regex(", ⟨"Acme", "Broken", 0⟩⟩,
  ⟨"account", "acme-(\\d\x7b4\x7d)", ⟨"Acme", "Account", 1⟩⟩,
  ⟨"site", "id=(\\d+)", ⟨"Acme", "Site", 1⟩⟩,
  ⟨"account", "\\d+", ⟨"Other", "Account", 1⟩⟩]

/-- Two tags; the first mentions a site, and the second nothing. -/
def sampleTags : List Tag := [
  { id := "tag_0", position := 0, raw := .object [("site", .text "id 77")] },
  { id := "tag_1", position := 1, raw := .array [.null, .bool true] }]

theorem sampleScan_registered :
    let text : Text := "acme-1234 id=7 id=7"
    let hits : List VendorHit := [⟨"Acme", "Site", "7", "referenced by 1 tag(s)"⟩,
      ⟨"Acme", "Account", "1234", []⟩]
    scan (library sampleRegistrations) text sampleTags = .ok hits ∧
      Reports sampleRegistrations text sampleTags hits := by
  intro text hits
  have hscan : scan (library sampleRegistrations) text sampleTags = .ok hits := by decide +kernel
  exact ⟨hscan, scan_registered hscan⟩

end TagAudit.Vendor
