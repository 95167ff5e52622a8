import TagAudit.Container.Record
import TagAudit.Vendor.Library

/-!
# Scanning for vendors

The identifiers that a library finds in a source, each once, with a note of how many tags mention
it. The scan reads the raw source, so it works on sources without a container too.

* `distinct` keeps first occurrences.
* `scan` is the scan.
-/

namespace TagAudit.Vendor

/-- The items of a list that did not occur before, in order. -/
def distinct {α : Type} [DecidableEq α] (items : List α) : List α :=
  (items.foldl (fun done item => if item ∈ done then done else item :: done) []).reverse

/-- What a library finds in a text, pattern by pattern. -/
def keys (library : Library) (text : Text) : List (Text × Text × Text) :=
  library.flatMap fun (_, entry) =>
    (Library.found entry text).map fun value => (entry.2.vendor, entry.2.idType, value)

/-- A raw tag as one line of text, in which identifiers are looked for. -/
def rawLine (raw : Data) : Except Fault Text :=
  match Json.write (.line false) raw with
  | .ok t => .ok t
  | .error _ => raw.display

/-- How many texts mention an identifier, in words; empty if none does. -/
def mentions (lines : List Text) (value : Text) : Text :=
  let count := lines.countP (Text.isInfixOf value)
  if count = 0 then [] else ("referenced by " : Text) ++ Text.ofNat count ++ (" tag(s)" : Text)

/-- The identifiers that a library finds in a source, with notes on the tags given. -/
def scan (library : Library) (text : Text) (tags : List Tag) : Except Fault (List VendorHit) := do
  let lines ← tags.mapM fun tag => rawLine tag.raw
  return (distinct (keys library text)).map fun (vendor, idType, idValue) =>
    { vendor, idType, idValue, extra := mentions lines idValue }

end TagAudit.Vendor
