import TagAudit.Data.Basic

/-!
# Container documents

The configuration of a container after it was decoded and before it is normalised. The published
format promises nothing, so a field of an unexpected shape counts as empty.
-/

namespace TagAudit

/-- The raw parts of a container. -/
structure Document where
  /-- Raw tags. -/
  tags : List Data := []
  /-- Raw predicates, which rules refer to by position. -/
  predicates : List Data := []
  /-- Raw rules. -/
  rules : List Data := []
  /-- Raw variables. -/
  macros : List Data := []
  /-- Metadata by the position of what it describes. -/
  entities : Members Data := []
  /-- The strategy that found the document; none for a document that was not found. -/
  strategy : Option Text := none
deriving Inhabited

namespace Document

/-- The list under a key; anything else counts as no list. -/
def listAt (members : Members Data) (key : Text) : List Data :=
  match members.get? key with
  | some (.array items) => items
  | _ => []

/-- Metadata as a map: an array stands for its entries by position, nulls left out. -/
def entityMap : Option Data → Members Data
  | some (.object members) => members
  | some (.array items) =>
    items.zipIdx.filterMap fun (item, i) =>
      match item with
      | .null => none
      | item => some (Text.ofNat i, item)
  | _ => []

/-- The document of a decoded mapping. -/
def ofMembers (members : Members Data) (strategy : Option Text) : Document where
  tags := listAt members "tags"
  predicates := listAt members "predicates"
  rules := listAt members "rules"
  macros := listAt members "macros"
  entities := entityMap (members.get? "entities")
  strategy := strategy

/-- The document of a decoded value, which has to be an object. -/
def ofData (d : Data) (strategy : Option Text) : Except Fault Document :=
  match d with
  | .object members => .ok (ofMembers members strategy)
  | _ => .error .noMembers

/-- Whether some strategy found the document. -/
def located (doc : Document) : Bool := doc.strategy.isSome

/-- Whether a document has no tags, rules or variables. -/
def isEmpty (doc : Document) : Bool :=
  doc.tags.isEmpty && doc.rules.isEmpty && doc.macros.isEmpty

end Document

end TagAudit
