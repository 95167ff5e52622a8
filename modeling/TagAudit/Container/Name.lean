import TagAudit.Container.Kind
import TagAudit.Data.Display

/-!
# Names of records

Published containers rarely carry names. Each kind of record has a cascade of sources for a name;
the first source that gives one which is not empty decides.

* `nameText?` is the name that a value spells.
* `tagName`, `triggerName` and `variableName` are the cascades.
-/

namespace TagAudit.Container

/-- The name that a value spells: a text that is not blank, or a number. -/
def nameText? (d : Data) : Except Fault (Option Text) :=
  match d with
  | .text t => .ok (if t.isAllBlank then none else some t)
  | .int n => (writeInteger n).map some
  | .float x => .ok (some x.text)
  | _ => .ok none

/-- The first name of a cascade that is there and not empty. -/
def firstName (sources : List (Unit → Except Fault (Option Text))) (default : Text) :
    Except Fault Text :=
  match sources with
  | [] => .ok default
  | source :: rest => do
    match ← source () with
    | some name => if name.isEmpty then firstName rest default else return name
    | none => firstName rest default

/-- The value under the key `name`. -/
def explicitName (record : Data) : Except Fault (Option Text) :=
  match record with
  | .object members => nameText? (Data.getD members "name")
  | _ => .ok none

/-- The value behind the first item `name` of the metadata list. -/
def metadataName (record : Data) : Except Fault (Option Text) :=
  match record.get? "metadata" with
  | some (.array items) => go items
  | _ => .ok none
where
  go : List Data → Except Fault (Option Text)
    | item :: value :: rest => if item.isText "name" then nameText? value else go (value :: rest)
    | _ => .ok none

/-- The name at the head of an entry of the metadata table. -/
def entryName (entry : Option Data) : Except Fault (Option Text) :=
  match entry with
  | some (.array (head :: _)) => nameText? head
  | _ => .ok none

/-- The keys of a tag that may hold something like a name. -/
def tagNameKeys : List Text :=
  ["vtp_name", "vtp_trackingId", "vtp_measurementId", "vtp_conversionId", "vtp_eventName"]

/-- The first parameter of a tag that spells a name. -/
def parameterName (record : Data) : Except Fault (Option Text) :=
  match record with
  | .object members => go members tagNameKeys
  | _ => .ok none
where
  go (members : Members Data) : List Text → Except Fault (Option Text)
    | [] => .ok none
    | key :: rest => do
      match ← nameText? (Data.getD members key) with
      | some name => if name.isEmpty then go members rest else return some name
      | none => go members rest

/-- How much of an operand goes into a name. -/
def operandLength : Nat := 30

/-- A name made of the first two operands. -/
def operandName (operands : List Text) : Option Text :=
  let parts := ((operands.take 2).filter fun o => !o.isEmpty).map (·.take operandLength)
  if parts.isEmpty then none else some (("Trigger: " : Text) ++ Text.join " / " parts)

/-- The entries of the metadata table with a numeric key, by that number. -/
def numberedEntries (entities : Members Data) : Except Fault (List Data) := do
  let numbered ← (entities.filter fun e => e.1.isDigits).mapM fun (key, entry) => do
    return ((← readInteger key), entry)
  return (numbered.mergeSort fun a b => a.1 ≤ b.1).map (·.2)

/-- The head of the first numbered entry that mentions a trigger. -/
def entityTriggerName (entities : Members Data) : Except Fault (Option Text) := do
  go (← numberedEntries entities)
where
  go : List Data → Except Fault (Option Text)
    | [] => .ok none
    | .array (head :: _) :: rest => do
      if Text.isInfixOf "trigger" (← head.display).lower then nameText? head else go rest
    | _ :: rest => go rest

/-- The parameter of a variable that names it, by its function. -/
def variableParameterName (record : Data) : Except Fault (Option Text) :=
  match record with
  | .object members => do
    let function := functionOf record
    match ← nameText? (Data.getD members "vtp_name") with
    | some name => if name.isEmpty then byFunction members function else return some name
    | none => byFunction members function
  | _ => .ok none
where
  byFunction (members : Members Data) (function : Text) : Except Fault (Option Text) :=
    if function = constantFunction then nameText? (Data.getD members "vtp_value")
    else if function = urlFunction then nameText? (Data.getD members "vtp_component")
    else .ok none

/-- The name of a tag. -/
def tagName (record : Data) (position : Nat) (entities : Members Data) (default : Text) :
    Except Fault Text :=
  firstName [
    fun _ => explicitName record,
    fun _ => metadataName record,
    fun _ => entryName (entities.get? (Text.ofNat position)),
    fun _ => parameterName record] default

/-- The name of a trigger. -/
def triggerName (record : Data) (entities : Members Data) (operands : List Text) (default : Text) :
    Except Fault Text :=
  firstName [
    fun _ => explicitName record,
    fun _ => metadataName record,
    fun _ => .ok (operandName operands),
    fun _ => entityTriggerName entities] default

/-- The name of a variable. -/
def variableName (record : Data) (default : Text) : Except Fault Text :=
  firstName [
    fun _ => explicitName record,
    fun _ => metadataName record,
    fun _ => variableParameterName record] default

end TagAudit.Container
