import TagAudit.Json.Reader
import TagAudit.Literal.Normal
import TagAudit.Literal.Reader

/-!
# Evaluating literals

A literal is read in three tiers: as strict JSON, as strict JSON after normalisation, and by
the permissive reader. The first tier that accepts decides (`evaluate_of_read`).
-/

namespace TagAudit.Literal

/-- Why no tier accepted a text: the message of each. -/
structure Refusal where
  json : Text
  normalized : Text
  literal : Text
deriving DecidableEq

/-- The wording of a refusal. -/
def Refusal.message (r : Refusal) : Text :=
  ("Could not evaluate object literal (json: " : Text) ++ r.json ++
    ("; normalized_json: " : Text) ++ r.normalized ++ ("; literal: " : Text) ++ r.literal ++
    (")" : Text)

/-- How evaluation fails. -/
inductive EvaluationFailure where
  /-- Every tier refused the text. -/
  | refused (refusal : Refusal)
  /-- The permissive reader stopped for a reason that is no matter of syntax or nesting. -/
  | stopped (fault : Fault)
deriving DecidableEq

/-- The fault of a failed evaluation. -/
def EvaluationFailure.toFault : EvaluationFailure → Fault
  | refused refusal => .worded .evaluation refusal.message
  | stopped fault => fault

/-- The value of a literal. -/
def evaluate (text : Text) : Except EvaluationFailure Data :=
  match Json.read text with
  | .ok value => .ok value
  | .error strict =>
    let normal := normalize text
    match Json.read normal with
    | .ok value => .ok value
    | .error lax =>
      match read text with
      | .ok value => .ok value
      | .error failure =>
        match failure with
        | .malformed .. | .tooDeep =>
          .error (.refused ⟨strict.message text, lax.message normal,
            (failure.toFault text).message⟩)
        | .longNumeral _ | .keyDigit => .error (.stopped (failure.toFault text))

/-- The first tier decides. -/
theorem evaluate_of_read {text : Text} {value : Data} (h : Json.read text = .ok value) :
    evaluate text = .ok value := by
  rw [evaluate, h]

end TagAudit.Literal
