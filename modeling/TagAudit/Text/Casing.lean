import TagAudit.Text.CaseTable
import TagAudit.Text.Class

/-!
# Letter case

The small form of a text in any script. Three things go beyond a map on code points: the dotted
capital I keeps its dot as a mark of its own, the capital sigma has another small form at the end of
a word, and what is passed over (marks, full stops, apostrophes) does not end a word.

* `small` is the small form of a text.
-/

namespace TagAudit.Text

/-- The small form of a code point, taken alone. -/
def smallForm (c : CodePoint) : Text :=
  if c.val = 0x130 then [CodePoint.ofNat 0x69, CodePoint.ofNat 0x307]
  else
    let run := CaseTable.smallForms.find? fun (first, last, step, _) =>
      first ≤ c.val && c.val ≤ last && (c.val - first) % step = 0
    match run with
    | some (first, _, _, small) => [CodePoint.ofNat (small + (c.val - first))]
    | none => [c]

/-- Whether the next code point that is not passed over is a letter, capital or small. -/
def meetsLetter (t : Text) : Bool :=
  ((t.dropWhile fun c => Ranges.mem CaseTable.passedOver c.val).head?).any fun c =>
    Ranges.mem CaseTable.cased c.val

/-- The small form of a sigma between two texts, the first one read backwards. -/
def smallSigma (before after : Text) : CodePoint :=
  if meetsLetter before && !meetsLetter after then 'ς' else 'σ'

/-- The small form of a text that follows another one; that one is given backwards. -/
def smallAfter (before : Text) : Text → Text
  | [] => []
  | c :: rest =>
    (if c = 'Σ' then [smallSigma before rest] else smallForm c) ++ smallAfter (c :: before) rest

/-- The small form of a text. -/
def small (t : Text) : Text := smallAfter [] t

end TagAudit.Text
