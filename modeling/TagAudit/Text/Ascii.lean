import TagAudit.Fault

/-!
# ASCII

Texts that are sent with one octet for every code point. Only the first 128 code points can be.

* `check` passes such a text on; another one is a fault that names its first run of other code
  points.
-/

namespace TagAudit.Ascii

/-- One of the first 128 code points. -/
def isPlain (c : CodePoint) : Bool := c.val < 0x80

/-- What is wrong with a run of code points that starts at `first`. -/
def refused (first : Nat) (run : Text) : Fault :=
  let start : Text := "'ascii' codec can't encode character"
  let place : Text := match run with
    | [c] => (" '" : Text) ++ Fault.codeText c ++ ("' in position " : Text) ++ Text.ofNat first
    | _ => ("s in position " : Text) ++ Text.ofNat first ++ ("-" : Text) ++
        Text.ofNat (first + run.length - 1)
  .worded .encoding (start ++ place ++ (": ordinal not in range(128)" : Text))

/-- A text that can be sent. -/
def check (t : Text) : Except Fault Text :=
  let before := (t.takeWhile isPlain).length
  match (t.drop before).takeWhile fun c => !isPlain c with
  | [] => .ok t
  | run => .error (refused before run)

end TagAudit.Ascii
