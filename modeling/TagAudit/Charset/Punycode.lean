import TagAudit.Charset.Basic
import TagAudit.Text.Punycode

/-!
# Punycode as a charset

Octets in Punycode, read as far as they can be: a number that does not end leaves the text as it is
by then, and a question mark stands for a code point beyond Unicode. The octets before the last
hyphen show in any case; those behind it have to be ASCII.
-/

namespace TagAudit.Charset

/-- Inserts the code points that numbers tell of into a text, as far as they can be read. -/
def insertReadable (bias code place : Nat) (isFirst : Bool) (t : Text) (rest : Text) : Text :=
  if rest.isEmpty then t
  else
    match h : Punycode.readNumber? bias 0 1 0 rest with
    | none => t
    | some (n, rest') =>
      let count := t.length + 1
      let code := code + (place + n) / count
      let code := if 0x10FFFF < code then 0x3F else code
      let place := (place + n) % count
      insertReadable (Punycode.nextBias isFirst n count) code (place + 1) false
        (t.insertIdx place (CodePoint.ofNat code)) rest'
termination_by rest.length
decreasing_by exact Punycode.readNumber?_shorter h

/-- What is wrong with an octet that is not ASCII. -/
def notAscii (octet : UInt8) (position : Nat) : Fault :=
  .worded (.other "UnicodeDecodeError") (("'ascii' codec can't decode byte 0x" : Text) ++
    Text.hex 2 octet.toNat ++ (" in position " : Text) ++ Text.ofNat position ++
    (": ordinal not in range(128)" : Text))

/-- Punycode. -/
def punycode : Charset := fun octets =>
  let numbers := (octets.reverse.takeWhile fun o => o ≠ 0x2D).reverse
  let plain := octets.take (octets.length - numbers.length - 1)
  match numbers.findIdx? fun o => isHigh o.toNat with
  | some position => .error (notAscii (numbers.getD position 0) position)
  | none =>
    let readable (o : UInt8) : CodePoint := (ascii? o.toNat).getD unreadable
    .ok (insertReadable Punycode.firstBias 0x80 0 true (plain.map readable)
      (numbers.map fun o => CodePoint.ofNat o.toNat))

end TagAudit.Charset
