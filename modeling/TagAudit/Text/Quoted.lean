import TagAudit.Text.Basic

/-!
# Quoted texts

A text inside a message stands in quotes, with everything that cannot be shown spelled as an
escape. The quotes are single ones, unless the text holds a single quote and no double one.

* `quote` is the quoted form; `escape` spells one code point inside it.
-/

namespace TagAudit.Text

/-- The hexadecimal digits of a number in small letters, at least `width` of them. -/
def hex (width n : Nat) : Text :=
  let digits := (Nat.toDigits 16 n).map CodePoint.ofChar
  List.replicate (width - digits.length) ('0' : CodePoint) ++ digits

/-- One code point as it stands between quotes of the given kind: quote and backslash behind a
backslash, three controls by a letter, and everything else that is not printable by its number. -/
def escape (mark c : CodePoint) : Text :=
  if c = mark || c = '\\' then ['\\', c]
  else if c = '\n' then "\\n"
  else if c = '\t' then "\\t"
  else if c = '\r' then "\\r"
  else if c.isPrintable then [c]
  else if c.val < 0x100 then ("\\x" : Text) ++ hex 2 c.val
  else if c.val < 0x10000 then ("\\u" : Text) ++ hex 4 c.val
  else ("\\U" : Text) ++ hex 8 c.val

/-- The quotation mark for a text. -/
def quoteMark (t : Text) : CodePoint :=
  if t.contains ('\'' : CodePoint) && !t.contains ('"' : CodePoint) then '"' else '\''

/-- A text in quotes. -/
def quote (t : Text) : Text :=
  let mark := quoteMark t
  mark :: t.flatMap (escape mark) ++ [mark]

end TagAudit.Text
