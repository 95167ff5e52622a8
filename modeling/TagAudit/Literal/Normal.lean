import TagAudit.Text.Basic

/-!
# Literals brought closer to JSON

One pass over the text turns single quotes into double ones, drops comments, and drops a comma
when only blanks stand between it and a closing bracket. What stands inside strings is kept, but for
the quotes.

* `requote` spells the body of a single-quoted string for double quotes.
* `normalize` is the pass.
-/

namespace TagAudit.Literal

/-- Where the pass stands. -/
inductive Mode where
  /-- Outside strings and comments. -/
  | code
  /-- In a double-quoted string. -/
  | double
  /-- In a single-quoted string whose body so far stands here in reverse. -/
  | single (body : Text)
  /-- In a comment that ends with its line. -/
  | line
  /-- In a comment that ends with `*/`. -/
  | block

/-- A text with `\'` replaced by a bare single quote; what was passed stands in reverse in
`done`. -/
def bareApostrophes (done : Text) : Text → Text
  | c :: d :: rest =>
    if c = '\\' && d = '\'' then bareApostrophes (d :: done) rest
    else bareApostrophes (c :: done) (d :: rest)
  | [c] => (c :: done).reverse
  | [] => done.reverse

/-- A text with a backslash in front of every double quote that follows an even number of
backslashes; `odd` says that an odd number was passed last. -/
def escapeQuotes (odd : Bool) (done : Text) : Text → Text
  | [] => done.reverse
  | c :: rest =>
    if c = '\\' then escapeQuotes (!odd) (c :: done) rest
    else if c = '"' && !odd then escapeQuotes false (c :: ('\\' : CodePoint) :: done) rest
    else escapeQuotes false (c :: done) rest

/-- The double-quoted string for the body of a single-quoted one. -/
def requote (body : Text) : Text :=
  ('"' : CodePoint) :: escapeQuotes false [] (bareApostrophes [] body) ++ (['"'] : Text)

/-- Whether only blanks stand in front of a closing bracket. -/
def closes (text : Text) : Bool :=
  match text.dropWhile fun (c : CodePoint) => c = ' ' || c = '\t' || c = '\r' || c = '\n' with
  | c :: _ => c = ']' || c = '}'
  | [] => false

/-- The pass over the rest of a text; its output so far stands in reverse in `out`. A single-quoted
string that never ends loses its last code point. -/
def normalizeFrom (out : Text) : Mode → Text → Text
  | .code, c :: d :: rest =>
    if c = '"' then normalizeFrom (c :: out) .double (d :: rest)
    else if c = '\'' then normalizeFrom out (.single []) (d :: rest)
    else if c = '/' && d = '/' then normalizeFrom out .line rest
    else if c = '/' && d = '*' then normalizeFrom out .block rest
    else if c = ',' && closes (d :: rest) then normalizeFrom out .code (d :: rest)
    else normalizeFrom (c :: out) .code (d :: rest)
  | .code, [c] => if c = '\'' then ((requote []).reverseAux out).reverse else (c :: out).reverse
  | .double, c :: d :: rest =>
    if c = '\\' then normalizeFrom (d :: c :: out) .double rest
    else if c = '"' then normalizeFrom (c :: out) .code (d :: rest)
    else normalizeFrom (c :: out) .double (d :: rest)
  | .double, [c] => (c :: out).reverse
  | .single body, c :: d :: rest =>
    if c = '\\' then normalizeFrom out (.single (d :: c :: body)) rest
    else if c = '\'' then normalizeFrom ((requote body.reverse).reverseAux out) .code (d :: rest)
    else normalizeFrom out (.single (c :: body)) (d :: rest)
  -- a string that ends here is complete, and one that does not loses this code point
  | .single body, [_] => ((requote body.reverse).reverseAux out).reverse
  | .single body, [] => ((requote (body.drop 1).reverse).reverseAux out).reverse
  | .line, c :: rest =>
    if c = '\n' then normalizeFrom (c :: out) .code rest else normalizeFrom out .line rest
  | .block, c :: d :: rest =>
    if c = '*' && d = '/' then normalizeFrom out .code rest
    else normalizeFrom out .block (d :: rest)
  | .block, [_] => out.reverse
  | .code, [] | .double, [] | .line, [] | .block, [] => out.reverse

theorem normalizeFrom_quote (out : Text) {t : Text} (h : t ≠ []) :
    normalizeFrom out .code ('"' :: t) = normalizeFrom ('"' :: out) .double t := by
  cases t with
  | nil => exact absurd rfl h
  | cons d t => rw [normalizeFrom, if_pos rfl]

theorem normalizeFrom_apostrophe (out : Text) {t : Text} (h : t ≠ []) :
    normalizeFrom out .code ('\'' :: t) = normalizeFrom out (.single []) t := by
  cases t with
  | nil => exact absurd rfl h
  | cons d t => rw [normalizeFrom, if_neg (by decide), if_pos rfl]

/-- A literal with strings, comments and commas as JSON has them. -/
def normalize (text : Text) : Text := normalizeFrom [] .code text

end TagAudit.Literal
