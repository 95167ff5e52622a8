import TagAudit.Config.Settings
import TagAudit.Pattern.Basic

/-!
# Formats of log lines

A format of log lines is a text with placeholders, such as `%(message)s`. A text without any is
refused, unless it is empty, which stands for the usual format.
-/

namespace TagAudit.LogFormat

/-- Decimal digits. -/
def digits : CharClass := { items := [.decimal] }

/-- A width or a precision: a number, or a star. -/
def extent : Pattern := .alt (.one (.single '*')) (.many digits 1 none)

/-- A placeholder: a name, how its value is laid out, and a letter for its kind. -/
def placeholder : Pattern :=
  .all [.literal "%(", .many { items := [.wordPart] } 1 none, .literal ")",
    .many (.anyOf "#0+ -") 0 none, .optional extent, .optional (.seq (.literal ".") extent),
    .one { CharClass.anyOf "diouxefgcrsa%" with caseless := true }]

/-- Whether lines can be laid out by a format. -/
def isUsable (format : Text) : Bool := format.isEmpty || (placeholder.search? format).isSome

/-- What is wrong with a format that lines cannot be laid out by. -/
def refused (format : Text) : Fault :=
  .worded .value (("Invalid format '" : Text) ++ format ++ ("' for '%' style" : Text))

end TagAudit.LogFormat
