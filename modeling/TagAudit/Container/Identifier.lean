import TagAudit.Pattern.Basic

/-!
# Identifiers of containers

What an identifier of a container looks like: `GTM-`, and then capital letters and digits.
-/

namespace TagAudit.Container

/-- A capital letter or a digit, both of ASCII. -/
def capitalOrDigit : CharClass := { items := [.range 0x41 0x5A, .range 0x30 0x39] }

/-- The shape of an identifier. -/
def identifierPattern : Pattern :=
  .all [.start, .literal "GTM-", .many capitalOrDigit 1 none, .stop]

/-- Whether a text is an identifier of a container; a line end behind it does no harm. -/
def isIdentifier (t : Text) : Bool := (identifierPattern.matchAt? 0 none t).isSome

end TagAudit.Container
