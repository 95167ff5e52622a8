import TagAudit.Compression.Inflate

/-!
# Content codings

Replies may be compressed. The codings that were applied are named in their order, and are undone in
the other one. A name that is not known is left out.

* `ContentCoding.undo` is what octets were before codings were applied.
-/

namespace TagAudit

/-- The codings that are known. -/
inductive ContentCoding where
  | gzip
  | deflate
deriving DecidableEq

namespace ContentCoding

/-- The coding of a name. -/
def ofName? (name : Text) : Option ContentCoding :=
  if name = ("gzip" : Text) then some .gzip
  else if name = ("deflate" : Text) then some .deflate
  else none

/-- The codings that the values of a header name. -/
def ofHeader (values : List Text) : List ContentCoding :=
  (values.flatMap (Text.splitOn ',')).filterMap fun name => ofName? name.strip.lower

/-- What octets were before a coding. Deflated octets may come without the header of the format. -/
def decode (coding : ContentCoding) (octets : Octets) : Except Compression.Flaw Octets :=
  match coding with
  | .gzip => Compression.Format.gzip.read octets
  | .deflate =>
    match Compression.Format.zlib.read octets with
    | .ok data => .ok data
    | .error _ => Compression.Format.bare.read octets

/-- What octets were before codings. -/
def undo (codings : List ContentCoding) (octets : Octets) : Except Compression.Flaw Octets :=
  codings.reverse.foldlM (fun octets coding => coding.decode octets) octets

end ContentCoding

end TagAudit
