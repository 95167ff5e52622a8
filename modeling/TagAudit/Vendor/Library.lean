import TagAudit.Data.Basic
import TagAudit.Pattern.Reader

/-!
# Patterns of vendor identifiers

A library holds named patterns with the vendor and the kind of identifier that each finds, in the
order of registration. Registering a name again replaces its pattern and keeps its place.

* `Library.add?` registers a pattern.
* `Library.identifiers` lists what a pattern finds in a text.
* `Library.standard` is the library of well-known vendors.
-/

namespace TagAudit.Vendor

/-- What a pattern finds: whose identifiers, of which kind, in which group of the match. -/
structure Signature where
  vendor : Text
  idType : Text
  group : Nat := 0
deriving DecidableEq

/-- Patterns by name, in order of registration. -/
abbrev Library := Members (Pattern × Signature)

namespace Library

/-- The library with a pattern registered; none if the text is no pattern or has no such group. -/
def add? (library : Library) (name pattern : Text) (signature : Signature) : Option Library :=
  match Pattern.read? pattern with
  | some (p, groups) =>
    if groups < signature.group then none else some (library.set name (p, signature))
  | none => none

/-- The library with a pattern registered, or as it was if that is refused. -/
def add (library : Library) (name pattern : Text) (signature : Signature) : Library :=
  (library.add? name pattern signature).getD library

/-- The signature of a pattern. -/
def signature? (library : Library) (name : Text) : Option Signature :=
  (library.get? name).map (·.2)

/-- The identifiers that a pattern finds in a text, from left to right; empty ones are left out. -/
def found (entry : Pattern × Signature) (text : Text) : List Text :=
  (entry.1.findAll text).filterMap fun m => do
    let value ← m.group? entry.2.group
    if value.isEmpty then none else some value

/-- The identifiers that a named pattern finds in a text. -/
def identifiers (library : Library) (name text : Text) : List Text :=
  match library.get? name with
  | some entry => found entry text
  | none => []

/-- Registers the patterns of well-known vendors. -/
def withStandard (library : Library) : Library :=
  library
  |>.add "ga4_measurement_id" "(?<![A-Za-z0-9_-])G-[A-Z0-9]\x7b7,12\x7d(?![A-Za-z0-9])"
    ⟨"Google Analytics", "GA4 Measurement ID", 0⟩
  |>.add "ua_property_id" "(?<![A-Za-z0-9_-])UA-\\d\x7b4,10\x7d-\\d\x7b1,4\x7d(?!\\d)"
    ⟨"Google Analytics", "UA Property ID", 0⟩
  |>.add "google_ads_conversion_id" "(?<![A-Za-z0-9_-])AW-\\d\x7b6,12\x7d(?!\\d)"
    ⟨"Google Ads", "Conversion ID", 0⟩
  |>.add "floodlight_advertiser_id" "(?<![A-Za-z0-9_-])DC-\\d\x7b6,12\x7d(?!\\d)"
    ⟨"Floodlight", "Advertiser ID", 0⟩
  |>.add "meta_pixel_id"
    "fbq\\(\\s*\\\\?['\"]init\\\\?['\"]\\s*,\\s*\\\\?['\"](\\d\x7b15,16\x7d)\\\\?['\"]"
    ⟨"Meta (Facebook)", "Pixel ID", 1⟩
  |>.add "tiktok_pixel_id" "ttq\\.load\\(\\s*\\\\?['\"]([A-Z0-9]\x7b20,\x7d)\\\\?['\"]"
    ⟨"TikTok", "Pixel ID", 1⟩
  |>.add "linkedin_partner_id" "_linkedin_partner_id\\s*=\\s*\\\\?['\"](\\d+)\\\\?['\"]"
    ⟨"LinkedIn", "Partner ID", 1⟩
  |>.add "pinterest_tag_id"
    "pintrk\\(\\s*\\\\?['\"]load\\\\?['\"]\\s*,\\s*\\\\?['\"](\\d+)\\\\?['\"]"
    ⟨"Pinterest", "Tag ID", 1⟩
  |>.add "microsoft_uet_tag_id" "\\bti\\s*:\\s*\\\\?['\"](\\d\x7b5,12\x7d)\\\\?['\"]"
    ⟨"Microsoft Advertising", "UET Tag ID", 1⟩
  |>.add "hotjar_site_id" "\\bhjid\\s*:\\s*\\\\?['\"]?(\\d\x7b5,10\x7d)"
    ⟨"Hotjar", "Site ID", 1⟩

/-- The library of well-known vendors. -/
def standard : Library := withStandard []

end Library

end TagAudit.Vendor
