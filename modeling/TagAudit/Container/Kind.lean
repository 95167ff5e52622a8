import TagAudit.Data.Basic

/-!
# Kinds of tags and variables

The function of a raw record says what kind of tag or variable it is and who its vendor is. Rules
are tried in order, most specific first.
-/

namespace TagAudit.Container

/-- A rule that labels a function. -/
structure FunctionRule where
  needle : Text
  label : Text
  /-- Whether the whole function has to be the needle; otherwise it has to contain it. -/
  exact : Bool := false

/-- Whether a rule applies to a function. -/
def FunctionRule.applies (rule : FunctionRule) (function : Text) : Bool :=
  if rule.exact then decide (function = rule.needle) else Text.isInfixOf rule.needle function

/-- The label of the first rule that applies. -/
def firstLabel? (rules : List FunctionRule) (function : Text) : Option Text :=
  (rules.find? (·.applies function)).map (·.label)

/-- What a tag is, by its function. -/
def tagTypeRules : List FunctionRule := [
  ⟨"gaawe", "GA4 Event", false⟩,
  ⟨"gaawc", "GA4 Config", false⟩,
  ⟨"__googtag", "Google Tag", true⟩,
  ⟨"__ua", "Universal Analytics", true⟩,
  ⟨"__gclidw", "Google Ads Conversion Linker", true⟩,
  ⟨"awct", "Google Ads Conversion Tracking", false⟩,
  ⟨"awud", "Google Ads User-Provided Data", false⟩,
  ⟨"__sp", "Google Ads Remarketing", true⟩,
  ⟨"flc", "Floodlight Counter", false⟩,
  ⟨"fls", "Floodlight Sales", false⟩,
  ⟨"__bzi", "LinkedIn Insight", true⟩,
  ⟨"__baut", "Microsoft Advertising UET", true⟩,
  ⟨"__hjtc", "Hotjar Tracking Code", true⟩,
  ⟨"__html", "Custom HTML", true⟩,
  ⟨"__img", "Custom Image", true⟩,
  ⟨"__cvt_", "Custom Template", false⟩]

/-- Whose a tag is, by its function. -/
def tagVendorRules : List FunctionRule := [
  ⟨"gaa", "Google Analytics", false⟩,
  ⟨"googtag", "Google Analytics", false⟩,
  ⟨"__ua", "Google Analytics", true⟩,
  ⟨"awct", "Google Ads", false⟩,
  ⟨"awud", "Google Ads", false⟩,
  ⟨"gclidw", "Google Ads", false⟩,
  ⟨"__sp", "Google Ads", true⟩,
  ⟨"flc", "Floodlight", false⟩,
  ⟨"fls", "Floodlight", false⟩,
  ⟨"__bzi", "LinkedIn", true⟩,
  ⟨"__baut", "Microsoft Advertising", true⟩,
  ⟨"__hjtc", "Hotjar", true⟩]

/-- Calls inside injected markup that give its vendor away. -/
def markupSignatures : List (Text × Text) := [
  ("fbq(", "Meta (Facebook)"),
  ("ttq.", "TikTok"),
  ("linkedin", "LinkedIn"),
  ("pintrk", "Pinterest"),
  ("uetq", "Microsoft Advertising"),
  ("snaptr(", "Snap"),
  ("twq(", "X (Twitter)"),
  ("hotjar", "Hotjar")]

/-- The function of a tag with injected markup. -/
def markupFunction : Text := "__html"

/-- The function of a tag with an injected image. -/
def imageFunction : Text := "__img"

/-- The function of a variable that reads the data layer. -/
def dataLayerFunction : Text := "__v"

/-- The function of a constant. -/
def constantFunction : Text := "__c"

/-- The function of a variable that reads the page address. -/
def urlFunction : Text := "__u"

/-- What a variable is, by its function. -/
def variableTypes : List (Text × Text) := [
  ("__v", "Data Layer Variable"),
  ("__u", "URL"),
  ("__c", "Constant"),
  ("__k", "First-Party Cookie"),
  ("__jsm", "Custom JavaScript"),
  ("__j", "JavaScript Variable"),
  ("__r", "Random Number"),
  ("__e", "Custom Event"),
  ("__cid", "Container ID"),
  ("__ctv", "Container Version"),
  ("__dbg", "Debug Mode"),
  ("__smm", "Lookup Table"),
  ("__remm", "Regex Table"),
  ("__aev", "Auto-Event Variable"),
  ("__f", "HTTP Referrer"),
  ("__d", "DOM Element"),
  ("__vis", "Element Visibility"),
  ("__gas", "Google Analytics Settings"),
  ("__gtes", "Google Tag: Event Settings"),
  ("__awec", "User-Provided Data")]

/-- The function of a raw record; empty for a record without one. -/
def functionOf (record : Data) : Text := ((record.get? "function").bind Data.text?).getD []

/-- The first of two values that counts as true; the second if neither does. -/
def firstTruthy (a b : Data) : Data := if a.isTruthy then a else b

/-- What a raw tag is. -/
def tagType (tag : Data) : Except Fault Text :=
  let function := functionOf tag
  match firstLabel? tagTypeRules function with
  | some label => .ok label
  | none =>
    match tag.members? with
    | none => .error .noMembers
    | some members =>
      let measurement :=
        firstTruthy (Data.getD members "vtp_measurementId") (Data.getD members "vtp_trackingId")
      match measurement with
      | .text t =>
        if ("G-" : Text).isPrefixOf t then .ok "GA4 Config"
        else .ok (if function.isEmpty then "Unknown" else function)
      | _ => .ok (if function.isEmpty then "Unknown" else function)

/-- The markup that a tag injects. A templated payload is a list whose texts are its parts. -/
def markup (members : Members Data) (function : Text) : Text :=
  let html := Data.getD members "vtp_html"
  let payload := if function = imageFunction then (members.get? "vtp_url").getD html else html
  match payload with
  | .text t => t
  | .array parts => (parts.filterMap Data.text?).flatten
  | _ => []

/-- Whose a raw tag is. -/
def tagVendor (tag : Data) : Text :=
  let function := functionOf tag
  match firstLabel? tagVendorRules function with
  | some label => label
  | none =>
    if function = markupFunction ∨ function = imageFunction then
      let payload := markup (tag.members?.getD []) function
      match markupSignatures.find? fun (call, _) => Text.isInfixOf call payload with
      | some (_, vendor) => vendor
      | none => "Custom"
    else "Other/Unknown"

/-- What a raw variable is. -/
def variableType (record : Data) : Text :=
  let function := functionOf record
  match variableTypes.find? fun (f, _) => decide (f = function) with
  | some (_, label) => label
  | none => if function.isEmpty then "Unknown" else function

end TagAudit.Container
