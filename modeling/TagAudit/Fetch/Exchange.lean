import TagAudit.Config.Check
import TagAudit.Data.Display
import TagAudit.Fetch.ContentCoding
import TagAudit.Fetch.ContentType
import TagAudit.Fetch.Url

/-!
# Fetching

A container is downloaded by asking for its source and following where the replies send. What
carries requests and replies is a parameter, so that the exchange is the same on a network and on
prepared replies.

* `follow` sends a request and follows redirects, `maxRedirects` at most.
* `fetch` is the source of a container.
* `FetchFailure` is why there is none, from any fetcher.
-/

namespace TagAudit

/-- A request for what a URL names. -/
structure Request where
  url : Url
  userAgent : Text

/-- What came back for a request. -/
structure Reply where
  status : Nat
  headers : List (Text × Text) := []
  body : Octets := []

/-- Why there is no reply that ends an exchange. -/
inductive ExchangeFailure where
  /-- Nothing, or nothing that makes sense, came back. -/
  | noReply (reason : Text)
  | fault (fault : Fault)

/-- What carries requests and replies. -/
abbrev Transport (m : Type → Type) := Request → m (Except ExchangeFailure Reply)

/-- The status that a failure names: how it is shown, and the number that it counts as. What comes
from outside the program may name anything. -/
structure NamedStatus where
  shown : Except Raised Text
  number : Except Complaint (Option Int)

/-- A status that is a value. -/
def NamedStatus.ofData (code : Data) : NamedStatus where
  shown := code.display.mapError .fault
  number := readOptionalInt (.ofData code)

/-- Why a container was not fetched. -/
inductive FetchFailure where
  /-- The reply has a status that says so. -/
  | status (code : NamedStatus) (words : Except Raised Text)
  /-- There was no reply. -/
  | transport (words : Except Raised Text)
  | raised (raised : Raised)

/-- What fetches the source of a container. -/
abbrev Fetcher (m : Type → Type) := Text → m (Except FetchFailure Text)

/-- The failure to fetch a container that the status of a reply makes. -/
def FetchFailure.ofStatus (container : Text) (code : Data) : FetchFailure :=
  match code.display with
  | .ok shown => .status (.ofData code)
      (.ok (("HTTP " : Text) ++ shown ++ (" fetching container " : Text) ++ container))
  | .error fault => .raised (.fault fault)

namespace Reply

/-- The values of a header, its name in any case. -/
def values (r : Reply) (name : Text) : List Text :=
  (r.headers.filter fun (n, _) => decide (n.lower = name.lower)).map (·.2)

/-- The value of a header; the values of several are separated by commas. -/
def header? (r : Reply) (name : Text) : Option Text :=
  match r.values name with
  | [] => none
  | found => some (Text.join ", " found)

/-- The statuses that send somewhere else. -/
def redirectStatuses : List Nat := [301, 302, 303, 307, 308]

/-- Where a reply sends. -/
def location? (r : Reply) : Option Text :=
  if redirectStatuses.contains r.status then r.header? "Location" else none

/-- Whether a reply holds what was asked for. -/
def isSuccess (r : Reply) : Bool := 200 ≤ r.status && r.status ≤ 299

/-- The text of a reply, by the charset that its content type names; one that is not known counts as
UTF-8. -/
def text (r : Reply) : Except Fault Text := do
  if r.body.isEmpty then return []
  let charset ← match r.header? "Content-Type" with
    | some contentType => ContentType.charset? contentType
    | none => pure none
  charset.getD Charset.utf8 r.body

end Reply

/-! ## Redirects -/

/-- The URL that a reply sends to, seen from the one that was asked. -/
def Url.redirect (here : Url) (location : Text) : Except ExchangeFailure Url := do
  let there ← (Url.ofText location).mapError fun fault =>
    if fault.kind = .other "InvalidURL" then
      .noReply (("Invalid URL in location header: " : Text) ++ fault.message ++ ("." : Text))
    else .fault fault
  (settle there).mapError .fault
where
  /-- Whom to ask is taken from where the reply came from, if the reply does not say; and so is the
  fragment. -/
  settle (there : Url) : Except Fault Url := do
    if !there.scheme.isEmpty then discard there.hostName
    let there ← if !there.scheme.isEmpty && there.host.isEmpty then there.withHost (← here.hostName)
      else pure there
    let there ← if there.isAbsolute then pure there else Url.join here there
    let there ←
      if (Url.solid here.fragment).isSome && (Url.solid there.fragment).isNone then
        there.withFragment here
      else pure there
    there.checkHost
    return there

/-- The body of a reply without the codings that were applied. -/
def Reply.decoded (reply : Reply) : Except ExchangeFailure Octets :=
  let codings := ContentCoding.ofHeader (reply.values "Content-Encoding")
  (ContentCoding.undo codings reply.body).mapError fun flaw =>
    .noReply (("Error -3 while decompressing data: " : Text) ++ flaw.wording)

/-- A reply as it is taken in. Its headers are in ASCII, its body is decoded, and the URL that was
asked says how to ask. -/
def Reply.accept (request : Request) (reply : Reply) : Except ExchangeFailure Reply := do
  let sent := reply.headers.flatMap fun (name, value) => [name, value]
  discard ((sent.mapM Ascii.check).mapError .fault)
  let body ← reply.decoded
  request.url.checkKind.mapError .fault
  return { reply with body }

variable {m : Type → Type} [Monad m]

/-- How many redirects are followed. -/
def maxRedirects : Nat := 20

/-- Sends a request and follows at most `more` redirects. -/
def followUpTo (transport : Transport m) (more : Nat) (request : Request) :
    m (Except ExchangeFailure Reply) := do
  match (← transport request).bind (Reply.accept request) with
  | .error failure => return .error failure
  | .ok reply =>
    match reply.location? with
    | none => return .ok reply
    | some location =>
      match request.url.redirect location, more with
      | .error failure, _ => return .error failure
      | .ok _, 0 => return .error (.noReply "Exceeded maximum allowed redirects.")
      | .ok url, more + 1 => followUpTo transport more { request with url }

/-- Sends a request and follows redirects. -/
def follow (transport : Transport m) (request : Request) : m (Except ExchangeFailure Reply) :=
  followUpTo transport maxRedirects request

/-! ## Containers -/

/-- What the program calls itself if the settings do not say. -/
def defaultUserAgent : Text := "gtm-inspector/0.1 (+https://www.googletagmanager.com)"

/-- What the program calls itself; only ASCII can be sent. -/
def FetchSettings.userAgentSent (s : FetchSettings) : Except Fault Text :=
  let agent := match s.userAgent with
    | some (c :: t) => c :: t
    | _ => defaultUserAgent
  Ascii.check agent

/-- The request for the source of a container. -/
def FetchSettings.request (s : FetchSettings) (container : Text) : Except Fault Request := do
  let endpoint ← (← Url.ofText s.endpoint).rooted
  let userAgent ← s.userAgentSent
  let url ← endpoint.withQuery (("id=" : Text) ++ (← Url.formValue container))
  url.checkHost
  return { url, userAgent }

/-- Fetches the source of a container. -/
def fetch (transport : Transport m) (s : FetchSettings) : Fetcher m := fun container => do
  match s.request container with
  | .error fault => return .error (.raised (.fault fault))
  | .ok request =>
    match ← follow transport request with
    | .error (.noReply reason) =>
      return .error (.transport (.ok (("Request error fetching container " : Text) ++ container ++
        (": " : Text) ++ reason)))
    | .error (.fault fault) => return .error (.raised (.fault fault))
    | .ok reply =>
      return if reply.isSuccess then reply.text.mapError fun fault => .raised (.fault fault)
        else .error (.ofStatus container (.int reply.status))

/-- The protocols that requests can be sent by. -/
def protocols : List Text := ["http", "https", "ws", "wss"]

/-- A transport that refuses requests by other protocols. -/
def byKnownProtocol (transport : Transport m) : Transport m := fun request =>
  let scheme := request.url.scheme
  if scheme.isEmpty then
    return .error (.noReply "Request URL is missing an 'http://' or 'https://' protocol.")
  else if !protocols.contains scheme then
    return .error (.noReply (("Request URL has an unsupported protocol '" : Text) ++ scheme ++
      ("://'." : Text)))
  else transport request

end TagAudit
