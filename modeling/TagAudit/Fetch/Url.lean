import TagAudit.Fetch.HostName
import TagAudit.Number.Integer
import TagAudit.Text.Ascii
import TagAudit.Text.Casing
import TagAudit.Text.Utf8

/-!
# URLs

A URL in its normal form: small letters in scheme and host, no default port, no dots as steps of the
path, and escapes for what may not stand where it stands.

* `Url.split` finds the parts of a URL, `Url.ofParts` brings them into normal form.
* `Url.text` writes a URL.
* `Url.join` is a reference as seen from a URL.
-/

namespace TagAudit

/-- The parts of a URL, as they are spelled. -/
structure Url.Parts where
  scheme : Text := []
  userInfo : Text := []
  /-- The host; an address of groups stands between brackets. -/
  host : Text := []
  port : Text := []
  path : Text := []
  query : Option Text := none
  fragment : Option Text := none

/-- A URL in its normal form. -/
structure Url where
  scheme : Text
  userInfo : Text
  /-- The host; an address of groups stands without brackets. -/
  host : Text
  port : Option Int
  path : Text
  query : Option Text
  fragment : Option Text
deriving DecidableEq

namespace Url

/-- What is wrong with a text that is no URL. -/
def refused (reason : Text) : Fault := .worded (.other "InvalidURL") reason

/-! ## Escapes -/

/-- A hexadecimal digit as escapes have it. -/
def hexDigit (n : Nat) : CodePoint :=
  CodePoint.ofNat (if n < 10 then 0x30 + n else 0x41 + (n - 10))

/-- The escape of an octet. -/
def escapeOctet (octet : UInt8) : Text :=
  ['%', hexDigit (octet.toNat / 16), hexDigit (octet.toNat % 16)]

/-- A text with the escapes of all code points but the plain ones. -/
def escape (plain : CodePoint → Bool) (t : Text) : Except Fault Text :=
  match t.find? CodePoint.isSurrogate with
  | some c => .error (.unencodable c 0 0)
  | none => .ok (t.flatMap fun c => if plain c then [c] else (Utf8.octetsOf c).flatMap escapeOctet)

/-- A letter, a digit, or one of four marks: what never needs an escape. -/
def isUnreserved (c : CodePoint) : Bool :=
  c.isAsciiDigit || c.isAsciiUpper || c.isAsciiLower || ("-._~" : Text).contains c

/-- Whether a code point is shown by ASCII, blanks aside, and is not among some others. -/
def isShownBut (others : Text) (c : CodePoint) : Bool :=
  0x20 < c.val && c.val < 0x7F && !others.contains c

/-- What needs no escape in a query. -/
def isQueryPlain : CodePoint → Bool := isShownBut "\"#<>"

/-- What needs no escape in a path. -/
def isPathPlain : CodePoint → Bool := isShownBut "\"#<>?`\x7b\x7d"

/-- What needs no escape in front of a host. -/
def isUserPlain : CodePoint → Bool := isShownBut "\"#<>?`\x7b\x7d/;=@[\\]^|"

/-- What needs no escape in a fragment. -/
def isFragmentPlain : CodePoint → Bool := isShownBut "\"<>`"

/-- What needs no escape in the name of a host. -/
def isHostPlain (c : CodePoint) : Bool :=
  isUnreserved c || ("!$&'()*+,;=\"`\x7b\x7d%|\\" : Text).contains c

/-- The octets that a text in ASCII with escapes stands for. -/
def unescapeOctets : Text → Octets
  | c :: high :: low :: rest =>
    match decide (c = '%'), high.hexValue?, low.hexValue? with
    | true, some h, some l => UInt8.ofNat (h * 16 + l) :: unescapeOctets rest
    | _, _, _ => UInt8.ofNat c.val :: unescapeOctets (high :: low :: rest)
  | t => t.map fun c => UInt8.ofNat c.val

/-- A text in ASCII without its escapes. -/
def unescape (t : Text) : Text := Utf8.decode (unescapeOctets t)

/-- A text as the value of a form: blanks are written as plus signs. -/
def formValue (t : Text) : Except Fault Text :=
  match Utf8.surrogates? t with
  | some fault => .error fault
  | none =>
    (escape (fun c => isUnreserved c || decide (c = ' ')) t).map fun escaped =>
      escaped.map fun (c : CodePoint) => if c = ' ' then '+' else c

/-! ## Parts -/

/-- A code point that a scheme may start with. -/
def startsScheme (c : CodePoint) : Bool := c.isAsciiUpper || c.isAsciiLower

/-- A code point that a scheme may hold. -/
def isSchemePart (c : CodePoint) : Bool :=
  startsScheme c || c.isAsciiDigit || ("+.-" : Text).contains c

/-- The scheme of a URL, and what follows it. A colon at the front ends an empty scheme. -/
def splitScheme (t : Text) : Text × Text :=
  let scheme := t.takeWhile isSchemePart
  match t.drop scheme.length with
  | c :: rest =>
    if c = ':' && (scheme.head?).all startsScheme then (scheme, rest) else ([], t)
  | [] => ([], t)

/-- The text in front of the first code point of some kind, and the text from there on. -/
def upTo (stops : Text) (t : Text) : Text × Text :=
  let first := t.takeWhile fun c => !stops.contains c
  (first, t.drop first.length)

/-- What follows a code point, if a text starts with it. -/
def after? (mark : CodePoint) : Text → Option Text
  | c :: rest => if c = mark then some rest else none
  | [] => none

/-- Who asks, and the rest of an authority; the last `@` parts them. -/
def splitUser (authority : Text) : Text × Text :=
  let rest := (authority.reverse.takeWhile fun (c : CodePoint) => decide (c ≠ '@')).reverse
  (authority.take (authority.length - rest.length - 1), rest)

/-- A host between brackets, as far as the last bracket that closes. -/
def bracketed? (t : Text) : Option Text :=
  let behind := (t.reverse.takeWhile fun (c : CodePoint) => decide (c ≠ ']')).length
  if t.head? = some ('[' : CodePoint) && behind < t.length then some (t.take (t.length - behind))
  else none

/-- The host and the port that an authority names. -/
def splitHost (t : Text) : Text × Text :=
  let host := (bracketed? t).getD (upTo ":" t).1
  let rest := t.drop host.length
  (host, (after? ':' rest).getD rest)

/-- The parts of a URL. -/
def split (t : Text) : Parts :=
  let (scheme, rest) := splitScheme t
  let (authority, rest) := match (after? '/' rest).bind (after? '/') with
    | some rest => upTo "/?#" rest
    | none => ([], rest)
  let (path, rest) := upTo "?#" rest
  let (query, rest) := match after? '?' rest with
    | some rest => let (query, rest) := upTo "#" rest; (some query, rest)
    | none => (none, rest)
  let (userInfo, named) := splitUser authority
  let (host, port) := splitHost named
  { scheme, userInfo, host, port, path, query, fragment := after? '#' rest }

/-! ## Normal form -/

/-- The port that a scheme has if none is named. -/
def defaultPort? (scheme : Text) : Option Int :=
  if scheme = ("http" : Text) || scheme = ("ws" : Text) then some 80
  else if scheme = ("https" : Text) || scheme = ("wss" : Text) then some 443
  else if scheme = ("ftp" : Text) then some 21
  else none

/-- The port that a text names, none for the default one. -/
def readPort (scheme port : Text) : Except Fault (Option Int) :=
  if port.isEmpty then .ok none
  else
    match readInteger port with
    | .ok n => .ok (if defaultPort? scheme = some n then none else some n)
    | .error _ => .error (refused (("Invalid port: " : Text) ++ port.quote))

/-- A host in its normal form. -/
def readHost (host : Text) : Except Fault Text :=
  if HostName.looksLikeDotted host then
    if HostName.isDotted host then .ok host
    else .error (refused (("Invalid IPv4 address: " : Text) ++ host.quote))
  else if host.head? = some ('[' : CodePoint) && host.getLast? = some (']' : CodePoint) then
    let address := (host.drop 1).dropLast
    if HostName.isGrouped address then .ok address
    else .error (refused (("Invalid IPv6 address: " : Text) ++ host.quote))
  else if host.all Ascii.isPlain then escape isHostPlain host.lower
  else
    (HostName.toAscii host.small).mapError fun _ =>
      refused (("Invalid IDNA hostname: " : Text) ++ host.quote)

/-- The steps of a path without those that stay or go back; going back from the root stays there. -/
def walkPath (done : List Text) : List Text → List Text
  | [] => done.reverse
  | step :: rest =>
    if step = ("." : Text) then walkPath done rest
    else if step = (".." : Text) then
      walkPath (if done = [[]] then done else done.drop 1) rest
    else walkPath (step :: done) rest

/-- A path without dots as steps. -/
def cleanPath (path : Text) : Text := Text.join "/" (walkPath [] (Text.splitOn '/' path))

/-- The path of a URL in normal form. Behind an authority it starts with a slash; without anything
in front it must not look like an authority or a scheme. -/
def readPath (hasScheme hasAuthority : Bool) (path : Text) : Except Fault Text := do
  if hasAuthority && !path.isEmpty && !("/" : Text).isPrefixOf path then
    throw (refused "For absolute URLs, path must be empty or begin with '/'")
  if !hasScheme && !hasAuthority then
    if ("//" : Text).isPrefixOf path then
      throw (refused "Relative URLs cannot have a path starting with '//'")
    if (":" : Text).isPrefixOf path then
      throw (refused "Relative URLs cannot have a path starting with ':'")
  escape isPathPlain (if hasScheme || hasAuthority then cleanPath path else path)

/-- The normal form of parts. -/
def ofParts (p : Parts) : Except Fault Url := do
  let scheme := p.scheme.lower
  let userInfo ← escape isUserPlain p.userInfo
  let host ← readHost p.host
  let port ← readPort p.scheme p.port
  let hasAuthority := !userInfo.isEmpty || !host.isEmpty || port.isSome
  let path ← readPath (!scheme.isEmpty) hasAuthority p.path
  let query ← p.query.mapM (escape isQueryPlain)
  let fragment ← p.fragment.mapM (escape isFragmentPlain)
  return { scheme, userInfo, host, port, path, query, fragment }

/-- How long a URL, or one part of it, may be. -/
def maxLength : Nat := 65536

/-- A code point of ASCII that shows nothing. -/
def isControl (c : CodePoint) : Bool := c.val < 0x20 || c.val = 0x7F

/-- What is wrong with a URL, or with some part of it, that holds a control. -/
def controlFault? (place : Text) (t : Text) : Option Fault :=
  let before := (t.takeWhile fun c => !isControl c).length
  (t.drop before).head?.map fun c =>
    refused (("Invalid non-printable ASCII character in URL" : Text) ++ place ++ (", " : Text) ++
      Text.quote [c] ++ (" at position " : Text) ++ Text.ofNat before ++ ("." : Text))

/-- The URL that a text spells. -/
def ofText (t : Text) : Except Fault Url :=
  if maxLength < t.length then .error (refused "URL too long")
  else
    match controlFault? [] t with
    | some fault => .error fault
    | none => ofParts (split t)

/-! ## Writing -/

/-- Who asks, host and port, as a URL names them. -/
def Parts.authority (p : Parts) : Text :=
  (if p.userInfo.isEmpty then [] else p.userInfo ++ ("@" : Text)) ++ p.host ++
    (if p.port.isEmpty then [] else (":" : Text) ++ p.port)

/-- A text behind a mark, or nothing. -/
def behind (mark : Text) : Option Text → Text
  | some t => mark ++ t
  | none => []

/-- Parts as one text. -/
def Parts.text (p : Parts) : Text :=
  (if p.scheme.isEmpty then [] else p.scheme ++ (":" : Text)) ++
    (if p.authority.isEmpty then [] else ("//" : Text) ++ p.authority) ++ p.path ++
    behind "?" p.query ++ behind "#" p.fragment

/-- An integer in decimal. -/
def decimal (n : Int) : Text := (if n < 0 then "-" else "" : Text) ++ Text.ofNat n.natAbs

/-- A host as it stands in a URL. -/
def hostText (host : Text) : Text :=
  if host.contains (':' : CodePoint) then ("[" : Text) ++ host ++ ("]" : Text) else host

/-- The parts of a URL, as they are written. -/
def parts (u : Url) : Parts where
  scheme := u.scheme
  userInfo := u.userInfo
  host := hostText u.host
  port := (u.port.map decimal).getD []
  path := u.path
  query := u.query
  fragment := u.fragment

/-- A URL as text. -/
def text (u : Url) : Text := u.parts.text

/-! ## Parts replaced -/

/-- What is wrong with a part of a URL that is put together from parts. -/
def partFault? (name part : Text) : Option Fault :=
  if maxLength < part.length then
    some (refused (("URL component '" : Text) ++ name ++ ("' too long" : Text)))
  else controlFault? ((" " : Text) ++ name ++ (" component" : Text)) part

/-- The normal form of parts of which some were replaced; none of them may be too long or hold a
control. -/
def rebuild (p : Parts) : Except Fault Url :=
  let named : List (Text × Text) :=
    [("authority", p.authority), ("path", p.path), ("query", p.query.getD []),
      ("fragment", p.fragment.getD [])]
  match named.findSome? fun (name, part) => partFault? name part with
  | some fault => .error fault
  | none => ofParts p

/-- Whether a URL says everything: how to ask, and whom. -/
def isAbsolute (u : Url) : Bool := !u.scheme.isEmpty && !u.host.isEmpty

/-- What a URL asks a host for. -/
def target (u : Url) : Text :=
  (if u.path.isEmpty then ("/" : Text) else u.path) ++ behind "?" u.query

/-- A URL that may leave out how to ask and whom: such a one is taken from the root of nowhere. -/
def rooted (u : Url) : Except Fault Url :=
  if u.isAbsolute then .ok u
  else
    let target := ("/" : Text) ++ u.target.dropWhile fun (c : CodePoint) => decide (c = '/')
    let (path, rest) := upTo "?" target
    rebuild { path, query := after? '?' rest }

/-- A URL with another query. -/
def withQuery (u : Url) (query : Text) : Except Fault Url :=
  rebuild { u.parts with query := some query }

/-- The name of the host as people write it. -/
def hostName (u : Url) : Except Fault Text :=
  if HostLabel.encodedMark.isPrefixOf u.host then
    (HostName.toUnicode u.host).mapError HostLabel.Flaw.fault
  else .ok u.host

/-- Refuses a URL whose host cannot be asked: its name has to make sense, and what names it on the
network has to be in ASCII. -/
def checkHost (u : Url) : Except Fault Unit := do
  discard u.hostName
  discard (Ascii.check ({ u.parts with userInfo := [] } : Parts).authority)

/-- A URL with another host. -/
def withHost (u : Url) (host : Text) : Except Fault Url :=
  rebuild { u.parts with host := hostText host }

/-- A URL with the fragment of another one. -/
def withFragment (u other : Url) : Except Fault Url :=
  rebuild { u.parts with fragment := some (unescape (other.fragment.getD [])) }

/-! ## Kinds -/

/-- Whether a text says at its front how to ask: something without slashes behind which a colon
stands. -/
def namesKind (t : Text) : Bool :=
  let (front, rest) := upTo "/:" t
  !front.isEmpty && decide (rest.head? = some (':' : CodePoint))

/-- Refuses a URL that does not say how to ask, or whose brackets hold no address. The fragment does
not count, and an empty one is not shown. -/
def checkKind (u : Url) : Except Fault Unit :=
  let shown := u.text
  let last := (shown.reverse.takeWhile fun (c : CodePoint) => decide (c ≠ '#')).length
  let asked := if last < shown.length then shown.take (shown.length - last - 1) else shown
  if namesKind asked then HostName.checkBrackets (split asked).authority
  else .error (.worded .value
    (("unknown url type: " : Text) ++ Text.quote (if last = 0 then asked else shown)))

/-! ## References -/

/-- The schemes whose URLs can be referred to in part. -/
def hierarchical : List Text := [
  "", "ftp", "http", "gopher", "nntp", "imap", "wais", "file", "https",
  "shttp", "mms", "prospero", "rtsp", "rtsps", "rtspu", "sftp", "svn", "svn+ssh", "ws", "wss"]

/-- The schemes whose paths may end in parameters. -/
def parametrised : List Text := [
  "", "ftp", "hdl", "prospero", "http", "imap", "https", "shttp", "rtsp", "rtsps", "rtspu", "sip",
  "sips", "mms", "sftp", "tel"]

/-- A path and its parameters: what follows the first semicolon of the last step. -/
def splitParameters (scheme path : Text) : Text × Text :=
  if parametrised.contains scheme then
    let step := (path.reverse.takeWhile fun (c : CodePoint) => decide (c ≠ '/')).reverse
    let (kept, parameters) := upTo ";" step
    (path.take (path.length - step.length) ++ kept, parameters.drop 1)
  else (path, [])

/-- A path with parameters; without any there is no semicolon. -/
def withParameters (path parameters : Text) : Text :=
  if parameters.isEmpty then path else path ++ (";" : Text) ++ parameters

/-- The steps of a path that is seen from another one: empty ones between the first and the last are
dropped, unless the path starts at the root. -/
def stepsFrom (base path : Text) : List Text :=
  if ("/" : Text).isPrefixOf path then Text.splitOn '/' path
  else
    let around := Text.splitOn '/' base
    let steps := (if around.getLast? = some [] then around else around.dropLast) ++
      Text.splitOn '/' path
    steps.take 1 ++ ((steps.drop 1).dropLast.filter fun s => !s.isEmpty) ++
      (steps.drop 1).getLast?.toList

/-- The steps of a path without those that stay or go back; a step too far back is none. -/
def resolveSteps (done : List Text) : List Text → List Text
  | [] => done.reverse
  | step :: rest =>
    if step = ("." : Text) then resolveSteps done rest
    else if step = (".." : Text) then resolveSteps (done.drop 1) rest
    else resolveSteps (step :: done) rest

/-- A path as seen from another one. -/
def resolvePath (base path : Text) : Text :=
  let steps := stepsFrom base path
  let last := steps.getLast?.getD []
  let closing : List Text := if last = ("." : Text) || last = (".." : Text) then [[]] else []
  let joined := Text.join "/" (resolveSteps [] steps ++ closing)
  if joined.isEmpty then "/" else joined

/-- What is not there, or empty, as nothing. -/
def solid : Option Text → Option Text
  | some (c :: t) => some (c :: t)
  | _ => none

/-- A path behind an authority, if there is one. -/
def pathBehind (authority path : Text) : Text :=
  if authority.isEmpty || path.isEmpty || ("/" : Text).isPrefixOf path then path
  else ("/" : Text) ++ path

/-- Whether a reference says all by itself, as seen from other parts: it has a scheme of its own, or
nothing can be taken from there. -/
def isForeign (base reference : Parts) : Bool :=
  (!reference.scheme.isEmpty && decide (reference.scheme.lower ≠ base.scheme)) ||
    !hierarchical.contains base.scheme

/-- The parts of a reference as seen from other parts: what it leaves out is taken from there. -/
def joinParts (base reference : Parts) : Parts :=
  let (path, parameters) := splitParameters base.scheme reference.path
  let (basePath, baseParameters) := splitParameters base.scheme base.path
  let joined : Parts :=
    { base with query := solid reference.query, fragment := solid reference.fragment }
  if !reference.authority.isEmpty then
    { joined with
      userInfo := reference.userInfo, host := reference.host, port := reference.port
      path := pathBehind reference.authority (withParameters path parameters) }
  else if path.isEmpty && parameters.isEmpty then
    { joined with
      query := (solid reference.query).or (solid base.query)
      path := pathBehind base.authority (withParameters basePath baseParameters) }
  else
    { joined with
      path := pathBehind base.authority
        (withParameters (resolvePath basePath path) parameters) }

/-- A reference as seen from a URL. -/
def join (base reference : Url) : Except Fault Url := do
  let shown := reference.text
  if shown.isEmpty then ofText base.text
  else
    let reference := split shown
    HostName.checkBrackets reference.authority
    if isForeign (split base.text) reference then ofText shown
    else ofText (joinParts (split base.text) reference).text

end Url

end TagAudit
