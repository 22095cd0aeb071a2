/-
  Redirections — where a response leads.

  A response can lead elsewhere.  No request goes there, but the place is worked out:
  `Url.ofLocation` reads it against the URL of the request, and fails where a request to
  it could not be made.
-/
import DocumentClient.Http.Status
import DocumentClient.Http.Url

namespace DocumentClient.Http

namespace Url

/-! ## References -/

/-- The schemes of URLs that others can be relative to. -/
def basicSchemes : List String :=
  ["ftp", "http", "gopher", "nntp", "imap", "wais", "file", "https", "shttp", "mms", "prospero",
    "rtsp", "rtsps", "rtspu", "sftp", "svn", "svn+ssh", "ws", "wss"]

/-- A path that is relative to another one: it takes the place of what follows the last
    slash. -/
def pathFrom (base path : String) : String :=
  if path.toList.head? = some '/' then path
  else match Text.splitLast '/' base.toList with
    | some (before, _) => String.ofList before ++ "/" ++ path
    | none => "/" ++ path

/-- The URL that a reference stands for, read against a URL; an empty one stands for
    that URL. -/
def refer (base reference : Url) : Outcome Url :=
  if reference.text = "" then .ok base
  else if reference.scheme != "" || !basicSchemes.contains base.scheme then .ok reference
  else if reference.authority != "" then
    parse (base.scheme ++ ":" ++ reference.text)
  else
    let sameDocument := reference.path = ""
    parse { base with
      path := if sameDocument then base.path else pathFrom base.path reference.path
      query := if sameDocument then (reference.query.filter (· != "")).or base.query
        else reference.query
      fragment := reference.fragment }.text

/-! ## Locations -/

/-- A URL with a host in the place of its own; the name is read anew. -/
def withHost (url : Url) (name : String) : Outcome Url := do
  let host ← readHost (if name.toList.contains ':' then "[" ++ name ++ "]" else name).toList
  checkPath url.path.toList true true
  return { url with host := host, path := String.ofList (resolvePath url.path.toList) }

/-- The bytes of a fragment as text. -/
def fragmentText (url : Url) : String :=
  Text.Utf8.decodeLossy (decode (url.fragment.getD "").toList)

/-- Refuses a fragment that no URL can have. -/
def checkFragment (text : String) : Outcome Unit :=
  match text.toList.findIdx? isControl with
  | some i =>
    let shown := Text.quoted (String.ofList (text.toList.drop i |>.take 1))
    .error (.malformedUrl
      (s!"Invalid non-printable ASCII character in URL fragment component, {shown} "
        ++ s!"at position {i}."))
  | none => .ok ()

/-- A URL that hands on the fragment of another one, unless it has its own. -/
def withFragmentOf (url other : Url) : Outcome Url := do
  if other.fragment.getD "" = "" || url.fragment.getD "" != "" then return url
  checkFragment other.fragmentText
  return { url with
    fragment := some (String.ofList (encode inFragment other.fragmentText.toList)) }

/-- The place that a location stands for in a response to a request to a URL. -/
def ofLocation (asked : Url) (location : String) : Outcome Url := do
  let url ← (parse location).mapError fun
    | .malformedUrl detail => .misdirected detail
    | failure => failure
  let url ← if url.scheme = "" then pure url else do
    let host ← showName url.host
    if host = "" then do url.withHost (← showName asked.host) else pure url
  let url ← if url.isAbsolute then pure url else refer asked url
  let url ← url.withFragmentOf asked
  let hosts := if url.scheme = asked.scheme then [url.host, asked.host] else [asked.host, url.host]
  hosts.forM fun host => do let _ ← showName host
  return url

end Url

end DocumentClient.Http
