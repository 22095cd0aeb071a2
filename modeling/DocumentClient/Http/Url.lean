/-
  URLs — the address of a gateway and of each request to it.

  `Url.parse` takes a text apart: `scheme://userinfo@host:port/path?query#fragment`,
  where every part may be missing.  The scheme and the host are put in lower case,
  a port that is the usual one of the scheme is dropped, `.` and `..` in the path
  are resolved, and what a part cannot hold is percent encoded.  `Url.text` puts
  the parts together again.
-/
import DocumentClient.Http.Host

namespace DocumentClient.Http

/-- A URL in parts. -/
structure Url where
  scheme : String
  userInfo : String
  host : String
  port : Option Int
  path : String
  query : Option String
  fragment : Option String
  deriving DecidableEq

namespace Url

/-! ## Parts -/

/-- The parts of a text, not yet looked at. -/
structure Parts where
  scheme : List Char
  userInfo : List Char
  host : List Char
  port : List Char
  path : List Char
  query : Option (List Char)
  fragment : Option (List Char)

def isSchemeChar (c : Char) : Bool := isAlphanumeric c || c == '+' || c == '.' || c == '-'

/-- Splits a scheme off: a colon ends it. -/
def splitScheme (text : List Char) : List Char × List Char :=
  match Text.splitFirst ':' text with
  | some ([], rest) => ([], rest)
  | some (c :: more, rest) =>
    if c.isAlpha && more.all isSchemeChar then (c :: more, rest) else ([], text)
  | none => ([], text)

/-- Splits off what stands before and from the first occurrence of a character on. -/
def splitTail (separator : Char) (text : List Char) : List Char × Option (List Char) :=
  match Text.splitFirst separator text with
  | some (before, after) => (before, some after)
  | none => (text, none)

/-- Splits a host off: brackets enclose one that holds colons. -/
def splitHost (text : List Char) : List Char × List Char :=
  match text.head?, Text.splitLast ']' text with
  | some '[', some (inside, rest) => (inside ++ [']'], rest)
  | _, _ => (text.takeWhile fun c => c != ':' && c != '@', text.dropWhile fun c => c != ':' && c != '@')

/-- Takes a text apart. -/
def split (text : List Char) : Parts :=
  let (scheme, rest) := splitScheme text
  let (rest, fragment) := splitTail '#' rest
  let (rest, query) := splitTail '?' rest
  let (authority, path) := match rest with
    | '/' :: '/' :: rest => (rest.takeWhile (· != '/'), rest.dropWhile (· != '/'))
    | rest => ([], rest)
  let (userInfo, place) := (Text.splitLast '@' authority).getD ([], authority)
  let (host, rest) := splitHost place
  let port := match rest with
    | ':' :: port => port
    | port => port
  ⟨scheme, userInfo, host, port, path, query, fragment⟩

/-! ## Ports -/

/-- The usual port of a scheme. -/
def usualPort (scheme : String) : Option Int :=
  match scheme with
  | "ftp" => some 21
  | "http" | "ws" => some 80
  | "https" | "wss" => some 443
  | _ => none

/-- The port a text names, unless it is the usual one. -/
def readPort (scheme text : String) : Outcome (Option Int) :=
  if text = "" then .ok none
  else match Text.readInt text with
    | .error _ => .error (.malformedUrl s!"Invalid port: {Text.quoted text}")
    | .ok n => .ok (if usualPort scheme = some n then none else some n)

/-! ## Paths -/

/-- Resolves the steps `.` and `..` of a path, after those in `back` (the last one
    first). -/
def resolveSteps (back : List (List Char)) : List (List Char) → List (List Char)
  | [] => back.reverse
  | step :: rest =>
    if step = ['.'] then resolveSteps back rest
    else if step = ['.', '.'] then
      resolveSteps (if back = [[]] then back else back.drop 1) rest
    else resolveSteps (step :: back) rest

/-- A path without the steps `.` and `..`. -/
def resolvePath (path : List Char) : List Char :=
  Text.join '/' (resolveSteps [] (Text.splitAll '/' path))

/-- Refuses a path that could be taken for another part. -/
def checkPath (path : List Char) (hasScheme hasAuthority : Bool) : Outcome Unit :=
  let starts := path.head?
  if hasAuthority && !path.isEmpty && starts != some '/' then
    .error (.malformedUrl "For absolute URLs, path must be empty or begin with '/'")
  else if !hasScheme && !hasAuthority && "//".toList.isPrefixOf path then
    .error (.malformedUrl "Relative URLs cannot have a path starting with '//'")
  else if !hasScheme && !hasAuthority && starts == some ':' then
    .error (.malformedUrl "Relative URLs cannot have a path starting with ':'")
  else .ok ()

/-! ## Reading -/

/-- The longest text that is read as a URL. -/
def longest : Nat := 65536

/-- Whether a character is an ASCII control. -/
def isControl (c : Char) : Bool := c.toNat < 0x20 || c.toNat == 0x7f

/-- Refuses a text that no URL can be read from. -/
def checkText (text : String) : Outcome Unit :=
  if longest < text.length then .error (.malformedUrl "URL too long")
  else match text.toList.findIdx? isControl with
    | some i =>
      let shown := Text.quoted (String.ofList (text.toList.drop i |>.take 1))
      .error (.malformedUrl
        s!"Invalid non-printable ASCII character in URL, {shown} at position {i}.")
    | none => .ok ()

/-- Reads a URL. -/
def parse (text : String) : Outcome Url := do
  checkText text
  let parts := split text.toList
  let host ← readHost parts.host
  let port ← readPort (String.ofList parts.scheme) (String.ofList parts.port)
  let hasScheme := !parts.scheme.isEmpty
  let hasAuthority := !parts.userInfo.isEmpty || host != "" || port.isSome
  checkPath parts.path hasScheme hasAuthority
  let path := if hasScheme || hasAuthority then resolvePath parts.path else parts.path
  return { scheme := String.ofList (parts.scheme.map Char.toLower)
           userInfo := String.ofList (encode inUserInfo parts.userInfo)
           host := host
           port := port
           path := String.ofList (encode inPath path)
           query := parts.query.map fun q => String.ofList (encode inQuery q)
           fragment := parts.fragment.map fun f => String.ofList (encode inFragment f) }

/-! ## Writing -/

/-- The host and what belongs to it. -/
def authority (url : Url) : String :=
  (if url.userInfo = "" then "" else url.userInfo ++ "@")
    ++ (if url.host.toList.contains ':' then "[" ++ url.host ++ "]" else url.host)
    ++ (match url.port with
      | some port => s!":{port}"
      | none => "")

/-- A URL as one text. -/
def text (url : Url) : String :=
  (if url.scheme = "" then "" else url.scheme ++ ":")
    ++ (if url.authority = "" then "" else "//" ++ url.authority)
    ++ url.path
    ++ (match url.query with
      | some query => "?" ++ query
      | none => "")
    ++ (match url.fragment with
      | some fragment => "#" ++ fragment
      | none => "")

/-! ## Credentials -/

/-- The name and the secret in front of the host, if there is either. -/
def credentials? (url : Url) : Option (String × String) :=
  let text := url.userInfo.toList
  let (name, secret) := (Text.splitFirst ':' text).getD (text, [])
  if name.isEmpty && secret.isEmpty then none
  else some (Text.Utf8.decodeLossy (decode name), Text.Utf8.decodeLossy (decode secret))

/-! ## Requests -/

/-- Whether a URL says by itself where it leads. -/
def isAbsolute (url : Url) : Bool := url.scheme != "" && url.host != ""

/-- The URL a request goes to: of one that does not say where it leads, only the
    path and the query count. -/
def target (url : Url) : Url :=
  if url.isAbsolute then url
  else { scheme := ""
         userInfo := ""
         host := ""
         port := none
         path := String.ofList ('/' :: url.path.toList.dropWhile (· == '/'))
         query := url.query
         fragment := none }

/-- The texts that stand for the value of a parameter: a list stands for several
    values. -/
def parameterTexts : Value → List String
  | .list items => items.map single
  | v => [single v]
where
  /-- The text of one value. -/
  single : Value → String
    | .null => ""
    | .bool b => if b then "true" else "false"
    | v => v.plain

/-- The query of some parameters; none without parameters. -/
def queryOf (parameters : Document) : Option String :=
  if parameters.isEmpty then none
  else
    let pairs := parameters.flatMap fun (name, value) =>
      (parameterTexts value).map fun v => formEncode name ++ '=' :: formEncode v
    some (String.ofList (Text.join '&' pairs))

/-- The URL with the query of some parameters in the place of its own, read anew. -/
def withParameters (url : Url) (parameters : Document) : Outcome Url :=
  parse { url with query := queryOf parameters }.text

end Url

/-! ## Addresses -/

/-- The address of the server behind a URL. -/
def addressOfEndpoint (endpoint : String) : Outcome Address := do
  let url ← Url.parse endpoint
  let host ← showName url.host
  let usual := if url.scheme = "https" then 443 else 80
  let port := match url.port with
    | some port => if port = 0 then usual else port
    | none => usual
  return ⟨host, port⟩

end DocumentClient.Http
