/-
  Recipients — what of a URL decides which cookies go there.

  A recipient has a host, a path and a port.  The host is written as in the URL, with the
  credentials in front of it; one without a dot counts as local.
-/
import DocumentClient.Http.Url

namespace DocumentClient.Http.Cookie

/-- Who a request goes to. -/
structure Recipient where
  /-- The host, in lower case. -/
  host : String
  path : String
  /-- The port, if there is a number in its place. -/
  port : Option String
  isSecure : Bool

/-- The characters that a path holds as they are. -/
def inCookiePath (c : Char) : Bool := isUnreserved c || "%/;:@&=+$,!~*'()".toList.contains c

/-- Writes the digits of encoded bytes in capitals. -/
def capitalizeDigits : List Char → List Char
  | [] => []
  | '%' :: a :: b :: rest =>
    if (Text.hexByte? a b).isSome then '%' :: a.toUpper :: b.toUpper :: capitalizeDigits rest
    else '%' :: capitalizeDigits (a :: b :: rest)
  | c :: rest => c :: capitalizeDigits rest

/-- A path as it is compared. -/
def normalPath (path : String) : String :=
  String.ofList (capitalizeDigits (encode inCookiePath path.toList))

/-- A host without the port after it. -/
def withoutPort (place : List Char) : List Char :=
  match place.reverse.span Char.isDigit with
  | (_ :: _, ':' :: host) => host.reverse
  | _ => place

/-- What the name of a local host ends with. -/
def localEnding : String := ".local"

namespace Recipient

/-- The port of a recipient that names none. -/
def usualPort : String := "80"

/-- The port named in a place: what follows the first colon, if it is a number. -/
def portIn (place : String) : Option String :=
  match Text.splitFirst ':' place.toList with
  | none => some usualPort
  | some (_, port) =>
    let port := String.ofList port
    match Text.readInt port with
    | .ok _ => some port
    | .error _ => none

/-- The recipient of requests to a URL. -/
def of (url : Url) : Recipient :=
  let path := normalPath url.path
  { host := (String.ofList (withoutPort url.authority.toList)).toLower
    path := if path.toList.head? = some '/' then path else "/" ++ path
    port := portIn (Text.Utf8.decodeLossy (decode url.authority.toList))
    isSecure := url.scheme == "https" || url.scheme == "wss" }

/-- The host that counts. -/
def reach (r : Recipient) : String :=
  if r.host.toList.contains '.' then r.host else r.host ++ localEnding

end Recipient

end DocumentClient.Http.Cookie
