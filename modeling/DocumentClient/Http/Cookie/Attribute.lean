/-
  Attributes — what a header says about a cookie besides its name and its value.

  A header that sets a cookie is a row of parts with semicolons between them.  Each part
  has a name and, after an equals sign, a value.  The first part is the cookie itself,
  the others are attributes: `Attributes.add` takes in one after the other.  Of several
  values of one attribute the first counts; but the age of a cookie takes the place of
  the date of its end.
-/
import DocumentClient.Http.Cookie.Date
import DocumentClient.Text.Numeral
import DocumentClient.Text.Split

namespace DocumentClient.Http.Cookie

/-- What is wrong with what a header says. -/
inductive Flaw where
  /-- The cookie is refused. -/
  | cookie
  /-- All cookies of the response are refused. -/
  | response
  deriving DecidableEq

/-! ## Parts -/

/-- A name and what follows the equals sign after it, if there is one. -/
structure Part where
  name : String
  value : Option String
  deriving DecidableEq

/-- A text without space around it. -/
def trimmed (text : List Char) : String := String.ofList (Text.trimSpace text)

/-- Reads a part. -/
def Part.read (text : List Char) : Part :=
  match Text.splitFirst '=' text with
  | some (name, value) => ⟨trimmed name, some (trimmed value)⟩
  | none => ⟨trimmed text, none⟩

/-- A text without a quote at either end. -/
def withoutQuotes (text : String) : List Char :=
  let cs := text.toList
  let cs := if cs.head? = some '"' then cs.drop 1 else cs
  if cs.getLast? = some '"' then cs.dropLast else cs

/-! ## Attributes -/

/-- An attribute; one without equals sign has no value. -/
inductive Attribute where
  | domain (value : Option String)
  | path (value : Option String)
  | version (value : Option String)
  | secure (value : Option String)
  | port (value : Option String)
  | maxAge (value : Option String)
  /-- The end of life; none if it cannot be told. -/
  | expires (seconds : Option Int)
  deriving DecidableEq

/-- The attribute that a part tells; none if it is of no concern. -/
def Attribute.ofPart (part : Part) : Except Flaw (Option Attribute) :=
  match part.name.toLower with
  | "domain" => .ok (some (domain part.value))
  | "path" => .ok (some (path part.value))
  | "version" => .ok (some (version (part.value.map fun v => String.ofList (withoutQuotes v))))
  | "secure" => .ok (some (secure part.value))
  | "port" => .ok (some (port part.value))
  | "max-age" => .ok (some (maxAge part.value))
  | "expires" =>
    match part.value.map fun v => Date.read (withoutQuotes v) with
    | some (.ok seconds) => .ok (some (expires (some seconds)))
    | some (.error .broken) => .error .response
    | _ => .ok (some (expires none))
  | _ => .ok none

/-- The attributes of a cookie. -/
structure Attributes where
  domain : Option String := none
  path : Option String := none
  version : Option String := none
  isSecure : Option Bool := none
  /-- The ports; without a value, that of the recipient. -/
  port : Option (Option String) := none
  /-- The end of life. -/
  ending : Option Int := none

namespace Attributes

/-- Takes a value unless there is one already; there must be one. -/
def first (known given : Option String) : Except Flaw (Option String) :=
  match known, given with
  | some known, _ => .ok (some known)
  | none, some given => .ok (some given)
  | none, none => .error .cookie

/-- Takes an attribute in. -/
def add (a : Attributes) : Attribute → Except Flaw Attributes
  | .domain value => do return { a with domain := ← first a.domain (value.map String.toLower) }
  | .path value => do return { a with path := ← first a.path value }
  | .version value => do return { a with version := ← first a.version value }
  | .secure value => .ok { a with isSecure := a.isSecure.or (some (value != some "")) }
  | .port value => .ok { a with port := a.port.or (some value) }
  | .expires seconds => .ok { a with ending := a.ending.or seconds }
  | .maxAge none => .error .response
  | .maxAge (some value) =>
    match Text.readInt value with
    | .ok age => .ok { a with ending := some (Date.present.seconds + age) }
    | .error _ => .error .cookie

end Attributes

/-! ## Headers -/

/-- What a header sets: a cookie and its attributes. -/
structure Setting where
  cookie : Part
  attributes : List Attribute

/-- Reads a header; none if it names no cookie. -/
def Setting.read (header : String) : Except Flaw (Option Setting) :=
  match (Text.splitAll ';' header.toList).map Part.read with
  | [] => .ok none
  | cookie :: parts =>
    if cookie.name = "" then .ok none
    else do
      let attributes ← parts.mapM Attribute.ofPart
      return some ⟨cookie, attributes.filterMap id⟩

end DocumentClient.Http.Cookie
