/-
  Cookies — what a recipient asks to be told again.

  A response sets cookies; requests that go to the domain and the path of a cookie carry
  it.  `Order.read` is what a header of a response orders: to keep a cookie, or to drop
  one whose end has come.  `Cookie.isAdmissible` says which cookies a recipient may set,
  and `Cookie.goesTo` which requests carry one.
-/
import DocumentClient.Decimal.Double
import DocumentClient.Http.Cookie.Attribute
import DocumentClient.Http.Cookie.Recipient

namespace DocumentClient.Http

/-! ## Cookies -/

/-- A cookie. -/
structure Cookie where
  name : String
  /-- The value; there is none without an equals sign. -/
  value : Option String
  version : Int
  domain : String
  /-- Whether the domain was given, and not taken from the recipient. -/
  namesDomain : Bool
  path : String
  /-- The ports, if they are limited; commas separate them. -/
  ports : Option String
  /-- Whether the ports were given, and not taken from the recipient. -/
  namesPorts : Bool
  isSecure : Bool
  deriving DecidableEq

namespace Cookie

/-- A cookie inside a request. -/
def shown (c : Cookie) : String :=
  match c.value with
  | some value => c.name ++ "=" ++ value
  | none => c.name

/-! ## Orders -/

/-- What a header orders. -/
inductive Order where
  | keep (cookie : Cookie)
  | drop (domain path name : String)

/-- The path of cookies that name none: that of the recipient up to its last slash,
    which belongs to it only in later versions. -/
def usualPath (recipient : Recipient) (version : Int) : String :=
  let whole := recipient.path.toList
  let path := match Text.splitLast '/' whole with
    | some (before, _) => if version = 0 then before else before ++ ['/']
    | none => whole
  if path.isEmpty then "/" else String.ofList path

/-- What a setting orders; nothing if its version is no number. -/
def orderOf (recipient : Recipient) (cookie : Part) (a : Attributes) :
    Except Flaw (Option Order) :=
  match Text.readInt (a.version.getD "0") with
  | .error _ => .ok none
  | .ok version =>
    let path := match a.path.filter (· != "") with
      | some path => normalPath path
      | none => usualPath recipient version
    let domain := match a.domain with
      | some domain => if domain.toList.head? = some '.' then domain else "." ++ domain
      | none => recipient.reach
    if a.ending.any (· ≤ Date.present.seconds) then .ok (some (.drop domain path cookie.name))
    else if a.ending.any fun seconds => !(Double.ofInt seconds).isFinite then .error .response
    else
      let ports := match a.port with
        | some (some given) => some (String.ofList (given.toList.filter (!Text.isSpace ·)))
        | some none => recipient.port
        | none => none
      .ok (some (.keep
        { name := cookie.name
          value := cookie.value
          -- The first version is treated like the one before it.
          version := if version = 1 then 0 else version
          domain := domain
          namesDomain := a.domain.isSome
          path := path
          ports := ports
          namesPorts := (a.port.bind id).isSome
          isSecure := a.isSecure.getD false }))

/-- The attributes of a setting; none if they rule the cookie out. -/
def attributesOf (setting : Setting) : Except Flaw (Option Attributes) :=
  match setting.attributes.foldlM Attributes.add {} with
  | .ok a => .ok (some a)
  | .error .cookie => .ok none
  | .error .response => .error .response

/-! ## Setting -/

/-- Whether a text ends with another one. -/
def endsWith (text ending : String) : Bool := ending.toList.isSuffixOf text.toList

/-- Whether a recipient may set cookies of a domain that it names. -/
def admitsDomain (recipient : Recipient) (domain : String) (version : Int) : Bool :=
  let reach := recipient.reach
  let undotted := if domain.toList.head? = some '.' then domain.toList.drop 1 else domain.toList
  (undotted.contains '.' || endsWith reach localEnding)
    && (version < 0 || endsWith reach domain
      || endsWith reach (String.ofList undotted ++ localEnding)
      || reach.toList.head? = some '.' || endsWith ("." ++ reach) domain)

/-- Whether a recipient is reached through one of the ports; each one up to that must be
    a number. -/
def admitsPorts (port : String) : List (List Char) → Bool
  | [] => false
  | p :: rest =>
    match Text.readInt (String.ofList p) with
    | .error _ => false
    | .ok _ => String.ofList p == port || admitsPorts port rest

/-- Whether a recipient may set a cookie. -/
def isAdmissible (recipient : Recipient) (c : Cookie) : Bool :=
  c.version ≤ 0
    && (!c.namesDomain || admitsDomain recipient c.domain c.version)
    && (!c.namesPorts
      || admitsPorts (recipient.port.getD Recipient.usualPort)
        (Text.splitAll ',' (c.ports.getD "").toList))

/-! ## Sending -/

/-- Whether a path lies under another one. -/
def isUnder (path above : List Char) : Bool :=
  path == above || above.isPrefixOf path
    && (above.getLast? == some '/' || (path.drop above.length).head? == some '/')

/-- Whether a host lies in a domain. -/
def isInDomain (domain : String) (host : String) : Bool :=
  let dotted (text : String) : String :=
    if text.toList.head? = some '.' then text else "." ++ text
  domain = "" || endsWith (dotted host) (dotted domain)

/-- Whether a request carries a cookie. -/
def goesTo (recipient : Recipient) (c : Cookie) : Bool :=
  (isInDomain c.domain recipient.host || isInDomain c.domain recipient.reach)
    && isUnder recipient.path.toList c.path.toList
    && (!c.isSecure || recipient.isSecure)
    && (match c.ports.filter (· != "") with
      | some ports => (Text.splitAll ',' ports.toList).contains
          (recipient.port.getD Recipient.usualPort).toList
      | none => true)
    && (c.version < 0 || isInDomain c.domain ("." ++ recipient.reach))

end Cookie

end DocumentClient.Http
