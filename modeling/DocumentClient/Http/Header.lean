/-
  Headers — the named values of a request or a response.

  Names are compared without regard to case, and several values can go by one name.
  Names and values are sent as ASCII: `check` refuses all others.  `shown` writes the
  headers of a response inside a message, with their names in lower case and without
  credentials.
-/
import DocumentClient.Failure

namespace DocumentClient.Http

/-- Named values, in the order in which they are sent. -/
abbrev Headers := List (String × String)

namespace Headers

/-- The values that go by a name, which is given in lower case. -/
def values (name : String) (headers : Headers) : List String :=
  (headers.filter fun header => header.1.toLower == name).map Prod.snd

/-- Whether there is a value of a name, which is given in lower case. -/
def has (name : String) (headers : Headers) : Bool := !(headers.values name).isEmpty

/-- The value of a name, which is given in lower case; several values are joined. -/
def value? (name : String) (headers : Headers) : Option String :=
  match headers.values name with
  | [] => none
  | values => some (String.intercalate ", " values)

/-- Refuses a text that is not in ASCII. -/
def checkText (text : String) : Outcome Unit :=
  if text.toList.all isAscii then .ok () else .error (.outsideAscii text)

/-- Refuses headers that are not in ASCII; a name is looked at before its value. -/
def check (headers : Headers) : Outcome Unit :=
  headers.forM fun (name, value) => do
    checkText name
    checkText value

/-- The names, in lower case, of the headers that carry credentials. -/
def credentialNames : List String := ["authorization", "proxy-authorization"]

/-- What is shown in the place of credentials. -/
def credentialMask : String := "[secure]"

/-- The headers as they are shown: names in lower case, credentials masked. -/
def masked (headers : Headers) : Headers :=
  headers.map fun (name, value) =>
    (name.toLower, if credentialNames.contains name.toLower then credentialMask else value)

/-- Headers inside a message: as a document or, where several values go by one name, as a
    list of pairs. -/
def shown (headers : Headers) : String :=
  let fields := headers.masked
  let pair (field : String × String) : String :=
    "(" ++ Text.quoted field.1 ++ ", " ++ Text.quoted field.2 ++ ")"
  let listed :=
    if (fields.map Prod.fst).Nodup then
      (Value.doc (fields.map fun (name, value) => (name, .text value))).shown
    else "[" ++ String.intercalate ", " (fields.map pair) ++ "]"
  s!"Headers({listed})"

end Headers

end DocumentClient.Http
