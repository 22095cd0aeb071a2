/-
  Commanders — commands as JSON over HTTP.

  A commander knows the endpoint of a gateway and the headers of its requests.  The
  payload of a request is one command, the body of the response one reply.
  `Commander.exchange` sends a request and yields the response; `Commander.run`
  reads the reply, fails with the error it reports and makes its warnings known.
  What is sent is logged, with the values of secret headers masked, and so is the
  response to it.
-/
import DocumentClient.Bound
import DocumentClient.Http.Charset
import DocumentClient.Http.Header
import DocumentClient.Http.Status
import DocumentClient.Http.Url
import DocumentClient.Text.Base64
import DocumentClient.Text.Case
import DocumentClient.Program

namespace DocumentClient.Http

/-! ## Commanders -/

/-- The name of the header that authorizes a request. -/
def authorizationHeader : String := "Authorization"

/-- What is logged in the place of a secret. -/
def secretMask : String := "***"

/-- The way to a gateway. -/
structure Commander where
  endpoint : String
  path : String
  /-- The headers; one without value is not sent. -/
  headers : List (String × Option String)
  /-- The names of the headers whose values are secret. -/
  secretHeaders : List String
  /-- The address reported in failures. -/
  address : Option Address

namespace Commander

/-- A text without the slashes it ends with. -/
def dropTrailingSlashes (text : String) : String :=
  String.ofList (text.toList.reverse.dropWhile (· == '/')).reverse

/-- A text without the slashes it begins with. -/
def dropLeadingSlashes (text : String) : String :=
  String.ofList (text.toList.dropWhile (· == '/'))

/-- The commander of an endpoint and a path under it. -/
def of (endpoint : String) (path : String := "") (headers : List (String × Option String) := [])
    (secretHeaders : List String := [authorizationHeader]) (address : Option Address := none) :
    Commander :=
  { endpoint := dropTrailingSlashes endpoint
    path := dropLeadingSlashes path
    headers := headers
    secretHeaders := secretHeaders
    address := address }

/-- The endpoint with the path. -/
def fullPath (c : Commander) : String := dropTrailingSlashes (c.endpoint ++ "/" ++ c.path)

/-- Sets a header: in its place if the name is known, else at the end. -/
def putHeader {α : Type} (name : String) (value : α) (headers : List (String × α)) :
    List (String × α) :=
  if headers.any (·.1 == name) then
    headers.map fun header => if header.1 = name then (name, value) else header
  else headers ++ [(name, value)]

/-- The headers that are sent. -/
def sentHeaders (c : Commander) : List (String × String) :=
  let given := c.headers.filterMap fun (name, value) => value.map (name, ·)
  putHeader "Content-Type" "application/json" given

/-- The headers that are sent, with the secret ones masked. -/
def maskedHeaders (c : Commander) : List (String × String) :=
  c.sentHeaders.map fun (name, value) =>
    (name, if c.secretHeaders.contains name then secretMask else value)

/-- A commander inside a message. -/
def shown (c : Commander) : String := s!"APICommander(\"{c.fullPath}\")"

/-- Whether two commanders reach the same gateway in the same way. -/
def agrees (a b : Commander) : Bool :=
  let within (xs ys : List String) : Bool := xs.all ys.contains
  a.endpoint == b.endpoint && a.path == b.path && a.headers.length == b.headers.length
    && a.headers.all b.headers.contains
    && within a.secretHeaders b.secretHeaders && within b.secretHeaders a.secretHeaders
    && a.address == b.address

/-! ## Requests -/

/-- The URL of a request to a further path. -/
def requestUrl (c : Commander) : Option String → String
  | none => c.fullPath
  | some further =>
    if further = "" then c.fullPath
    else dropTrailingSlashes c.fullPath ++ "/" ++ dropLeadingSlashes further

/-- The body that carries a payload. -/
def encodePayload (payload : Value) : Except Invalid String :=
  match Json.write .wire payload with
  | some text => .ok text
  | none => .error .notFinite

end Commander

/-- A request to a gateway. -/
structure Request where
  method : String := "POST"
  payload : Option Document := none
  furtherPath : Option String := none
  parameters : Document := []
  bound : Bound := {}

namespace Request

/-- What the command of a request is called in messages: all names of its payload. -/
def commandNames (r : Request) : String :=
  match r.payload with
  | some payload =>
    String.intercalate "/" ((Document.names payload).mergeSort fun a b => decide (a ≤ b))
  | none => "(none)"

end Request

namespace Commander

variable {σ : Type}

open Program (log)

/-! ## Sending -/

/-- Logs a request. -/
def logRequest (c : Commander) (r : Request) : Program σ Unit := do
  let masked : Document := c.maskedHeaders.map fun (name, value) => (name, .text value)
  let payload := r.payload.getD []
  log .debug s!"Request URL: {r.method} {c.requestUrl r.furtherPath}"
  if r.parameters.isEmpty then pure ()
  else log .debug s!"Request params: {(Value.doc r.parameters).shown}"
  log .debug s!"Request headers: {(Value.doc masked).shown}"
  if payload.isEmpty then pure ()
  else log .debug s!"Request payload: {(Value.doc payload).shown}"
  match r.bound.milliseconds with
  | some ms => log .debug s!"Request timeout: {ms} ms ({r.bound.label.getD noLabel})"
  | none => pure ()
where
  /-- What is logged for a bound without name. -/
  noLabel : String := Value.null.shown

/-- Credentials as the value of a header. -/
def basicAuthorization (name secret : String) : String :=
  "Basic " ++ String.ofList (Text.Base64.encode (Text.Utf8.encode (name ++ ":" ++ secret)))

/-- The headers of a request to a URL: the credentials in it replace any other
    authorization. -/
def headersFor (c : Commander) (url : Url) : List (String × String) :=
  match url.credentials? with
  | none => c.sentHeaders
  | some (name, secret) =>
    (c.sentHeaders.filter fun header => header.1.toLower != authorizationHeader.toLower)
      ++ [(authorizationHeader, basicAuthorization name secret)]

/-- What is sent for a request. -/
def prepare (c : Commander) (r : Request) (timeout : Option Duration) : Outcome HttpRequest := do
  let body ← match r.payload with
    | some payload => (Outcome.ofValid (encodePayload (.doc payload))).map some
    | none => .ok none
  let url ← Url.parse (c.requestUrl r.furtherPath)
  Headers.check c.sentHeaders
  let url ← url.target.withParameters r.parameters
  return { method := Text.upper r.method
           url := url
           headers := c.headersFor url
           body := body
           timeout := timeout }

/-- Sends a request and receives the response; one that is no success is a failure. -/
def exchange (c : Commander) (r : Request) : Program σ HttpResponse := do
  let timeout ← Program.ofOutcome r.bound.duration?
  c.logRequest r
  let sent ← Program.ofOutcome (c.prepare r timeout)
  match ← Program.http sent with
  | .timeout phase text =>
    Program.fail (.timedOut
      (Timeout.ofRequest phase text r.bound (some sent.url.text) (some (sent.body.getD ""))))
  | .response response =>
    if Status.isSuccess response.status then do
      log .debug s!"Response status code: {response.status}"
      log .debug s!"Response headers: {Headers.shown response.headers}"
      let text ← Program.ofOutcome (responseText response)
      log .debug s!"Response text: {text}"
      return response
    else Program.fail (statusFailure response sent.url.text)

/-! ## Replies -/

/-- The reply in a response. -/
def readReply (r : Request) (response : HttpResponse) : Outcome Document :=
  let unusable (problem : Unusable) : Outcome Document := do
    let text ← responseText response
    .error (.unusable problem (.doc [("raw_response", .text text)]))
  match Body.json? response.body with
  | none => unusable (.unreadable r.commandNames)
  | some (.doc reply) => .ok reply
  | some _ => unusable .notDocument

/-- Makes the warnings of a reply known. -/
def announceWarnings (reply : Document) : Program σ Unit := do
  let warnings := Document.get "warnings" reply
  let items ← Program.ofOutcome (if warnings.truthy then warnings.items else .ok [])
  items.forM fun item => log .warning s!"The gateway returned a warning: {item.plain}"

/-- Sends a request and receives the reply; unless `errorsPass`, a reply that reports
    an error is a failure. -/
def run (c : Commander) (r : Request) (errorsPass : Bool := false) : Program σ Document := do
  let response ← c.exchange r
  let reply ← Program.ofOutcome (readReply r response)
  if reportsError reply && !errorsPass then do
    let reason := Document.get "errmsg" reply
    let shown := if reason.truthy then reason.plain else (Value.doc reply).plain
    log .warning s!"APICommander about to raise from: {shown}"
  else pure ()
  let reply ← Program.ofOutcome (if errorsPass then .ok reply else checkReply reply c.address)
  announceWarnings reply
  return reply

end Commander

end DocumentClient.Http
