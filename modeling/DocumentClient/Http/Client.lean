/-
  Clients — what remains from one request to the next.

  A client keeps the cookies it was sent, and gives them back with the requests they go
  to.  `Client.send` makes a request ready to be sent, and `Client.receive` takes the
  response to it.
-/
import DocumentClient.Http.Coding
import DocumentClient.Http.Cookie.Jar
import DocumentClient.Http.Redirection

namespace DocumentClient.Http

/-- A client. -/
structure Client where
  jar : Cookie.Jar := {}
  /-- Whether it takes no more requests. -/
  isClosed : Bool := false

/-- Refuses a URL that does not tell by which protocol it is reached: no colon stands
    before its first slash, or nothing before the colon. -/
def checkProtocol (url : Url) : Outcome Unit :=
  let text := { url with fragment := url.fragment.filter (· != "") }.text
  let start := text.toList.takeWhile fun c => c != '/' && c != ':'
  if !start.isEmpty && text.toList[start.length]? = some ':' then .ok ()
  else .error (.invalid (.noProtocol text))

/-- Refuses a URL whose host cannot be shown. -/
def checkHost (url : Url) : Outcome Unit := do
  let _ ← showName url.host

/-- The URL that a request goes to, which a text stands for. -/
def requestedUrl (text : String) : Outcome Url := do
  let url ← Url.parse text
  checkHost url
  return url

namespace Client

/-- What is said about a request after the client was closed. -/
def closedMessage : String := "Cannot send a request, as the client has been closed."

/-- A request with the cookies that it carries, unless it has cookies of its own. -/
def dress (c : Client) (request : HttpRequest) : Outcome HttpRequest := do
  if c.jar.isEmpty then return request
  checkProtocol request.url
  match c.jar.header? (Cookie.Recipient.of request.url) with
  | some cookies =>
    if Headers.has "cookie" request.headers then return request
    else return { request with headers := request.headers ++ [("Cookie", cookies)] }
  | none => return request

/-- A request as it is sent. -/
def send (c : Client) (request : HttpRequest) : Outcome HttpRequest := do
  let request ← c.dress request
  if Headers.has "host" request.headers then pure () else checkHost request.url
  if c.isClosed then .error (.external .runtime closedMessage) else return request

/-- Refuses a response that leads to a place no request could go to. -/
def checkRedirection (c : Client) (request : HttpRequest) (response : HttpResponse) :
    Outcome Unit :=
  match redirection? response with
  | none => .ok ()
  | some location => do
    let url ← request.url.ofLocation location
    if c.jar.isEmpty then return () else checkProtocol url

/-- Takes the response to a request. -/
def receive (c : Client) (request : HttpRequest) (response : HttpResponse) :
    Outcome HttpResponse × Client :=
  match checkProtocol request.url with
  | .error failure => (.error failure, c)
  | .ok () =>
    let jar := c.jar.receive (Cookie.Recipient.of request.url) response.headers
    let c := { c with jar := jar }
    ((c.checkRedirection request response).map fun _ => response, c)

end Client

end DocumentClient.Http
