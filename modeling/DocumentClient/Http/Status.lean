/-
  Statuses — what the number of a response says.

  A number from 200 to 299 is a success.  `Status.complaint` words every other one:
  its class, its phrase, where the request went, where a redirection leads and
  where to read more.
-/
import DocumentClient.Exchange
import DocumentClient.Http.Body
import DocumentClient.Http.Header

namespace DocumentClient.Http

namespace Status

/-- The phrase that goes with a number; empty if there is none. -/
def phrase : Int → String
  | 100 => "Continue"
  | 101 => "Switching Protocols"
  | 102 => "Processing"
  | 103 => "Early Hints"
  | 200 => "OK"
  | 201 => "Created"
  | 202 => "Accepted"
  | 203 => "Non-Authoritative Information"
  | 204 => "No Content"
  | 205 => "Reset Content"
  | 206 => "Partial Content"
  | 207 => "Multi-Status"
  | 208 => "Already Reported"
  | 226 => "IM Used"
  | 300 => "Multiple Choices"
  | 301 => "Moved Permanently"
  | 302 => "Found"
  | 303 => "See Other"
  | 304 => "Not Modified"
  | 305 => "Use Proxy"
  | 307 => "Temporary Redirect"
  | 308 => "Permanent Redirect"
  | 400 => "Bad Request"
  | 401 => "Unauthorized"
  | 402 => "Payment Required"
  | 403 => "Forbidden"
  | 404 => "Not Found"
  | 405 => "Method Not Allowed"
  | 406 => "Not Acceptable"
  | 407 => "Proxy Authentication Required"
  | 408 => "Request Timeout"
  | 409 => "Conflict"
  | 410 => "Gone"
  | 411 => "Length Required"
  | 412 => "Precondition Failed"
  | 413 => "Request Entity Too Large"
  | 414 => "Request-URI Too Long"
  | 415 => "Unsupported Media Type"
  | 416 => "Requested Range Not Satisfiable"
  | 417 => "Expectation Failed"
  | 418 => "I'm a teapot"
  | 421 => "Misdirected Request"
  | 422 => "Unprocessable Entity"
  | 423 => "Locked"
  | 424 => "Failed Dependency"
  | 425 => "Too Early"
  | 426 => "Upgrade Required"
  | 428 => "Precondition Required"
  | 429 => "Too Many Requests"
  | 431 => "Request Header Fields Too Large"
  | 451 => "Unavailable For Legal Reasons"
  | 500 => "Internal Server Error"
  | 501 => "Not Implemented"
  | 502 => "Bad Gateway"
  | 503 => "Service Unavailable"
  | 504 => "Gateway Timeout"
  | 505 => "HTTP Version Not Supported"
  | 506 => "Variant Also Negotiates"
  | 507 => "Insufficient Storage"
  | 508 => "Loop Detected"
  | 510 => "Not Extended"
  | 511 => "Network Authentication Required"
  | _ => ""

/-- Whether a number is a success. -/
def isSuccess (status : Int) : Bool := status / 100 == 2

/-- The class a number other than a success belongs to. -/
def className (status : Int) : String :=
  match status / 100 with
  | 1 => "Informational response"
  | 3 => "Redirect response"
  | 4 => "Client error"
  | 5 => "Server error"
  | _ => "Invalid status code"

/-- The numbers of responses that lead elsewhere. -/
def redirections : List Int := [301, 302, 303, 307, 308]

/-- The site that explains the numbers. -/
def referenceSite : String := "developer.mozilla.org"

/-- Where to read more about a number. -/
def reference (status : Int) : String :=
  s!"For more information check: https://{referenceSite}/en-US/docs/Web/HTTP/Status/{status}"

/-- The wording of a number other than a success; `location` is where a
    redirection leads. -/
def complaint (status : Int) (url : String) (location : Option String) : String :=
  let first := s!"{className status} '{status} {phrase status}' for url '{url}'\n"
  let second := match location with
    | some place => s!"Redirect location: '{place}'\n"
    | none => ""
  first ++ second ++ reference status

end Status

/-- Where a response leads, if it leads elsewhere. -/
def redirection? (response : HttpResponse) : Option String :=
  if Status.redirections.contains response.status then Headers.value? "location" response.headers
  else none

/-- The failure of a response that is no success; its text begins with the reason the
    body gives, if the body is a document that gives one. -/
def statusFailure (response : HttpResponse) (url : String) : Failure :=
  let reply := ((Body.json? response.body).bind Value.doc?).getD []
  let complaint := Status.complaint response.status url (redirection? response)
  let reason := Document.get "errmsg" reply
  .httpStatus (if reason.truthy then reason.plain ++ ". " ++ complaint else complaint) reply

end DocumentClient.Http
