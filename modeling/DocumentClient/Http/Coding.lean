/-
  Codings — how the body of a response was written for the way.

  The header `Content-Encoding` names the codings in the order in which they were applied;
  they are undone in the opposite order.  Names of other codings are passed over.
-/
import DocumentClient.Compression.Envelope
import DocumentClient.Exchange
import DocumentClient.Http.Body
import DocumentClient.Http.Header
import DocumentClient.Text.Space
import DocumentClient.Text.Split

namespace DocumentClient.Http

/-- How bytes are written. -/
inductive Coding where
  | identity
  | gzip
  | deflate
  deriving DecidableEq

namespace Coding

/-- The coding of a name. -/
def ofName : String → Option Coding
  | "identity" => some identity
  | "gzip" => some gzip
  | "deflate" => some deflate
  | _ => none

/-- The codings that headers name. -/
def named (headers : Headers) : List Coding :=
  (headers.values "content-encoding").flatMap fun value =>
    (Text.splitAll ',' value.toList).filterMap fun name =>
      ofName (String.ofList (Text.trimSpace name)).toLower

/-- The bytes that were written so; a body without bytes is read as it is.  What is
    called deflated can do without its envelope. -/
def undo (coding : Coding) (body : Body) : Except Compression.Fault Body :=
  if body.isEmpty then .ok body
  else match coding with
    | identity => .ok body
    | gzip => Compression.openLarger body
    | deflate =>
      match Compression.openSmaller body with
      | .ok output => .ok output
      | .error _ => Compression.openBare body

end Coding

/-- A response as it arrives, made ready to be read. -/
def unpack (response : HttpResponse) : Outcome HttpResponse := do
  Headers.check response.headers
  let undone := (Coding.named response.headers).reverse.foldlM (fun body coding => coding.undo body)
    response.body
  match undone with
  | .ok body => return { response with body := body }
  | .error fault => .error (.undecodable fault)

end DocumentClient.Http
