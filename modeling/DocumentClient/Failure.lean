/-
  Failures — how an operation of the client can end other than with a value.

  A command failure is a reply with a falsy `ok`; one that says that the
  namespace does not exist is told apart by `CommandFailure.namespaceMissing`.  A
  query failure is what a command failure becomes when it answers a fetch.  A
  cancellation is not an ordinary failure: handlers of ordinary failures let it
  pass (`Failure.isOrdinary`).  `Failure.message` holds the wording.
-/
import DocumentClient.Compression.Fault
import DocumentClient.QueryResult
import DocumentClient.Text.Label.Fault

namespace DocumentClient

/-! ## Failures reported by a server -/

/-- A reply in which the server reports an error. -/
structure CommandFailure where
  code : Int
  reason : String
  codeName : Value
  reply : Document
  address : Option Address

/-- The error code for a missing namespace. -/
def namespaceMissingCode : Int := 26

/-- The error code for a missing cursor. -/
def cursorMissingCode : Int := 43

/-- What the reason says if the namespace is missing. -/
def namespaceMissingPhrase : String := "ns not found"

/-- Whether some characters stand in a row in others. -/
def occursIn (part : List Char) : List Char → Bool
  | [] => part.isEmpty
  | c :: rest => part.isPrefixOf (c :: rest) || occursIn part rest

namespace CommandFailure

/-- Whether the command failed because its namespace does not exist. -/
def namespaceMissing (f : CommandFailure) : Bool :=
  occursIn namespaceMissingPhrase.toList f.reason.toList || f.code == namespaceMissingCode

def message (f : CommandFailure) : String :=
  let code := if f.codeName.truthy then s!"{f.code} ({f.codeName.plain})" else s!"{f.code}"
  let text := s!"Command failed with error {code}: '{f.reason}'"
  match f.address with
  | some address => s!"{text} on server {address.text}"
  | none => text

end CommandFailure

/-- The failure of a fetch. -/
structure QueryFailure where
  code : Int
  reason : String
  address : Address

def QueryFailure.message (f : QueryFailure) : String :=
  s!"Query failed with error code {f.code} and error message '{f.reason}' on server {f.address.text}"

/-! ## Failures of the client -/

/-- When it was found that a cursor had been closed. -/
inductive ClosedWhen where
  | before
  | fetching
  | waiting
  deriving DecidableEq

def ClosedWhen.message : ClosedWhen → String
  | .before => "Cursor has been closed."
  | .fetching => "Cursor was closed while fetching the next batch."
  | .waiting => "Cursor was closed while waiting for the next batch."

/-- The part of a request that took too long. -/
inductive Phase where
  | connect
  | read
  | write
  | pool
  | generic
  deriving DecidableEq

def Phase.name : Phase → String
  | .connect => "connect"
  | .read => "read"
  | .write => "write"
  | .pool => "pool"
  | .generic => "generic"

/-- What took too long: for a request also where it went and what it carried. -/
structure Timeout where
  text : String
  phase : Phase
  endpoint : Option String
  payload : Option String

/-- Why a reply cannot be used. -/
inductive Unusable where
  /-- The cursor document lacks the batch, or one of its parts is no such thing. -/
  | cursorDocument (batchField : String)
  /-- The body is no JSON text. -/
  | unreadable (command : String)
  /-- The body is JSON, but no document. -/
  | notDocument

def Unusable.message : Unusable → String
  | .cursorDocument field => s!"Malformed cursor document in reply (expected '{field}')."
  | .unreadable command => s!"Unparseable response from gateway for '{command}' command."
  | .notDocument => "Response from gateway is not a JSON object."

/-- Why the target of an operation does not support it. -/
inductive Refusal where
  | sourceReleased
  | connectionReleased
  | readConcern (version : List Int)

def Refusal.message : Refusal → String
  | .sourceReleased => "The connection source has been released."
  | .connectionReleased => "The connection has been released."
  | .readConcern version =>
    "ReadConcern not supported by server version " ++ String.intercalate "." (version.map toString)

/-- Why a number has no representation. -/
inductive Overflow where
  /-- An infinite double has no whole part. -/
  | infinite
  /-- A whole number lies beyond the doubles. -/
  | whole
  /-- A quotient of whole numbers lies beyond the doubles. -/
  | quotient
  deriving DecidableEq

def Overflow.message : Overflow → String
  | .infinite => "cannot convert float infinity to integer"
  | .whole => "int too large to convert to float"
  | .quotient => "integer division result too large for a float"

/-- Whether a character is in ASCII. -/
def isAscii (c : Char) : Bool := c.toNat < 0x80

/-- A character as it is cited: by its number, in two, four or eight digits. -/
def citedChar (c : Char) : String :=
  let n := c.toNat
  String.ofList (if n < 0x100 then '\\' :: 'x' :: Text.hex 2 n
    else if n < 0x10000 then '\\' :: 'u' :: Text.hex 4 n
    else '\\' :: 'U' :: Text.hex 8 n)

/-- What is said of a text that is to be ASCII and is not: the first characters in a
    row that are not are cited, one by itself and several by their places. -/
def outsideAsciiMessage (text : String) : String :=
  let first := (text.toList.takeWhile isAscii).length
  let outside := (text.toList.drop first).takeWhile fun c => !isAscii c
  let cited := match outside with
    | [c] => s!"character '{citedChar c}' in position {first}"
    | cs => s!"characters in position {first}-{first + cs.length - 1}"
  s!"'ascii' codec can't encode {cited}: ordinal not in range(128)"

/-- Where a failure that is not the client's own comes from. -/
inductive Origin where
  /-- A network connection broke. -/
  | connection
  /-- A connection to a gateway could not be made. -/
  | gatewayConnect
  /-- The answer of a gateway could not be received. -/
  | gatewayRead
  /-- Something went wrong at run time. -/
  | runtime
  /-- A value was refused. -/
  | value
  deriving DecidableEq

/-- How an operation can fail. -/
inductive Failure where
  | command (failure : CommandFailure)
  | query (failure : QueryFailure)
  /-- The server knows no cursor of this id. -/
  | cursorMissing (id : Int) (address : Address)
  | cursorClosed (found : ClosedWhen)
  /-- A wait for new documents was interrupted. -/
  | interrupted
  | timedOut (timeout : Timeout)
  /-- A gateway answered with a status other than success. -/
  | httpStatus (text : String) (reply : Document)
  | unusable (problem : Unusable) (reply : Value)
  | refused (reason : Refusal)
  | invalid (reason : Invalid)
  /-- A number is too large for what it was to become. -/
  | overflow (cause : Overflow)
  /-- A value is of a kind that does not admit the operation. -/
  | wrongKind (detail : String)
  /-- A document lacks a field. -/
  | missingField (name : String)
  /-- The object has no such operation. -/
  | noOperation (detail : String)
  | malformedUrl (detail : String)
  /-- The name of a host cannot be shown. -/
  | hostName (fault : Text.Label.Fault)
  /-- A header is to be ASCII and is not. -/
  | outsideAscii (text : String)
  /-- A response leads to a place that no URL can be read from. -/
  | misdirected (detail : String)
  /-- The body of a response is not in the coding it is said to be in. -/
  | undecodable (fault : Compression.Fault)
  /-- A text in units of so many bits does not tell the order of the bytes in them. -/
  | noByteOrder (bits : Nat)
  /-- There is nothing to apply an operation to. -/
  | notHeld
  /-- The calling task was cancelled. -/
  | cancelled
  | external (origin : Origin) (message : String)

namespace Failure

/-- Whether handlers of failures handle this one. -/
def isOrdinary : Failure → Bool
  | .cancelled => false
  | _ => true

/-- Whether a command failed because its namespace does not exist. -/
def namespaceMissing : Failure → Bool
  | .command f => f.namespaceMissing
  | _ => false

/-- The text of a missing cursor. -/
def cursorMissingMessage (id : Int) (address : Address) : String :=
  s!"Cursor {id} not found on server {address.text}"

/-- The wording of a failure. -/
def message : Failure → String
  | .command f => f.message
  | .query f => f.message
  | .cursorMissing id address => cursorMissingMessage id address
  | .cursorClosed found => found.message
  | .interrupted => "Interrupted while waiting for the next batch."
  | .timedOut t => t.text
  | .httpStatus text _ => text
  | .unusable problem _ => problem.message
  | .refused reason => reason.message
  | .invalid reason => reason.message
  | .overflow cause => cause.message
  | .wrongKind detail => detail
  | .missingField name => Text.quoted name
  | .noOperation detail => detail
  | .malformedUrl detail => detail
  | .hostName fault => fault.message
  | .outsideAscii text => outsideAsciiMessage text
  | .misdirected detail => s!"Invalid URL in location header: {detail}."
  | .undecodable fault => fault.message
  | .noByteOrder bits => s!"UTF-{bits} stream does not start with BOM"
  | .notHeld => ""
  | .cancelled => ""
  | .external _ message => message

end Failure

/-- The outcome of an operation: a value or a failure. -/
abbrev Outcome (α : Type) := Except Failure α

/-- Lets an inadmissible value fail an operation. -/
def Outcome.ofValid {α : Type} : Except Invalid α → Outcome α
  | .ok a => .ok a
  | .error reason => .error (.invalid reason)

end DocumentClient
