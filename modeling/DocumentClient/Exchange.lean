/-
  Exchanges — what the client asks of the world around it.

  A binding hands out sources, a source leases connections, a connection sends
  commands, fetches batches and kills cursors; a gateway answers HTTP requests;
  and a cursor may pause.  Each of these takes time, and others may act on a
  cursor meanwhile.  A notice, in contrast, is given at once: a lease is released,
  something is logged.
-/
import DocumentClient.Decoder
import DocumentClient.Duration
import DocumentClient.FieldRule
import DocumentClient.Http.Url
import DocumentClient.Server
import DocumentClient.Settings

namespace DocumentClient

/-! ## Leases -/

/-- A source of connections to a server. -/
structure Source where
  id : Nat
  deriving DecidableEq

/-- A leased connection, and what is known about its server. -/
structure Connection where
  id : Nat
  server : Server

/-- Who has the duty to release a resource. -/
inductive Custody where
  /-- The holder. -/
  | owned
  /-- The one who lent it. -/
  | borrowed
  deriving DecidableEq

/-- A resource together with the custody of it. -/
structure Handle (ρ : Type) where
  custody : Custody
  resource : ρ

/-! ## Modes -/

/-- How operations wait: blocking the caller, or as tasks of an event loop. -/
inductive Mode where
  | blocking
  | async
  deriving DecidableEq

/-- What tells the records of the two modes apart. -/
def Mode.mark : Mode → String
  | .blocking => ""
  | .async => ", async"

/-! ## Records -/

/-- The weight of a log record. -/
inductive LogLevel where
  | debug
  | info
  | warning
  deriving DecidableEq

def LogLevel.name : LogLevel → String
  | .debug => "DEBUG"
  | .info => "INFO"
  | .warning => "WARNING"

/-- The order of the levels. -/
def LogLevel.rank : LogLevel → Nat
  | .debug => 0
  | .info => 1
  | .warning => 2

/-- What is made known at once. -/
inductive Notice where
  | releaseSource (source : Source)
  | releaseConnection (connection : Connection)
  | log (level : LogLevel) (message : String)
  /-- A setting is deprecated. -/
  | deprecation (message : String)

/-! ## HTTP -/

/-- A request to a gateway. -/
structure HttpRequest where
  method : String
  url : Http.Url
  headers : List (String × String)
  body : Option String
  timeout : Option Duration

/-- What a gateway answers. -/
structure HttpResponse where
  status : Int
  headers : List (String × String)
  body : List UInt8

/-- How a request to a gateway can end. -/
inductive HttpResult where
  | response (response : HttpResponse)
  /-- A part of it took too long. -/
  | timeout (phase : Phase) (text : String)

/-! ## Exchanges -/

/-- The purpose a source is taken for. -/
inductive Access where
  | read
  | write
  deriving DecidableEq

def Access.name : Access → String
  | .read => "read"
  | .write => "write"

/-- What is asked of the world. -/
inductive Exchange where
  /-- A source from the binding. -/
  | source (access : Access)
  /-- A connection from a source. -/
  | lease (source : Source)
  /-- The reply to a command, decoded. -/
  | command (connection : Connection) (database : String) (command : Document)
      (secondaryOk : Bool) (names : FieldRule) (decode : Decoder)
  /-- The next batch of a cursor, its documents decoded; `count` is signed. -/
  | getMore (connection : Connection) (ns : Namespace) (cursorId count : Int) (decode : Decoder)
  | killCursors (connection : Connection) (ns : Namespace) (cursorIds : List Int)
  /-- A pause of some length. -/
  | pause (length : Duration)
  | http (request : HttpRequest)

/-- What an exchange yields if it succeeds. -/
def Exchange.Answer : Exchange → Type
  | .source _ => Source
  | .lease _ => Connection
  | .command .. => Value
  | .getMore .. => QueryResult
  | .killCursors .. => Unit
  | .pause _ => Unit
  | .http _ => HttpResult

end DocumentClient
