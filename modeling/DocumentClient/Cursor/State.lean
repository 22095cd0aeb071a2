/-
  The state of a batch cursor.

  A cursor goes over the batches of results that a query left on a server.  Its
  state says whether a batch is at hand, must be fetched, or can no longer come.
  It holds the source and the connection it may use, each owned or borrowed, and
  in an event loop the kills it has scheduled.
-/
import DocumentClient.Cursor.Progress
import DocumentClient.Program

namespace DocumentClient

/-- A cursor over batches of results. -/
structure Cursor where
  mode : Mode
  ns : Namespace
  address : Address
  limit : Int
  batchSize : Int
  decode : Decoder
  maxTimeMs : Int
  settings : Settings
  source : Option (Handle Source)
  connection : Option (Handle Connection)
  progress : Progress := {}
  closed : Bool := false
  /-- Whether the owned resources were released. -/
  released : Bool := false
  /-- Whether the next wait is to fail. -/
  interrupted : Bool := false
  /-- The server cursors whose kill is scheduled, but not begun. -/
  cleanups : List ServerCursor := []

/-- What a cursor can do next. -/
inductive CursorState where
  /-- A batch can be handed out at once. -/
  | hasBatch
  /-- The next batch must be fetched. -/
  | awaitingFetch
  /-- There is no more. -/
  | exhausted
  | closed
  deriving DecidableEq

def CursorState.name : CursorState → String
  | .hasBatch => "has_batch"
  | .awaitingFetch => "awaiting_fetch"
  | .exhausted => "exhausted"
  | .closed => "closed"

namespace Cursor

/-- Whether a batch is at hand. -/
def hasBatch (c : Cursor) : Bool := c.progress.nextBatch.isSome

/-- Whether no further batch can be fetched. -/
def isExhausted (c : Cursor) : Bool :=
  c.progress.serverCursor.isNone || limitReached c.limit c.progress.delivered

/-- The state of a cursor. -/
def state (c : Cursor) : CursorState :=
  if c.closed then .closed
  else if c.hasBatch then .hasBatch
  else if c.isExhausted then .exhausted
  else .awaitingFetch

/-- What the next fetch asks for, in signed form. -/
def numberToReturn (c : Cursor) : Int :=
  DocumentClient.numberToReturn c.limit c.batchSize c.progress.delivered

/-- The command of the next fetch. -/
def getMoreCommand (c : Cursor) (target : ServerCursor) : Document :=
  DocumentClient.getMoreCommand c.ns target.id
    (requestedCount c.limit c.batchSize c.progress.delivered) c.maxTimeMs

/-- The server cursor of a cursor that is not closed. -/
def serverCursor (c : Cursor) : Outcome (Option ServerCursor) :=
  if c.closed then .error (.cursorClosed .before) else .ok c.progress.serverCursor

/-- The cursor without its server cursor. -/
def forget (c : Cursor) : Cursor := { c with progress := c.progress.withoutServerCursor }

/-- What a cursor of a mode is called in messages. -/
def typeName : Mode → String
  | .blocking => "BatchCursor"
  | .async => "AsyncBatchCursor"

/-- A cursor inside a message. -/
def shown (c : Cursor) : String :=
  s!"{typeName c.mode}(\"{c.ns.fullName}\", {c.state.name}, delivered so far: {c.progress.delivered})"

/-- The failure of an operation that a cursor does not have. -/
def lacks (c : Cursor) (operation : String) : Failure :=
  .noOperation s!"'{typeName c.mode}' object has no attribute '{operation}'"

end Cursor

end DocumentClient
