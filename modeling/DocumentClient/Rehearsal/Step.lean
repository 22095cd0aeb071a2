/-
  Steps — what the caller does in a rehearsal.

  The caller holds one source, one connection and one cursor: those made last.  A
  step that needs one that is not there fails.  `Play.step` says what a step does,
  and `Answer` is what the caller gets.
-/
import DocumentClient.Aggregation
import DocumentClient.Rehearsal.Performance

namespace DocumentClient.Rehearsal

/-! ## Answers -/

/-- What is told about a cursor. -/
structure CursorInfo where
  shown : String
  ns : Namespace
  address : Address
  limit : Int
  serverCursor : Option ServerCursor

/-- What is told about a gateway, or about what it has handed out. -/
structure GatewayInfo where
  shown : String
  released : Option Bool
  server : Server

/-- What a step yields. -/
inductive Answer where
  | nothing
  /-- There are no more batches. -/
  | stop
  | flag (b : Bool)
  | value (v : Value)
  | batch (documents : List Value)
  | batches (batches : List (List Value))
  | result (result : QueryResult)
  | text (text : String)
  | cursorInfo (info : CursorInfo)
  | gatewayInfo (info : GatewayInfo)
  | response (status : Int) (text : String)

/-! ## Steps -/

/-- What a cursor is opened with. -/
structure Opening where
  first : Outcome QueryResult
  limit : Int := 0
  batchSize : Int := 0
  decode : Decoder := Decoder.document
  source : Option Custody := some .owned
  connection : Option Custody := none
  maxTimeMs : Int := 0
  overrides : Option Overrides := none
  loopRuns : Bool := true

/-- A command to be run, and how. -/
structure Errand where
  access : Access
  call : Call Value
  /-- Whether the connection at hand is used. -/
  onConnection : Bool := false
  /-- What takes the place of the result if the namespace does not exist. -/
  default : Option Value := none

/-- What is at hand of a resource. -/
inductive Held where
  | source
  | connection
  deriving DecidableEq

/-- What the caller does. -/
inductive Step where
  | openCursor (opening : Opening)
  | next
  | hasNext
  | tryNext
  /-- Closes the cursor; whether an event loop runs at that place is told. -/
  | close (loopRuns : Bool)
  | interrupt
  | waitClosed
  | setBatchSize (n : Int)
  | iterate
  /-- Uses the cursor inside a block that closes it. -/
  | block (iterate : Bool)
  /-- Lets the tasks that are scheduled run. -/
  | runTasks
  | info
  | run (errand : Errand)
  | aggregate (aggregation : Outcome Aggregation)
  | explain (aggregation : Outcome Aggregation)
  | takeSource (access : Access)
  | connect
  | release (held : Held)
  | command (database : String) (command : Document) (secondaryOk : Bool) (names : FieldRule)
      (decode : Decoder)
  | getMore (ns : Outcome Namespace) (cursorId count : Int) (decode : Decoder)
  | killCursors (ns : Outcome Namespace) (cursorIds : List Int)
  /-- Describes the gateway, or what it has handed out. -/
  | describe (held : Option Held)
  /-- Closes the asynchronous client of the gateway. -/
  | closeClient
  | request (request : Http.Request) (errorsPass raw : Bool)
  /-- Uses the commander inside a block that closes its asynchronous client. -/
  | commanderBlock

namespace Play

/-! ## What is at hand -/

/-- The source at hand. -/
def source : Play Source := do
  match (← get).source with
  | some source => return source
  | none => throw .notHeld

/-- The connection at hand. -/
def connection : Play Connection := do
  match (← get).connection with
  | some connection => return connection
  | none => throw .notHeld

/-- Runs a program on the cursor at hand. -/
def onCursor {α : Type} (program : Cursor → Program Cursor α) : Play α := do
  let w ← get
  match w.latest? with
  | some (number, cursor) => runOn (act (levels w)) number cursor (program cursor)
  | none => throw .notHeld

/-- Fails unless an operation is there in the mode of the rehearsal. -/
def only (mode : Mode) (operation : String) : Play Unit := do
  if (← get).mode = mode then pure () else throw (.noOperation operation)

/-- The bound on how often a cursor looks for a batch: once for each that can still
    be fetched, and once more at either end. -/
def rounds : Play Nat := do return (← get).script.batchesLeft + 2

/-! ## Cursors -/

/-- Takes a source, which is at hand then. -/
def obtainSource (access : Access) : Play Source := do
  let source ← run (Program.takeSource access)
  modify fun w => { w with source := some source }
  return source

/-- Leases a connection, which is at hand then. -/
def obtainConnection (source : Source) : Play Connection := do
  let connection ← run (Program.lease source)
  modify fun w => { w with connection := some connection }
  return connection

/-- The source and the connection of an opening. -/
def obtainResources (o : Opening) :
    Play (Option (Handle Source) × Option (Handle Connection)) := do
  if o.source.isNone && o.connection.isNone then return (none, none)
  let source ← obtainSource .read
  let sourceHandle := o.source.map fun custody => (⟨custody, source⟩ : Handle Source)
  match o.connection with
  | none => return (sourceHandle, none)
  | some custody => do
    let connection ← obtainConnection source
    return (sourceHandle, some ⟨custody, connection⟩)

/-- Keeps a cursor, which is at hand then. -/
def keep (cursor : Cursor) : Play Unit := modify fun w => { w with cursors := w.cursors ++ [cursor] }

/-- Opens a cursor. -/
def openCursor (o : Opening) : Play Unit := do
  let (source, connection) ← obtainResources o
  let first ← ofOutcome o.first
  let plan : Cursor.Plan :=
    { first := first
      limit := o.limit
      batchSize := o.batchSize
      decode := o.decode
      source := source
      connection := connection
      maxTimeMs := o.maxTimeMs
      overrides := o.overrides }
  let cursor ← run (Cursor.create (← get).mode plan o.loopRuns)
  keep cursor

/-- The next batch. -/
def next : Play Answer := do
  let rounds ← rounds
  match ← onCursor fun _ => Cursor.next rounds with
  | .batch documents => return .batch documents
  | _ => if (← get).mode = .async then return .nothing else return .stop

/-- All further batches. -/
def iterate : Play Answer := do
  let rounds ← rounds
  let batches ← onCursor fun _ => Cursor.remaining rounds rounds
  return .batches batches

/-- What is told about the cursor at hand. -/
def info : Play Answer := do
  onCursor fun _ => do
    let c ← Program.get
    let serverCursor ← Program.ofOutcome c.serverCursor
    return .cursorInfo ⟨c.shown, c.ns, c.address, c.limit, serverCursor⟩

/-! ## Tasks -/

/-- Runs the tasks that are scheduled now; yields how those that failed did. -/
def runScheduled : Play (List (Nat × Failure)) := do
  let w ← get
  set w.unscheduled
  let outcomes ← w.scheduled.mapM fun (number, cursor, target) => do
    let w ← get
    let outcome ← runOn (act (levels w)) number cursor (Cursor.cleanup target).attempt
    return (number, outcome)
  return outcomes.filterMap fun (number, outcome) =>
    match outcome with
    | .ok _ => none
    | .error failure => some (number, failure)

/-- Runs tasks until none is scheduled, in so many turns at most. -/
def runAll : (turns : Nat) → Play (List (Nat × Failure))
  | 0 => return []
  | turns + 1 => do
    if (← get).scheduled.isEmpty then return []
    let failed ← runScheduled
    let more ← runAll turns
    return failed ++ more

/-- The turns that a script can call for. -/
def turns : Play Nat := do return (← get).script.length + 2

/-- Waits for the tasks of the cursor at hand. -/
def waitClosed : Play Unit := do
  match (← get).latest? with
  | none => throw .notHeld
  | some (number, cursor) => do
    only .async "wait_closed"
    if cursor.cleanups.isEmpty then pure ()
    else do
      let failed ← runAll (← turns)
      check ((failed.find? fun (n, _) => n == number).map Prod.snd)

/-- Closes the cursor at hand. -/
def close (loopRuns : Bool) : Play Unit := onCursor fun _ => Cursor.close loopRuns

/-- Uses the cursor at hand inside a block that closes it. -/
def block (iterates : Bool) : Play Answer := do
  if (← get).latest?.isNone then throw .notHeld
  let outcome ← attempt (if iterates then iterate else return .nothing)
  close true
  if (← get).mode = .async then waitClosed
  ofOutcome outcome

/-! ## Commands -/

/-- Runs a command. -/
def runErrand (e : Errand) : Play Value := do
  let given ← if e.onConnection then some <$> connection else pure none
  let w ← get
  let program := match e.access with
    | .read => e.call.runRead w.mode w.transport.preference given
    | .write => e.call.runWrite w.mode given
  run (match e.default with
    | some default => program.orDefault default
    | none => program)

/-- Runs an aggregation, whose cursor is at hand then. -/
def aggregate (a : Outcome Aggregation) : Play Unit := do
  let a ← ofOutcome a
  let w ← get
  let cursor ← run do
    a.announce
    a.execute w.mode w.transport.preference
  keep cursor

/-- Explains an aggregation. -/
def explain (a : Outcome Aggregation) : Play Value := do
  let a ← ofOutcome a
  let w ← get
  run do
    a.announce
    a.explain w.mode w.transport.preference

/-! ## Gateways -/

/-- The gateway, if there is one. -/
def gateway : Play Http.Gateway := do
  match (← get).transport with
  | .gateway g => return g
  | _ => throw (.noOperation "gateway")

/-- Describes the gateway, or what it has handed out. -/
def describe (held : Option Held) : Play Answer := do
  let w ← get
  match held with
  | none => do
    let g ← gateway
    return .gatewayInfo ⟨g.shown w.mode, none, g.server⟩
  | some .source => do
    let source ← source
    let g ← gateway
    let released := w.isReleased source
    return .gatewayInfo
      ⟨g.shownLease w.mode "HttpConnectionSource" released, some released, g.server⟩
  | some .connection => do
    let connection ← connection
    let g ← gateway
    let released := w.connectionIsReleased connection
    return .gatewayInfo ⟨g.shownLease w.mode "HttpConnection" released, some released, g.server⟩

/-- The commander, alone or that of the gateway. -/
def commander : Play Http.Commander := do
  match (← get).transport with
  | .commander c => return c
  | .gateway g => return g.commander
  | .scripted _ => throw .notHeld

/-- Closes the asynchronous client; it is not in use in the other mode. -/
def closeClient : Play Unit :=
  modify fun w => { w with client := { w.client with isClosed := w.mode == .async } }

/-- Sends a request. -/
def request (r : Http.Request) (errorsPass raw : Bool) : Play Answer := do
  let c ← commander
  if raw then do
    let response ← run (c.exchange r)
    return .response response.status (← ofOutcome (Http.responseText response))
  else do
    let reply ← run (c.run r errorsPass)
    return .value (.doc reply)

/-! ## Steps -/

/-- What a step does. -/
def step : Step → Play Answer
  | .openCursor opening => do openCursor opening; return .nothing
  | .next => next
  | .hasNext => do
    let rounds ← rounds
    let available ← onCursor fun c => match c.mode with
      | .blocking => Cursor.hasNext rounds
      | .async => Program.fail (c.lacks "has_next")
    return .flag (available == .ready)
  | .tryNext => do
    match ← onCursor fun _ => Cursor.tryNext with
    | some documents => return .batch documents
    | none => return .nothing
  | .close loopRuns => do close loopRuns; return .nothing
  | .interrupt => do onCursor interrupting; return .nothing
  | .waitClosed => do waitClosed; return .nothing
  | .setBatchSize n => do onCursor fun _ => Cursor.setBatchSize n; return .nothing
  | .iterate => iterate
  | .block iterates => block iterates
  | .runTasks => do let _ ← runAll (← turns); return .nothing
  | .info => info
  | .run errand => .value <$> runErrand errand
  | .aggregate aggregation => do aggregate aggregation; return .nothing
  | .explain aggregation => .value <$> explain aggregation
  | .takeSource access => do let _ ← obtainSource access; return .nothing
  | .connect => do let _ ← obtainConnection (← source); return .nothing
  | .release .source => do run (Program.notify (.releaseSource (← source))); return .nothing
  | .release .connection => do
    run (Program.notify (.releaseConnection (← connection)))
    return .nothing
  | .command database command secondaryOk names decode => do
    let connection ← connection
    .value <$> run (Program.command connection database command secondaryOk names decode)
  | .getMore ns cursorId count decode => do
    let connection ← connection
    let ns ← ofOutcome ns
    .result <$> run (Program.getMore connection ns cursorId count decode)
  | .killCursors ns cursorIds => do
    let connection ← connection
    let ns ← ofOutcome ns
    run (Program.killCursors connection ns cursorIds)
    return .nothing
  | .describe held => describe held
  | .closeClient => do
    let _ ← gateway
    only .async "aclose"
    closeClient
    return .nothing
  | .request r errorsPass raw => request r errorsPass raw
  | .commanderBlock => do
    let c ← commander
    closeClient
    return .text c.shown

end Play

end DocumentClient.Rehearsal
