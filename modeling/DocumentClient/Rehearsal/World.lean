/-
  The world of a rehearsal.

  The world holds what remains of the script, what was handed out and released, the
  cursors made so far and the events recorded since they were last collected.  A
  `Play` is a part of a rehearsal: it acts on the world and may fail.
-/
import DocumentClient.Cursor.State
import DocumentClient.Http.Client
import DocumentClient.Http.Gateway
import DocumentClient.Rehearsal.Event

namespace DocumentClient.Rehearsal

/-- What stands between the client and the world. -/
inductive Transport where
  /-- Sources and connections whose every exchange is scripted. -/
  | scripted (preference : ReadPreference)
  /-- A gateway whose responses are scripted. -/
  | gateway (gateway : Http.Gateway)
  /-- A commander alone. -/
  | commander (commander : Http.Commander)

namespace Transport

/-- The read preference of reads. -/
def preference : Transport → ReadPreference
  | scripted preference => preference
  | gateway g => g.preference
  | commander _ => .primary

end Transport

/-- The world of a rehearsal. -/
structure World where
  mode : Mode
  transport : Transport
  /-- What is said about the server at present. -/
  server : ServerPlan := {}
  script : Script := {}
  /-- The least level that is recorded; none records nothing. -/
  threshold : Option LogLevel := none
  sourcesTaken : Nat := 0
  connectionsLeased : Nat := 0
  releasedSources : List Nat := []
  releasedConnections : List Nat := []
  /-- The cursors, in the order in which they were made. -/
  cursors : List Cursor := []
  /-- The source taken last. -/
  source : Option Source := none
  /-- The connection leased last. -/
  connection : Option Connection := none
  /-- The client that sends requests to the gateway. -/
  client : Http.Client := {}
  /-- What happened, the latest first. -/
  events : List Event := []

namespace World

/-- Records an event. -/
def record (e : Event) (w : World) : World := { w with events := e :: w.events }

/-- Whether records of a level are kept. -/
def records (level : LogLevel) (w : World) : Bool :=
  match w.threshold with
  | some least => least.rank ≤ level.rank
  | none => false

/-- Whether a record tells the headers of a response, which a rehearsal does not show. -/
def tellsHeaders (message : String) : Bool :=
  "Response headers: ".toList.isPrefixOf message.toList

/-- Takes a notice; a gateway is not told of releases. -/
def take (n : Notice) (w : World) : World :=
  match n with
  | .releaseSource source =>
    let w := { w with releasedSources := source.id :: w.releasedSources }
    match w.transport with
    | .scripted _ => w.record (.sourceReleased source)
    | _ => w
  | .releaseConnection connection =>
    let w := { w with releasedConnections := connection.id :: w.releasedConnections }
    match w.transport with
    | .scripted _ => w.record (.connectionReleased connection.id)
    | _ => w
  | .log level message =>
    if w.records level && !tellsHeaders message then w.record (.log level message) else w
  | .deprecation message => w.record (.deprecation message)

/-- Whether a source was released. -/
def isReleased (source : Source) (w : World) : Bool := w.releasedSources.contains source.id

/-- Whether a connection was released. -/
def connectionIsReleased (connection : Connection) (w : World) : Bool :=
  w.releasedConnections.contains connection.id

/-- The number of the latest cursor, and the cursor. -/
def latest? (w : World) : Option (Nat × Cursor) :=
  match w.cursors.getLast? with
  | some cursor => some (w.cursors.length - 1, cursor)
  | none => none

/-- Where a cursor is kept. -/
def cell (number : Nat) (cursor : Cursor) : Program.Cell World Cursor where
  load w := (w.cursors[number]?).getD cursor
  store c w := { w with cursors := w.cursors.set number c }

/-- The kills that are scheduled, with the numbers of their cursors. -/
def scheduled (w : World) : List (Nat × Cursor × ServerCursor) :=
  w.cursors.zipIdx.flatMap fun (cursor, number) =>
    cursor.cleanups.map fun target => (number, cursor, target)

/-- The world without scheduled kills. -/
def unscheduled (w : World) : World :=
  { w with cursors := w.cursors.map fun cursor => { cursor with cleanups := [] } }

end World

/-! ## Plays -/

/-- A part of a rehearsal. -/
abbrev Play := ExceptT Failure (StateM World)

namespace Play

/-- Records an event. -/
def record (e : Event) : Play Unit := modify (World.record e)

/-- Yields an outcome, or fails with it. -/
def ofOutcome {α : Type} : Outcome α → Play α
  | .ok a => pure a
  | .error e => throw e

/-- How a play ends on a world, and what becomes of the world. -/
def outcome {α : Type} (p : Play α) (w : World) : Outcome α × World := (p.run w).run

/-- Makes the outcome of a play a value. -/
def attempt {α : Type} (p : Play α) : Play (Outcome α) := fun w =>
  let (outcome, w) := p.outcome w
  (.ok outcome, w)

/-- Takes the first entry off a queue of the script. -/
def draw {α : Type} (take : Script → Option α × Script) : Play (Option α) := do
  let w ← get
  let (entry, script) := take w.script
  set { w with script := script }
  return entry

/-- Fails if there is a failure. -/
def check : Option Failure → Play Unit
  | some failure => throw failure
  | none => pure ()

end Play

end DocumentClient.Rehearsal
