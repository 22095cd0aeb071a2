/-
  Performance — how the world of a rehearsal answers.

  Each exchange is recorded, checked against what was released, and then ends as the
  next entry of the script says; the actions of that entry take place meanwhile.  An
  action runs programs of its own, whose exchanges use up further entries: `act`
  goes down one level for each action inside another, and a level is never
  deeper than the script is long.
-/
import DocumentClient.Cursor.Retrieve
import DocumentClient.Rehearsal.World

namespace DocumentClient.Rehearsal

namespace Play

/-! ## Actions -/

/-- Takes actions, each after its record. -/
def takeActions (act : Action → Play Unit) (actions : List Action) : Play Unit :=
  actions.forM fun action => do
    record (.during action)
    act action

/-! ## Scripted exchanges -/

/-- The failure of a request for which the script has no entry. -/
def exhausted (origin : Origin) : Failure := .external origin "script exhausted"

/-- Takes a source. -/
def scriptedSource (access : Access) : Play Source := do
  match ← draw Script.takeSource with
  | some (some failure) => do
    record (.sourceFailed access)
    throw failure
  | _ => do
    let w ← get
    let source : Source := ⟨w.sourcesTaken + 1⟩
    set { w with sourcesTaken := source.id }
    record (.sourceTaken access source)
    return source

/-- The number of a connection that no one has leased before. -/
def nextConnection : Play Nat := do
  let w ← get
  let number := w.connectionsLeased + 1
  set { w with connectionsLeased := number }
  return number

/-- Fails if a source was released. -/
def ensureSource (source : Source) : Play Unit := do
  let w ← get
  ofOutcome (Http.Gateway.ensureUsable (w.isReleased source) .sourceReleased)

/-- Fails if a connection was released. -/
def ensureConnection (connection : Connection) : Play Unit := do
  let w ← get
  ofOutcome (Http.Gateway.ensureUsable (w.connectionIsReleased connection) .connectionReleased)

/-- Leases a connection; what is said about its server is looked at last. -/
def scriptedLease (source : Source) : Play Connection := do
  let entry := (← draw Script.takeLease).getD {}
  ensureSource source
  match entry.failure with
  | some failure => do
    record (.leaseFailed source)
    throw failure
  | none => do
    modify fun w => { w with server := entry.server.atop w.server }
    let number ← nextConnection
    record (.leased source number)
    let server ← ofOutcome (Outcome.ofValid (← get).server.read)
    return ⟨number, server⟩

/-- Takes the entry of a request and lets its actions take place. -/
def nextRequest (act : Action → Play Unit) : Play RequestEntry := do
  match ← draw Script.takeRequest with
  | none => throw (exhausted .runtime)
  | some entry => do
    takeActions act entry.before
    check entry.failure
    return entry

/-- Answers a command. -/
def scriptedCommand (act : Action → Play Unit) (connection : Connection) (database : String)
    (command : Document) (secondaryOk : Bool) (names : FieldRule) (decode : Decoder) :
    Play Value := do
  record (.command connection.id database command secondaryOk)
  ensureConnection connection
  ofOutcome (Outcome.ofValid (names.check command))
  let entry ← nextRequest act
  let reply ← ofOutcome (checkReply entry.reply (some connection.server.address))
  ofOutcome (decode (.doc reply))

/-- Answers a fetch. -/
def scriptedGetMore (act : Action → Play Unit) (connection : Connection) (ns : Namespace)
    (cursorId count : Int) (decode : Decoder) : Play QueryResult := do
  record (.getMore connection.id ns cursorId count)
  ensureConnection connection
  let entry ← nextRequest act
  let documents ← ofOutcome (entry.documents.mapM decode)
  return ⟨ns, documents, entry.cursorId, connection.server.address⟩

/-- Answers a kill. -/
def scriptedKill (act : Action → Play Unit) (connection : Connection) (ns : Namespace)
    (cursorIds : List Int) : Play Unit := do
  record (.kill connection.id ns cursorIds)
  ensureConnection connection
  match ← draw Script.takeKill with
  | none => pure ()
  | some entry => do
    takeActions act entry.before
    check entry.failure

/-! ## Pauses and requests to a gateway -/

/-- Lets a pause pass. -/
def pass (act : Action → Play Unit) (length : Duration) : Play Unit := do
  record (.pause length)
  takeActions act ((← draw Script.takePause).getD [])

/-- Lets the client take a response. -/
def receive (request : HttpRequest) (response : HttpResponse) : Play HttpResponse := do
  let w ← get
  let (outcome, client) := w.client.receive request response
  set { w with client := client }
  ofOutcome outcome

/-- Answers a request to a gateway. -/
def respond (act : Action → Play Unit) (request : HttpRequest) : Play HttpResult := do
  let sent ← ofOutcome ((← get).client.send request)
  record (.http sent)
  match ← draw Script.takeResponse with
  | none => throw (exhausted .gatewayConnect)
  | some entry => do
    takeActions act entry.before
    match ← ofOutcome entry.result with
    | .response response => .response <$> receive sent (← ofOutcome (Http.unpack response))
    | .timeout phase text => return .timeout phase text

end Play

/-! ## Interpreters -/

/-- Answers pauses and requests to a gateway, and nothing else. -/
def gatewayInterpreter (act : Action → Play Unit) : Program.Interpreter World where
  take := World.take
  answer
    | .pause length => Play.pass act length
    | .http request => Play.respond act request
    | _ => (throw .notHeld : Play _)

namespace Play

/-- Lets a gateway carry out what is asked of it. -/
def throughGateway {α : Type} (act : Action → Play Unit) (program : Program Unit α) : Play α :=
  fun w => Program.interpret (gatewayInterpreter act) (Program.Cell.none World) program w

/-- Answers an exchange by the script. -/
def answerScripted (act : Action → Play Unit) : (q : Exchange) → Play q.Answer
  | .source access => scriptedSource access
  | .lease source => scriptedLease source
  | .command connection database command secondaryOk names decode =>
    scriptedCommand act connection database command secondaryOk names decode
  | .getMore connection ns cursorId count decode =>
    scriptedGetMore act connection ns cursorId count decode
  | .killCursors connection ns cursorIds => scriptedKill act connection ns cursorIds
  | .pause length => pass act length
  | .http request => respond act request

/-- Answers an exchange through a gateway. -/
def answerGateway (act : Action → Play Unit) (g : Http.Gateway) : (q : Exchange) → Play q.Answer
  | .source _ => do
    let w ← get
    set { w with sourcesTaken := w.sourcesTaken + 1 }
    return (⟨w.sourcesTaken + 1⟩ : Source)
  | .lease source => do
    ensureSource source
    return ⟨← nextConnection, g.server⟩
  | .command connection database command secondaryOk names decode => do
    let w ← get
    throughGateway act
      (g.command (w.connectionIsReleased connection) database command secondaryOk names decode)
  | .getMore connection ns cursorId count decode => do
    let w ← get
    throughGateway act (g.getMore (w.connectionIsReleased connection) ns cursorId count decode)
  | .killCursors connection ns cursorIds => do
    let w ← get
    throughGateway act
      (g.killCursors w.mode (w.connectionIsReleased connection) ns cursorIds)
  | .pause length => pass act length
  | .http request => respond act request

/-- Answers an exchange. -/
def answer (act : Action → Play Unit) (q : Exchange) : Play q.Answer := do
  let w ← get
  match w.transport with
  | .scripted _ => answerScripted act q
  | .gateway g => answerGateway act g q
  | .commander _ => (gatewayInterpreter act).answer q

end Play

/-- Answers every exchange. -/
def interpreter (act : Action → Play Unit) : Program.Interpreter World where
  take := World.take
  answer q := Play.answer act q

namespace Play

/-- Runs a program without a state of its own. -/
def runWith {α : Type} (act : Action → Play Unit) (program : Program Unit α) : Play α :=
  fun w => Program.interpret (interpreter act) (Program.Cell.none World) program w

/-- Runs a program on a cursor. -/
def runOn {α : Type} (act : Action → Play Unit) (number : Nat) (cursor : Cursor)
    (program : Program Cursor α) : Play α :=
  fun w => Program.interpret (interpreter act) (World.cell number cursor) program w

/-- Runs a program on the latest cursor, if there is one. -/
def onLatest (act : Action → Play Unit) (program : Cursor → Program Cursor Unit) : Play Unit := do
  let w ← get
  match w.latest? with
  | none => pure ()
  | some (number, cursor) => runOn act number cursor (program cursor)

/-- Interrupts a cursor; only a blocking one can be interrupted. -/
def interrupting (cursor : Cursor) : Program Cursor Unit :=
  match cursor.mode with
  | .blocking => Cursor.interrupt
  | .async => Program.fail (cursor.lacks "interrupt")

/-- Takes an action that is at most so many levels deep inside others. -/
def act : (levels : Nat) → Action → Play Unit
  | 0 => fun _ => pure ()
  | levels + 1 => fun action =>
    match action with
    | .cancel => throw .cancelled
    | .close => onLatest (act levels) fun _ => Cursor.close true
    | .interrupt => onLatest (act levels) interrupting
    | .batchSize n => onLatest (act levels) fun _ => Cursor.setBatchSize n

/-- The levels that a script can reach. -/
def levels (w : World) : Nat := w.script.length + 1

/-- Runs a program without a state of its own. -/
def run {α : Type} (program : Program Unit α) : Play α := do
  let w ← get
  runWith (act (levels w)) program

end Play

end DocumentClient.Rehearsal
