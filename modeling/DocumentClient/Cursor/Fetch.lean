/-
  Fetching a batch.

  A fetch uses a connection, sends the command (or, to an old server, the message)
  for the next batch, absorbs what comes and follows up on the verdict.  A failure
  closes the cursor, except that a cancellation leaves it as it is, and that a
  server cursor which does not exist any more is not killed.
-/
import DocumentClient.Cursor.Cleanup

namespace DocumentClient.Cursor

open Program (log)

/-- Absorbs a batch. -/
def absorb (result : QueryResult) : Program Cursor Verdict := do
  let c ← Program.get
  let (progress, verdict) := c.progress.advance c.limit c.batchSize result
  match verdict with
  | .dropped cursor =>
    log .info s!"final batch received, dropping cursor {cursor.id} without a kill"
  | _ => pure ()
  Program.set { c with progress := progress }
  return verdict

/-- What the failure of a fetch command means. -/
def fetchFailure (target : ServerCursor) : Failure → Failure
  | .command failure => failure.ofFetch target.id target.address
  | failure => failure

/-- Asks the server for the next batch. -/
def requestBatch (connection : Connection) (target : ServerCursor) :
    Program Cursor QueryResult := do
  let c ← Program.get
  let place := s!"cursor {target.id} on {c.ns.fullName}"
  log .info s!"cursor fetching a batch: {place}{c.mode.mark}"
  let result ←
    if connection.server.isAtLeast Server.fetchCommandVersion then do
      let decode := Decoder.ofResults c.decode nextBatchField
      let outcome ←
        (Program.command connection c.ns.database (c.getMoreCommand target) false .any decode).attempt
      let reply ← Program.ofOutcome (outcome.mapError (fetchFailure target))
      Program.ofOutcome (QueryResult.ofGetMoreReply reply connection.server.address)
    else Program.getMore connection c.ns target.id c.numberToReturn c.decode
  log .info s!"cursor finished fetching a batch: {place}, {result.results.length} documents{c.mode.mark}"
  return result

/-- Fetches and absorbs a batch over a connection; the kill of a server cursor
    that is not needed any more goes over the same connection. -/
def fetchOver (target : ServerCursor) (connection : Connection) : Program Cursor Verdict := do
  let result ← requestBatch connection target
  let c ← Program.get
  if c.closed then Program.fail (.cursorClosed .fetching)
  else do
    let verdict ← absorb result
    match verdict.followUp with
    | .kill => killHeld (some connection)
    | _ => pure ()
    return verdict

/-- What a cursor does when a fetch has failed. -/
def giveUp : Failure → Program Cursor Unit
  | .cursorMissing _ _ => do
    Program.modify forget
    close true
  | .cancelled => pure ()
  | _ => close true

/-- Fetches the next batch, if there is a server cursor to fetch it from. -/
def fetch : Program Cursor Unit := do
  let c ← Program.get
  match c.progress.serverCursor with
  | none => pure ()
  | some target => do
    match ← (withConnection (fetchOver target)).attempt with
    | .ok verdict =>
      match verdict.followUp with
      | .nothing => pure ()
      | _ => releaseResources
    | .error failure => do
      giveUp failure
      Program.fail failure

end DocumentClient.Cursor
