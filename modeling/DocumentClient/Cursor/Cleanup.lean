/-
  Giving a cursor up.

  `releaseResources` releases the owned resources once, the connection before the
  source.  `killCursor` kills a server cursor; an ordinary failure is only logged.
  `close` kills the server cursor that is still alive and then releases: a blocking
  cursor at once, an asynchronous one in a task of its own (`cleanup`), or not at
  all where no event loop runs.
-/
import DocumentClient.Cursor.State

namespace DocumentClient.Cursor

open Program (log notify)

/-! ## Resources -/

/-- Releases a connection that is owned. -/
def releaseConnection : Handle Connection → Program Cursor Unit
  | ⟨.owned, connection⟩ => notify (.releaseConnection connection)
  | ⟨.borrowed, _⟩ => pure ()

/-- Releases a source that is owned. -/
def releaseSource : Handle Source → Program Cursor Unit
  | ⟨.owned, source⟩ => notify (.releaseSource source)
  | ⟨.borrowed, _⟩ => pure ()

/-- Releases the owned resources, unless that was done before. -/
def releaseResources : Program Cursor Unit := do
  let c ← Program.get
  if c.released then pure ()
  else do
    Program.set { c with released := true }
    match c.connection with
    | some handle => releaseConnection handle
    | none => pure ()
    match c.source with
    | some handle => releaseSource handle
    | none => pure ()

/-- Uses the connection of the cursor, or one leased for the purpose. -/
def withConnection {α : Type} (use : Connection → Program Cursor α) : Program Cursor α := do
  let c ← Program.get
  match c.connection with
  | some handle => use handle.resource
  | none =>
    match c.source with
    | none => Program.fail (.invalid .noSource)
    | some handle => do
      let connection ← Program.lease handle.resource
      (use connection).always (notify (.releaseConnection connection))

/-! ## Kills -/

/-- Kills a server cursor, over a given connection or one of the cursor's own. -/
def killCursor (target : ServerCursor) (given : Option Connection) : Program Cursor Unit := do
  let c ← Program.get
  let place := s!"cursor {target.id} on {target.address.text}"
  log .info s!"killing {place}{c.mode.mark}"
  let send (connection : Connection) : Program Cursor Unit :=
    Program.killCursors connection c.ns [target.id]
  let attempt := match given with
    | some connection => send connection
    | none => withConnection send
  attempt.handle fun failure => log .warning s!"could not kill {place}: {failure.message}"

/-- Kills the server cursor that is still alive, if any. -/
def killHeld (given : Option Connection) : Program Cursor Unit := do
  let c ← Program.get
  match c.progress.serverCursor with
  | none => pure ()
  | some target => do
    Program.modify forget
    killCursor target given

/-- A scheduled kill: the server cursor is killed, then the resources go. -/
def cleanup (target : ServerCursor) : Program Cursor Unit :=
  (killCursor target none).always releaseResources

/-- Schedules the kill of the server cursor that is still alive; the resources
    follow it.  Where no event loop runs the kill is left out. -/
def scheduleCleanup (loopRuns : Bool) : Program Cursor Unit := do
  let c ← Program.get
  match c.progress.serverCursor with
  | none => releaseResources
  | some target => do
    Program.modify forget
    if loopRuns then Program.modify fun c => { c with cleanups := c.cleanups ++ [target] }
    else do
      log .warning (s!"no running event loop to kill cursor {target.id} "
        ++ s!"on {target.address.text}: the kill is skipped")
      releaseResources

/-! ## Closing -/

/-- Closes the cursor; a closed one stays as it is. -/
def close (loopRuns : Bool) : Program Cursor Unit := do
  let c ← Program.get
  if c.closed then pure ()
  else
    match c.mode with
    | .blocking =>
      (killHeld none).always do
        Program.modify fun c => { c with closed := true }
        releaseResources
    | .async => do
      Program.modify fun c => { c with closed := true }
      scheduleCleanup loopRuns

end DocumentClient.Cursor
