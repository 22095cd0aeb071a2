/-
  Sessions — a rehearsal from its first step to its last.

  Each step leaves an entry: what it yielded or how it failed, what happened
  meanwhile, and how the cursor at hand stands.  After the last step the tasks that
  are still scheduled run; what happens then ends the record.
-/
import DocumentClient.Rehearsal.Step

namespace DocumentClient.Rehearsal

/-- How a cursor stands. -/
structure Standing where
  state : CursorState
  delivered : Int
  batchSize : Int
  /-- The server cursor; nothing is told of a closed cursor. -/
  serverCursor : Option (Option ServerCursor)

/-- How a cursor stands. -/
def Standing.of (c : Cursor) : Standing :=
  { state := c.state
    delivered := c.progress.delivered
    batchSize := c.batchSize
    serverCursor := if c.closed then none else some c.progress.serverCursor }

/-- What a step leaves. -/
structure Entry where
  outcome : Outcome Answer
  events : List Event
  standing : Option Standing

/-- The record of a session. -/
structure Record where
  entries : List Entry
  last : List Event

namespace World

/-- What happened since this was last asked. -/
def collect (w : World) : List Event × World := (w.events.reverse, { w with events := [] })

/-- Takes a step. -/
def step (s : Step) (w : World) : Entry × World :=
  let (outcome, w) := (Play.step s).outcome w
  let (events, w) := w.collect
  (⟨outcome, events, w.latest?.map fun (_, cursor) => Standing.of cursor⟩, w)

/-- Takes steps one after the other. -/
def steps : List Step → World → List Entry × World
  | [], w => ([], w)
  | s :: rest, w =>
    let (entry, w) := w.step s
    let (entries, w) := steps rest w
    (entry :: entries, w)

/-- Lets all tasks run that are still scheduled. -/
def finish (w : World) : World :=
  let drain : Play Unit := do
    let _ ← Play.runAll (← Play.turns)
    return ()
  (drain.outcome w).2

end World

/-- Plays a session. -/
def play (steps : List Step) (w : World) : Record :=
  let (entries, w) := w.steps steps
  ⟨entries, w.finish.collect.1⟩

end DocumentClient.Rehearsal
