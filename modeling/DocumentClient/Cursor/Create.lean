/-
  Making cursors.

  A cursor starts from the first batch of a query.  If that leaves a server cursor
  open there must be a source to reach it.  The first batch is absorbed like any
  other: a cursor that needs nothing more from the server releases its resources
  at once, after the kill of a server cursor that is not needed.
-/
import DocumentClient.Cursor.Fetch

namespace DocumentClient.Cursor

/-- What a cursor is made from. -/
structure Plan where
  first : QueryResult
  limit : Int := 0
  batchSize : Int := 0
  decode : Decoder := Decoder.document
  source : Option (Handle Source) := none
  connection : Option (Handle Connection) := none
  maxTimeMs : Int := 0
  overrides : Option Overrides := none

/-- The cursor of a plan before its first batch. -/
def ofPlan (mode : Mode) (plan : Plan) : Except Invalid Cursor :=
  if plan.first.cursor.isSome && plan.source.isNone then .error .sourceRequired
  else do
    let settings ← Settings.default.overriddenBy plan.overrides
    return { mode := mode
             ns := plan.first.ns
             address := plan.first.address
             limit := plan.limit
             batchSize := plan.batchSize
             decode := plan.decode
             maxTimeMs := plan.maxTimeMs
             settings := settings
             source := plan.source
             connection := plan.connection }

/-- Absorbs the first batch and follows up on it. -/
def start (first : QueryResult) (loopRuns : Bool) : Program Cursor Unit := do
  let verdict ← absorb first
  let c ← Program.get
  match verdict.followUp, c.mode with
  | .nothing, _ => pure ()
  | .release, _ => releaseResources
  | .kill, .blocking => do
    killHeld none
    releaseResources
  | .kill, .async => scheduleCleanup loopRuns

/-- Makes a cursor. -/
def create {σ : Type} (mode : Mode) (plan : Plan) (loopRuns : Bool) : Program σ Cursor := do
  let c ← Program.ofValid (ofPlan mode plan)
  let (_, c) ← Program.within c (start plan.first loopRuns)
  return c

end DocumentClient.Cursor
