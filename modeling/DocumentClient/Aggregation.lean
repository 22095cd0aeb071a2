/-
  Aggregations — pipelines whose results come through a cursor.

  A server that can return the results by cursor is asked to, unless the caller
  does not want that; else all results come in one reply, which makes the one batch
  of the cursor.  `execute` hands the source over to the cursor while a server
  cursor is open, and releases it otherwise; the connection is released in any case.
-/
import DocumentClient.Command
import DocumentClient.Cursor.Create

namespace DocumentClient

/-- A pipeline over a collection. -/
structure Aggregation where
  ns : Namespace
  pipeline : List Value
  decode : Decoder := Decoder.document
  allowDiskUse : Option Bool := none
  batchSize : Option Int := none
  maxTimeMs : Int := 0
  /-- Whether the results come by cursor; undecided where the server can. -/
  useCursor : Option Bool := none
  readConcern : ReadConcern := .serverDefault
  overrides : Option Overrides := none

namespace Aggregation

variable {σ : Type}

/-- An aggregation inside a message. -/
def shown (a : Aggregation) : String :=
  s!"AggregateOperation(\"{a.ns.fullName}\", pipeline=<{a.pipeline.length} stages>)"

/-- What is said to those who do without a cursor. -/
def cursorDeprecation : String :=
  "Setting 'use_cursor' is deprecated as of 0.1.0. "
    ++ "Aggregation results are returned through a cursor whenever possible."

/-- Warns those who do without a cursor. -/
def announce (a : Aggregation) : Program σ Unit :=
  if a.useCursor = some false then Program.notify (.deprecation cursorDeprecation) else pure ()

/-- Whether the results come by cursor. -/
def usesCursor (a : Aggregation) (server : Server) : Bool :=
  a.useCursor != some false && server.isAtLeast Server.aggregateCursorVersion

/-! ## Commands -/

private def timeBound (a : Aggregation) : Document :=
  if 0 < a.maxTimeMs then [("maxTimeMS", .int a.maxTimeMs)] else []

private def diskUse (a : Aggregation) : Document :=
  match a.allowDiskUse with
  | some b => [("allowDiskUse", .bool b)]
  | none => []

private def cursorOptions (a : Aggregation) : Document :=
  match a.batchSize with
  | some n => [("batchSize", .int n)]
  | none => []

/-- The command for a server. -/
def command (a : Aggregation) (server : Server) : Document :=
  [("aggregate", .text a.ns.collection), ("pipeline", .list a.pipeline)]
    ++ a.timeBound
    ++ (if a.usesCursor server then [(cursorField, .doc a.cursorOptions)] else [])
    ++ a.diskUse
    ++ (if a.readConcern.isServerDefault then []
        else [("readConcern", .doc a.readConcern.document)])

section
variable (a : Aggregation) (server : Server)

theorem lookup_collection_command :
    Document.lookup "aggregate" (a.command server) = some (.text a.ns.collection) := rfl

theorem lookup_pipeline_command :
    Document.lookup "pipeline" (a.command server) = some (.list a.pipeline) := rfl

/-- The names a command may have. -/
def commandFields : List String :=
  ["aggregate", "pipeline", "maxTimeMS", cursorField, "allowDiskUse", "readConcern"]

theorem lookup_other_command {name : String} (h : name ∉ commandFields) :
    Document.lookup name (a.command server) = none := by
  simp only [commandFields, List.mem_cons, List.not_mem_nil, or_false, not_or, cursorField] at h
  unfold command timeBound diskUse
  rcases a.allowDiskUse with _ | b <;> (repeat' split) <;>
    simp [Document.lookup, cursorField, h, eq_comm]

/-- A cursor is asked for exactly where one is used. -/
theorem has_cursor_command : Document.has cursorField (a.command server) = a.usesCursor server := by
  unfold command timeBound diskUse
  rcases hcursor : a.usesCursor server with _ | _ <;> rcases a.allowDiskUse with _ | b <;>
    (repeat' split) <;> simp_all [Document.has, Document.lookup, cursorField]

end

/-- The command that explains the aggregation rather than run it. -/
def explainCommand (a : Aggregation) : Document :=
  [("aggregate", .text a.ns.collection), ("pipeline", .list a.pipeline), ("explain", .bool true)]
    ++ a.timeBound ++ a.diskUse

/-! ## Results -/

/-- The field of the reply that holds the results. -/
def resultsField (a : Aggregation) (server : Server) : String :=
  if a.usesCursor server then firstBatchField else inlineResultField

/-- The query result of a reply. -/
def toQueryResult (a : Aggregation) (server : Server) (reply : Value) : Outcome QueryResult :=
  if a.usesCursor server then do
    let document ← reply.fieldOrNull cursorField
    QueryResult.ofCursorDocument document server.address firstBatchField
  else do
    let results ← reply.fieldOrNull inlineResultField
    let results ← if results.truthy then results.items else .ok []
    return ⟨a.ns, results, 0, server.address⟩

/-- Refuses a read concern that the server does not honour. -/
def checkReadConcern (a : Aggregation) (server : Server) : Outcome Unit :=
  if a.readConcern.isServerDefault || server.isAtLeast Server.readConcernVersion then .ok ()
  else .error (.refused (.readConcern server.version))

/-- The call that runs the aggregation on a server. -/
def call (a : Aggregation) (server : Server) : Call QueryResult :=
  { database := a.ns.database
    command := a.command server
    decode := Decoder.ofResults a.decode (a.resultsField server)
    transform := a.toQueryResult server }

/-! ## Running -/

/-- Runs the aggregation over a connection: the cursor, and whether it has taken
    over the source. -/
def executeOver (a : Aggregation) (mode : Mode) (preference : ReadPreference) (source : Source)
    (connection : Connection) : Program σ (Cursor × Bool) := do
  Program.ofOutcome (a.checkReadConcern connection.server)
  Program.log .info s!"running aggregation on {a.ns.fullName}{mode.mark}"
  let first ← (a.call connection.server).runRead mode preference (some connection)
  let open_ := first.cursor.isSome
  let plan : Cursor.Plan :=
    { first := first
      batchSize := a.batchSize.getD 0
      decode := a.decode
      source := if open_ then some ⟨.owned, source⟩ else none
      overrides := a.overrides }
  let cursor ← Cursor.create mode plan true
  return (cursor, open_)

/-- Runs the aggregation: a cursor over its results. -/
def execute (a : Aggregation) (mode : Mode) (preference : ReadPreference) : Program σ Cursor := do
  let source ← Program.takeSource .read
  let outcome ← Program.attempt do
    let connection ← Program.lease source
    (a.executeOver mode preference source connection).always
      (Program.notify (.releaseConnection connection))
  match outcome with
  | .ok (cursor, true) => return cursor
  | .ok (cursor, false) => do
    Program.notify (.releaseSource source)
    return cursor
  | .error failure => do
    Program.notify (.releaseSource source)
    Program.fail failure

/-- Asks how the server would run the aggregation. -/
def explain (a : Aggregation) (mode : Mode) (preference : ReadPreference) : Program σ Value :=
  let call : Call Value :=
    { database := a.ns.database, command := a.explainCommand, transform := .ok }
  call.runRead mode preference none

end Aggregation

end DocumentClient
