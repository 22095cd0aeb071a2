/-
  Progress — how far a cursor has come, and what the next fetch asks for.

  The limit and the batch size may be zero (no bound) or negative (the batch at
  hand is the last).  `numberToReturn` is what the next fetch asks for in signed
  form, `requestedCount` without sign.  `advance` absorbs a batch and says what
  becomes of the server cursor: it is kept, killed because the limit is reached,
  dropped because the batch was the last, or there is none any more.
-/
import DocumentClient.QueryResult
import DocumentClient.Reply

namespace DocumentClient

/-! ## Arithmetic -/

/-- Whether as many documents were received as the limit admits. -/
def limitReached (limit delivered : Int) : Bool :=
  limit.natAbs != 0 && decide ((limit.natAbs : Int) ≤ delivered)

/-- The number of documents to ask for, with the sign of the batch size if that
    is what bounds it; zero lets the server choose. -/
def numberToReturn (limit batchSize delivered : Int) : Int :=
  if limit ≠ 0 then
    let remaining := (limit.natAbs : Int) - delivered
    if batchSize ≠ 0 ∧ (batchSize.natAbs : Int) < remaining then batchSize else remaining
  else batchSize

/-- The number of documents to ask for. -/
def requestedCount (limit batchSize delivered : Int) : Nat :=
  (numberToReturn limit batchSize delivered).natAbs

/-- Whether the batch at hand is the last one, whatever the server says. -/
def isFinalBatch (limit batchSize : Int) : Bool := decide (batchSize < 0) || decide (limit < 0)

/-! ## Progress -/

/-- The part of a cursor that changes with each fetch. -/
structure Progress where
  /-- The batch that has not been handed out yet. -/
  nextBatch : Option (List Value) := none
  /-- The cursor alive on the server. -/
  serverCursor : Option ServerCursor := none
  /-- How many documents were received. -/
  delivered : Int := 0

namespace Progress

/-- Hands out the batch. -/
def takeBatch (p : Progress) : Except Invalid (Progress × List Value) :=
  match p.nextBatch with
  | none => .error .noBatch
  | some batch => .ok ({ p with nextBatch := none }, batch)

/-- Forgets the server cursor. -/
def withoutServerCursor (p : Progress) : Progress := { p with serverCursor := none }

end Progress

/-- What becomes of the server cursor after a batch. -/
inductive Verdict where
  /-- It stays in use. -/
  | kept
  /-- It is alive, but not needed any more. -/
  | limitReached
  /-- It is alive, but given up without a word to the server. -/
  | dropped (cursor : ServerCursor)
  /-- There is none. -/
  | ended
  deriving DecidableEq

/-- What a cursor does after a batch. -/
inductive FollowUp where
  | nothing
  | kill
  | release
  deriving DecidableEq

def FollowUp.name : FollowUp → String
  | .nothing => "none"
  | .kill => "kill_cursor"
  | .release => "release"

def Verdict.followUp : Verdict → FollowUp
  | .kept => .nothing
  | .limitReached => .kill
  | .dropped _ => .release
  | .ended => .release

/-- Absorbs a batch. -/
def Progress.advance (p : Progress) (limit batchSize : Int) (result : QueryResult) :
    Progress × Verdict :=
  let next : Progress :=
    { nextBatch := if result.results.isEmpty then none else some result.results
      serverCursor := result.cursor
      delivered := p.delivered + result.results.length }
  match next.serverCursor with
  | none => (next, .ended)
  | some cursor =>
    if DocumentClient.limitReached limit next.delivered then (next, .limitReached)
    else if isFinalBatch limit batchSize then (next.withoutServerCursor, .dropped cursor)
    else (next, .kept)

/-! ## Commands of a cursor -/

/-- The command that fetches the next batch. -/
def getMoreCommand (ns : Namespace) (cursorId : Int) (count : Nat) (maxTimeMs : Int) : Document :=
  [("getMore", .int cursorId), ("collection", .text ns.collection)]
    ++ (if count = 0 then [] else [("batchSize", .int count)])
    ++ (if maxTimeMs = 0 then [] else [("maxTimeMS", .int maxTimeMs)])

/-- The command that kills cursors. -/
def killCursorsCommand (ns : Namespace) (cursorIds : List Int) : Document :=
  [("killCursors", .text ns.collection), ("cursors", .list (cursorIds.map .int))]

end DocumentClient
