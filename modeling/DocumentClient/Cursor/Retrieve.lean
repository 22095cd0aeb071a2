/-
  Retrieving batches.

  `tryNext` hands out the next batch after at most one fetch.  `next` fetches as
  long as the server answers with empty batches and keeps its cursor, pausing in
  between; `rounds` bounds how often it looks, so that every call ends.  An
  interruption makes the next pause fail.
-/
import DocumentClient.Cursor.Fetch

namespace DocumentClient.Cursor

/-- Fails if the cursor is closed. -/
def ensureOpen : Program Cursor Unit := do
  let c ← Program.get
  if c.closed then Program.fail (.cursorClosed .before) else pure ()

/-- Pauses before the next fetch. -/
def waitBeforeRetry : Program Cursor Unit := do
  let c ← Program.get
  let length ← Program.ofOutcome (Duration.ofInterval c.settings.pollInterval)
  Program.pause length
  let c ← Program.get
  if c.interrupted then do
    Program.set { c with interrupted := false }
    Program.fail .interrupted
  else if c.closed then Program.fail (.cursorClosed .waiting)
  else pure ()

/-- Whether a batch has come. -/
inductive Availability where
  | ready
  /-- No batch will come. -/
  | ended
  /-- The rounds are over, and the server has sent nothing. -/
  | pending
  deriving DecidableEq

/-- Fetches until a batch has come or none can come. -/
def awaitBatch : (rounds : Nat) → Program Cursor Availability
  | 0 => pure .pending
  | rounds + 1 => do
    let c ← Program.get
    if c.hasBatch then pure .ready
    else if c.isExhausted then pure .ended
    else do
      fetch
      let c ← Program.get
      if c.hasBatch || c.isExhausted then pure () else waitBeforeRetry
      awaitBatch rounds

/-- Whether a further batch can be had; it is fetched if need be. -/
def hasNext (rounds : Nat) : Program Cursor Availability := do
  ensureOpen
  awaitBatch rounds

/-- Hands out the batch at hand. -/
def takeBatch : Program Cursor (List Value) := do
  let c ← Program.get
  let (progress, batch) ← Program.ofValid c.progress.takeBatch
  Program.set { c with progress := progress }
  return batch

/-- What a retrieval yields. -/
inductive Retrieval where
  | batch (documents : List Value)
  | ended
  | pending
  deriving DecidableEq

/-- The next batch; it is fetched if need be. -/
def next (rounds : Nat) : Program Cursor Retrieval := do
  match ← hasNext rounds with
  | .ready => do
    let documents ← takeBatch
    return .batch documents
  | .ended => return .ended
  | .pending => return .pending

/-- The next batch, if it is there after at most one fetch. -/
def tryNext : Program Cursor (Option (List Value)) := do
  ensureOpen
  let c ← Program.get
  if c.hasBatch || c.isExhausted then pure () else fetch
  let c ← Program.get
  if c.hasBatch then do
    let documents ← takeBatch
    return some documents
  else return none

/-- All batches up to the end, at most `count` of them. -/
def remaining (rounds : Nat) : (count : Nat) → Program Cursor (List (List Value))
  | 0 => pure []
  | count + 1 => do
    match ← next rounds with
    | .batch documents => do
      let rest ← remaining rounds count
      return documents :: rest
    | _ => return []

/-- Makes the next pause of a blocking cursor fail. -/
def interrupt : Program Cursor Unit := Program.modify fun c => { c with interrupted := true }

/-- Changes the batch size of the fetches from now on. -/
def setBatchSize (n : Int) : Program Cursor Unit := Program.modify fun c => { c with batchSize := n }

end DocumentClient.Cursor
