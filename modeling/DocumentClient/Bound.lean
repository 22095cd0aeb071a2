/-
  Bounds — how long something may take, and under what name the bound was set.

  A bound without milliseconds, or with none of them, bounds nothing.  A timeout
  names the bound that was honoured.
-/
import DocumentClient.Duration

namespace DocumentClient

/-- A bound on the duration of an operation. -/
structure Bound where
  milliseconds : Option Int := none
  label : Option String := none

namespace Bound

/-- The milliseconds of a bound that bounds anything. -/
def effective (b : Bound) : Option Int := b.milliseconds.filter (· != 0)

/-- The duration of a bound that bounds anything. -/
def duration? (b : Bound) : Outcome (Option Duration) :=
  match b.effective with
  | none => .ok none
  | some ms => (Duration.ofBound ms).map some

/-- The bound inside a message. -/
def remark? (b : Bound) : Option String :=
  b.effective.map fun ms =>
    match b.label with
    | some label => if label = "" then s!"{ms} ms" else s!"{label} = {ms} ms"
    | none => s!"{ms} ms"

end Bound

/-- What is said about an operation, with the bound that was honoured. -/
def honoured (text : String) (bound : Bound) : String :=
  match bound.remark? with
  | some remark => s!"{text} (timeout honoured: {remark})"
  | none => text

namespace Timeout

/-- The timeout of a part of a request. -/
def ofRequest (phase : Phase) (text : String) (bound : Bound)
    (endpoint payload : Option String) : Timeout :=
  { text := honoured (if text = "" then "timed out" else text) bound
    phase := phase
    endpoint := endpoint
    payload := payload }

/-- The timeout of a caller who waited for an operation. -/
def ofWait (bound : Bound) : Timeout :=
  { text := honoured "Operation timed out" bound ++ "."
    phase := .generic
    endpoint := none
    payload := none }

end Timeout

/-- The outcome of waiting for an operation, which `none` says does not end by
    itself.  A bound below zero is over before the operation has begun. -/
def waitFor {α : Type} (work : Option (Outcome α)) (bound : Bound) : Option (Outcome α) :=
  match bound.effective with
  | none => work
  | some ms =>
    match Duration.ofBound ms with
    | .error failure => some (.error failure)
    | .ok _ =>
      let late : Outcome α := .error (.timedOut (Timeout.ofWait bound))
      some (if ms < 0 then late else work.getD late)

end DocumentClient
