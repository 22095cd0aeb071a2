/-
  Events — what a rehearsal records.

  Every exchange, every notice and every action leaves an event, in the order in
  which they happen.
-/
import DocumentClient.Rehearsal.Script

namespace DocumentClient.Rehearsal

/-- What happened. -/
inductive Event where
  | sourceTaken (access : Access) (source : Source)
  | sourceFailed (access : Access)
  | leased (source : Source) (connection : Nat)
  | leaseFailed (source : Source)
  | sourceReleased (source : Source)
  | connectionReleased (connection : Nat)
  | command (connection : Nat) (database : String) (command : Document) (secondaryOk : Bool)
  | getMore (connection : Nat) (ns : Namespace) (cursorId count : Int)
  | kill (connection : Nat) (ns : Namespace) (cursorIds : List Int)
  | pause (length : Duration)
  | http (request : HttpRequest)
  | during (action : Action)
  | log (level : LogLevel) (message : String)
  | deprecation (message : String)

/-! ## Headers -/

/-- The headers that every request has, whatever its sender asks for. -/
def ambientHeaders : List String :=
  ["host", "accept", "accept-encoding", "connection", "user-agent", "content-length"]

/-- Whether a header comes before another or is the same. -/
def headerLe (a b : String × String) : Bool :=
  if a.1 = b.1 then decide (a.2 ≤ b.2) else decide (a.1 ≤ b.1)

/-- The headers of a request as they are recorded: names in lower case, in order,
    without the ambient ones. -/
def recordedHeaders (request : HttpRequest) : List (String × String) :=
  let lowered := request.headers.map fun (name, value) => (name.toLower, value)
  (lowered.filter fun header => !ambientHeaders.contains header.1).mergeSort headerLe

end DocumentClient.Rehearsal
