/-
  Scripts — what a rehearsal puts in the place of the world.

  A script has a queue for each kind of exchange: sources, leases, requests over a
  connection, kills, pauses, and responses of a gateway.  Each entry says how one
  exchange ends, and which actions others take while it is under way.
-/
import DocumentClient.Exchange

namespace DocumentClient.Rehearsal

/-! ## Actions -/

/-- What may happen while an exchange is under way. -/
inductive Action where
  /-- The task that waits for the exchange is cancelled. -/
  | cancel
  /-- The latest cursor is closed. -/
  | close
  /-- The latest cursor is interrupted. -/
  | interrupt
  /-- The batch size of the latest cursor changes. -/
  | batchSize (n : Int)
  deriving DecidableEq

/-! ## Servers -/

/-- What is said about a server; what is left out keeps its usual value. -/
structure ServerPlan where
  address : Option String := none
  type : Option Value := none
  version : Option Version := none

namespace ServerPlan

/-- The address of a server about which nothing is said. -/
def usualAddress : String := "fake-host:27017"

/-- One plan on top of another. -/
def atop (above below : ServerPlan) : ServerPlan :=
  { address := above.address.or below.address
    type := above.type.or below.type
    version := above.version.or below.version }

/-- The server of a plan. -/
def read (plan : ServerPlan) : Except Invalid Server := do
  let address ← Address.parse (plan.address.getD usualAddress)
  let type ← match plan.type with
    | some type => Named.coerce type
    | none => .ok .standalone
  return { address := address, type := type, version := plan.version.getD [3, 2, 0] }

end ServerPlan

/-! ## Entries -/

/-- How a lease ends, and what is said about the server from then on. -/
structure LeaseEntry where
  failure : Option Failure := none
  server : ServerPlan := {}

/-- How a request over a connection ends. -/
structure RequestEntry where
  before : List Action := []
  failure : Option Failure := none
  /-- The reply to a command. -/
  reply : Document := []
  /-- The batch of a fetch. -/
  documents : List Value := []
  /-- The cursor id of a fetch. -/
  cursorId : Int := 0

/-- How a kill ends. -/
structure KillEntry where
  before : List Action := []
  failure : Option Failure := none

/-- How a request to a gateway ends. -/
structure ResponseEntry where
  before : List Action := []
  result : Outcome HttpResult

/-- What the world will answer. -/
structure Script where
  /-- How each taking of a source ends; no failure is success. -/
  sources : List (Option Failure) := []
  leases : List LeaseEntry := []
  requests : List RequestEntry := []
  kills : List KillEntry := []
  responses : List ResponseEntry := []
  /-- The actions during each pause. -/
  pauses : List (List Action) := []

namespace Script

/-- The number of entries during which actions may take place. -/
def length (s : Script) : Nat :=
  s.requests.length + s.kills.length + s.responses.length + s.pauses.length

/-- The number of batches that can still be fetched. -/
def batchesLeft (s : Script) : Nat := s.requests.length + s.responses.length

/-- Takes the first entry off a queue. -/
def takeSource (s : Script) : Option (Option Failure) × Script :=
  (s.sources.head?, { s with sources := s.sources.tail })

/-- Takes the first entry off a queue. -/
def takeLease (s : Script) : Option LeaseEntry × Script :=
  (s.leases.head?, { s with leases := s.leases.tail })

/-- Takes the first entry off a queue. -/
def takeRequest (s : Script) : Option RequestEntry × Script :=
  (s.requests.head?, { s with requests := s.requests.tail })

/-- Takes the first entry off a queue. -/
def takeKill (s : Script) : Option KillEntry × Script :=
  (s.kills.head?, { s with kills := s.kills.tail })

/-- Takes the first entry off a queue. -/
def takeResponse (s : Script) : Option ResponseEntry × Script :=
  (s.responses.head?, { s with responses := s.responses.tail })

/-- Takes the first entry off a queue. -/
def takePause (s : Script) : Option (List Action) × Script :=
  (s.pauses.head?, { s with pauses := s.pauses.tail })

end Script

end DocumentClient.Rehearsal
