/-
  Read preferences and read concerns.

  A read preference says which members of a deployment may serve a read; sets of
  tags narrow the choice, except for the primary, which is alone.  A read concern
  is sent along with a read unless it is the default of the server.
-/
import DocumentClient.Named
import DocumentClient.Reply

namespace DocumentClient

/-! ## Read preferences -/

/-- Which members may serve a read. -/
inductive ReadMode where
  | primary
  | primaryPreferred
  | secondary
  | secondaryPreferred
  | nearest
  deriving DecidableEq

instance : Named ReadMode where
  enumeration := "ReadPreferenceMode"
  members := [.primary, .primaryPreferred, .secondary, .secondaryPreferred, .nearest]
  name
    | .primary => "PRIMARY"
    | .primaryPreferred => "PRIMARY_PREFERRED"
    | .secondary => "SECONDARY"
    | .secondaryPreferred => "SECONDARY_PREFERRED"
    | .nearest => "NEAREST"
  wire
    | .primary => "primary"
    | .primaryPreferred => "primaryPreferred"
    | .secondary => "secondary"
    | .secondaryPreferred => "secondaryPreferred"
    | .nearest => "nearest"

/-- A mode and the sets of tags that narrow it. -/
structure ReadPreference where
  mode : ReadMode
  tagSets : List Value
  primary_untagged : mode = .primary → tagSets = []

namespace ReadPreference

/-- The preference of a mode and sets of tags. -/
def of (mode : ReadMode) (tagSets : List Value) : Except Invalid ReadPreference :=
  if h : mode = .primary ∧ tagSets ≠ [] then .error .primaryWithTags
  else .ok ⟨mode, tagSets, fun hm => by
    by_cases ht : tagSets = []
    · exact ht
    · exact absurd ⟨hm, ht⟩ h⟩

/-- Reads from the primary alone. -/
def primary : ReadPreference := ⟨.primary, [], fun _ => rfl⟩

def isPrimary (p : ReadPreference) : Bool := p.mode == .primary

/-- Whether another member than the primary may serve the read. -/
def secondaryOk (p : ReadPreference) : Bool := !p.isPrimary

/-- The preference as it is sent to a router: each set of tags is a document. -/
def document (p : ReadPreference) : Outcome Document := do
  let mode := ("mode", .text (Named.wire p.mode))
  let tagSets ← p.tagSets.mapM Value.asDocument
  return mode :: if tagSets.isEmpty then [] else [("tags", .list (tagSets.map .doc))]

/-- A preference inside a message. -/
def shown (p : ReadPreference) : String :=
  let mode := Named.wire p.mode
  if p.tagSets.isEmpty then s!"ReadPreference({mode})"
  else s!"ReadPreference({mode}, tags={(Value.list p.tagSets).shown})"

end ReadPreference

/-! ## Read concerns -/

/-- How settled the data must be that a read returns. -/
inductive ReadConcern where
  | serverDefault
  | local
  | majority
  deriving DecidableEq

instance : Named ReadConcern where
  enumeration := "ReadConcernLevel"
  members := [.serverDefault, .local, .majority]
  name
    | .serverDefault => "SERVER_DEFAULT"
    | .local => "LOCAL"
    | .majority => "MAJORITY"
  wire
    | .serverDefault => "serverDefault"
    | .local => "local"
    | .majority => "majority"

namespace ReadConcern

def isServerDefault (c : ReadConcern) : Bool := c == .serverDefault

/-- The concern as it is sent. -/
def document (c : ReadConcern) : Document :=
  if c.isServerDefault then [] else [("level", .text (Named.wire c))]

end ReadConcern

end DocumentClient
