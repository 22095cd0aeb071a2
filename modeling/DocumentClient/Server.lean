/-
  Servers — what is known about the server at the other end.

  Versions are compared part by part; where one is the start of the other, the
  longer is the later.
-/
import DocumentClient.Address
import DocumentClient.Named

namespace DocumentClient

/-- The part a server plays, as far as the routing of commands goes. -/
inductive ServerType where
  | standalone
  | replicaSetPrimary
  | replicaSetSecondary
  | shardRouter
  | unknown
  deriving DecidableEq

instance : Named ServerType where
  enumeration := "ServerType"
  members := [.standalone, .replicaSetPrimary, .replicaSetSecondary, .shardRouter, .unknown]
  name
    | .standalone => "STANDALONE"
    | .replicaSetPrimary => "REPLICA_SET_PRIMARY"
    | .replicaSetSecondary => "REPLICA_SET_SECONDARY"
    | .shardRouter => "SHARD_ROUTER"
    | .unknown => "UNKNOWN"
  wire
    | .standalone => "standalone"
    | .replicaSetPrimary => "replicaSetPrimary"
    | .replicaSetSecondary => "replicaSetSecondary"
    | .shardRouter => "shardRouter"
    | .unknown => "unknown"

/-- A server version. -/
abbrev Version := List Int

/-- Whether a version is a given one or a later one. -/
def Version.atLeast : Version → Version → Bool
  | _, [] => true
  | [], _ :: _ => false
  | a :: as, b :: bs => if a = b then atLeast as bs else decide (b < a)

/-- What is known about a server. -/
structure Server where
  address : Address
  type : ServerType := .standalone
  version : Version := [3, 2, 0]

namespace Server

/-- From this version on batches are fetched by command. -/
def fetchCommandVersion : Version := [3, 2]

/-- From this version on read concerns are honoured. -/
def readConcernVersion : Version := [3, 2]

/-- From this version on aggregations can return their results by cursor. -/
def aggregateCursorVersion : Version := [2, 6]

/-- Whether a server has a given version or a later one. -/
def isAtLeast (s : Server) (version : Version) : Bool := Version.atLeast s.version version

end Server

end DocumentClient
