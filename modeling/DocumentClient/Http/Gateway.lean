/-
  Gateways — a server behind an HTTP endpoint.

  A gateway takes commands by POST at `{database}/command` and knows nothing else:
  to fetch a batch and to kill cursors are commands too.  `Gateway.of` makes a
  gateway of an endpoint; `command`, `getMore` and `killCursors` carry out what a
  connection is asked for.  `ensureUsable` refuses what was released.
-/
import DocumentClient.Cursor.Progress
import DocumentClient.Http.Commander
import DocumentClient.ReadPreference

namespace DocumentClient.Http

/-- A server behind an HTTP endpoint, and how it is used. -/
structure Gateway where
  commander : Commander
  server : Server
  preference : ReadPreference
  settings : Settings

namespace Gateway

/-- What a gateway is made of. -/
structure Plan where
  endpoint : String
  token : Option String := none
  path : String := ""
  headers : List (String × Option String) := []
  preference : ReadPreference := .primary
  serverType : Value := .text (Named.wire ServerType.standalone)
  serverVersion : Version := [3, 2, 0]
  overrides : Option Overrides := none

/-- The headers of the requests: a token authorizes them, unless a header of that name
    is given. -/
def Plan.allHeaders (plan : Plan) : List (String × Option String) :=
  let authorization := match plan.token with
    | some token => if token = "" then [] else [(authorizationHeader, some s!"Bearer {token}")]
    | none => []
  plan.headers.foldl (fun headers (name, value) => Commander.putHeader name value headers)
    authorization

/-- The gateway of a plan. -/
def of (plan : Plan) : Outcome Gateway := do
  let address ← addressOfEndpoint plan.endpoint
  let type ← Outcome.ofValid (Named.coerce plan.serverType)
  let settings ← Outcome.ofValid (Settings.default.overriddenBy plan.overrides)
  return { commander := Commander.of plan.endpoint plan.path plan.allHeaders
             [authorizationHeader] (some address)
           server := { address := address, type := type, version := plan.serverVersion }
           preference := plan.preference
           settings := settings }

/-! ## Messages -/

/-- What the classes of a mode are called in messages. -/
def className (mode : Mode) (name : String) : String :=
  match mode with
  | .blocking => name
  | .async => "Async" ++ name

/-- A gateway inside a message. -/
def shown (g : Gateway) (mode : Mode) : String :=
  s!"{className mode bindingName}(\"{g.commander.fullPath}\", {g.preference.shown})"
where
  /-- What a gateway is called. -/
  bindingName : String := "HttpBinding"

/-- A source or a connection inside a message. -/
def shownLease (g : Gateway) (mode : Mode) (name : String) (released : Bool) : String :=
  s!"{className mode name}(\"{g.commander.fullPath}\", released={shownBool released})"

/-! ## What connections do -/

variable {σ : Type}

/-- The bound on each request. -/
def bound (g : Gateway) : Bound :=
  { milliseconds := some g.settings.requestTimeout, label := some "request_timeout_ms" }

/-- Refuses what was released. -/
def ensureUsable (released : Bool) (reason : Refusal) : Outcome Unit :=
  if released then .error (.refused reason) else .ok ()

/-- Sends a command. -/
def command (g : Gateway) (released : Bool) (database : String) (command : Document)
    (secondaryOk : Bool) (names : FieldRule) (decode : Decoder) : Program σ Value := do
  Program.ofOutcome (ensureUsable released .connectionReleased)
  Program.ofValid (names.check command)
  let reply ← g.commander.run
    { payload := some command
      furtherPath := some (database ++ "/command")
      parameters := if secondaryOk then [("secondaryOk", .text "true")] else []
      bound := g.bound }
  Program.ofOutcome (decode (.doc reply))

/-- What the failure of a fetch means; none can be told about a cursor of id zero. -/
def fetchFailure (g : Gateway) (cursorId : Int) : Failure → Failure
  | .command failure =>
    match ServerCursor.of cursorId g.server.address with
    | .ok target => failure.ofFetch target.id target.address
    | .error reason => .invalid reason
  | failure => failure

/-- Fetches the next batch of a cursor. -/
def getMore (g : Gateway) (released : Bool) (ns : Namespace) (cursorId count : Int)
    (decode : Decoder) : Program σ QueryResult := do
  let outcome ← (g.command released ns.database (getMoreCommand ns cursorId count.natAbs 0) false
    .any (Decoder.ofResults decode nextBatchField)).attempt
  let reply ← Program.ofOutcome (outcome.mapError (g.fetchFailure cursorId))
  Program.ofOutcome (QueryResult.ofGetMoreReply reply g.server.address)

/-- Kills cursors. -/
def killCursors (g : Gateway) (mode : Mode) (released : Bool) (ns : Namespace)
    (cursorIds : List Int) : Program σ Unit := do
  let shownIds := (Value.list (cursorIds.map .int)).shown
  Program.log .info s!"killing cursors {shownIds} on {ns.fullName}{mode.mark}"
  let _ ← g.command released ns.database (killCursorsCommand ns cursorIds) false .any
    Decoder.document
  return ()

end Gateway

end DocumentClient.Http
