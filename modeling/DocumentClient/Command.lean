/-
  Commands — one command, one reply.

  A command is sent over a connection, enveloped with the read preference if a
  router is to apply that; the reply is decoded and transformed.  `runRead` and
  `runWrite` take a source and a connection for it and release both on every
  outcome, the connection first; a connection that is given is only used.
-/
import DocumentClient.Program
import DocumentClient.ReadPreference

namespace DocumentClient

/-- The field a command is enveloped in. -/
def wrappedCommandField : String := "$query"

/-- The field of the envelope that holds the read preference. -/
def wrappedPreferenceField : String := "$readPreference"

/-- The document to send to a server: for a router the command comes with the read
    preference, unless that is the primary. -/
def wrapCommand (command : Document) (preference : ReadPreference) (server : Server) :
    Outcome Document :=
  if server.type = .shardRouter ∧ !preference.isPrimary then do
    let document ← preference.document
    return [(wrappedCommandField, .doc command), (wrappedPreferenceField, .doc document)]
  else .ok command

/-- The name of a command: its first field. -/
def commandName (command : Document) : String := (Document.names command).head?.getD "(empty)"

/-- A command, and what is made of its reply. -/
structure Call (α : Type) where
  database : String
  command : Document
  names : FieldRule := .any
  decode : Decoder := Decoder.document
  transform : Value → Outcome α

namespace Call

variable {σ α : Type}

/-- Sends a command over a connection. -/
def send (call : Call α) (mode : Mode) (preference : ReadPreference) (connection : Connection) :
    Program σ α := do
  Program.log .debug s!"sending command '{commandName call.command}' to {call.database}{mode.mark}"
  let command ← Program.ofOutcome (wrapCommand call.command preference connection.server)
  let reply ← Program.command connection call.database command preference.secondaryOk
    call.names call.decode
  Program.ofOutcome (call.transform reply)

/-- Runs a step on a connection leased from a source, and releases both. -/
def onSource (source : Source) (use : Connection → Program σ α) : Program σ α :=
  Program.always
    (do
      let connection ← Program.lease source
      (use connection).always (Program.notify (.releaseConnection connection)))
    (Program.notify (.releaseSource source))

/-- Runs a command for a purpose, over a given connection or one of its own. -/
def run (call : Call α) (mode : Mode) (access : Access) (preference : ReadPreference)
    (given : Option Connection) : Program σ α :=
  match given with
  | some connection => call.send mode preference connection
  | none => do
    let source ← Program.takeSource access
    onSource source (call.send mode preference)

/-- Runs a command that reads, with the read preference in effect. -/
def runRead (call : Call α) (mode : Mode) (preference : ReadPreference)
    (given : Option Connection) : Program σ α :=
  call.run mode .read preference given

/-- Runs a command that writes, on the primary. -/
def runWrite (call : Call α) (mode : Mode) (given : Option Connection) : Program σ α :=
  call.run mode .write .primary given

end Call

/-- Puts a default in the place of what a command yields whose namespace does not
    exist. -/
def Program.orDefault {σ α : Type} (program : Program σ α) (default : α) : Program σ α := do
  match ← program.attempt with
  | .error (.command failure) => do
    if failure.namespaceMissing then
      Program.log .debug s!"namespace not found, using default: {failure.reason}"
    else pure ()
    Program.ofOutcome (failure.orDefault default)
  | outcome => Program.ofOutcome outcome

end DocumentClient
