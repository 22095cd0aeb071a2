/-
  The stages of a command.

  A command takes a source and a connection, is enveloped, and is handed to the connection,
  which looks whether it is usable, checks the field names, sends the request and decodes
  the reply; then the reply is transformed.  A `Rig` says how each stage ends.  `Rig.ending`
  is how the command ends: with its value, or with the failure of the first stage that
  fails.

  `observe_run`: a command runs its stages up to the first that fails, and then gives back
  what it has taken, the connection before the source; a connection that is given is only
  used.  The envelope and the transformation are no exchanges, so they leave no trace of
  their own; `runMarked` is the same command with a mark at both.
-/
import DocumentClient.Command
import DocumentClient.Http.Gateway
import DocumentClient.Proofs.Program.Ensures

namespace DocumentClient

/-! ## Stages -/

/-- What is done for a command, in this order. -/
inductive Stage where
  | source
  | connection
  | envelope
  | admission
  | validation
  | request
  | decoding
  | transformation
  deriving DecidableEq

namespace Stage

/-- The stages over a connection. -/
def overConnection : List Stage :=
  [.envelope, .admission, .validation, .request, .decoding, .transformation]

def all : List Stage := .source :: .connection :: overConnection

/-- The stages that a connection carries out. -/
def onConnection : List Stage := [.admission, .validation, .request, .decoding]

/-- Whether a stage can be seen: the marks of some may be left out. -/
def isSeen (marked : Bool) : Stage → Bool
  | .envelope | .transformation => marked
  | _ => true

/-- The outcome of a stage, under its name. -/
def judge {α : Type} (stage : Stage) (outcome : Outcome α) : Except (Stage × Failure) α :=
  outcome.mapError (stage, ·)

@[simp] theorem judge_ok {α : Type} (stage : Stage) (a : α) : stage.judge (.ok a) = .ok a := rfl

@[simp] theorem judge_error {α : Type} (stage : Stage) (e : Failure) :
    stage.judge (.error e : Outcome α) = .error (stage, e) := rfl

end Stage

/-- What can be seen of a command. -/
inductive Sight where
  | ran (stage : Stage)
  | releasedConnection (connection : Connection)
  | releasedSource (source : Source)

/-- What was seen so far, the latest first. -/
abbrev Journal := List Sight

/-- How a command ends: with a value, or with the first stage that fails and its failure. -/
abbrev Ending (α : Type) := Except (Stage × Failure) α

namespace Ending

variable {α β : Type}

def outcome (v : Ending α) : Outcome α := Except.mapError Prod.snd v

@[simp] theorem outcome_ok (a : α) : outcome (.ok a) = .ok a := rfl

@[simp] theorem outcome_error (stage : Stage) (e : Failure) :
    outcome (.error (stage, e) : Ending α) = .error e := rfl

/-- Of some stages, those up to the first that fails. -/
def ran (stages : List Stage) : Ending α → List Stage
  | .ok _ => stages
  | .error (stage, _) => stages.takeWhile (· ≠ stage) ++ [stage]

/-- The stage that fails is one of these. -/
def FailsIn (stages : List Stage) (v : Ending α) : Prop := ∀ s e, v = .error (s, e) → s ∈ stages

theorem ran_append_of_mem {s : Stage} {e : Failure} {first : List Stage} (rest : List Stage)
    (h : s ∈ first) : ran (first ++ rest) (.error (s, e) : Ending β)
      = ran first (.error (s, e) : Ending α) := by
  induction first with
  | nil => simp at h
  | cons a first ih =>
    by_cases ha : a = s
    · simp [ran, ha]
    · have hs : s ∈ first := (List.mem_cons.1 h).resolve_left fun hs => ha hs.symm
      simpa [ran, ha] using ih hs

theorem ran_append_of_failsIn {first rest : List Stage} {v : Ending α} (h : v.FailsIn rest)
    (hdisjoint : ∀ s ∈ rest, s ∉ first) : v.ran (first ++ rest) = first ++ v.ran rest := by
  rcases v with ⟨s, e⟩ | a
  · have hs := hdisjoint s (h s e rfl)
    have hall : ∀ a ∈ first, (decide (a ≠ s)) = true := by
      intro a ha
      simpa using fun heq : a = s => hs (heq ▸ ha)
    change (first ++ rest).takeWhile (· ≠ s) ++ [s] = first ++ (rest.takeWhile (· ≠ s) ++ [s])
    rw [List.takeWhile_append_of_pos hall, List.append_assoc]
  · rfl

end Ending

/-! ## Rigs -/

/-- How the stages of a command end. -/
structure Rig where
  source : Access → Outcome Source
  lease : Source → Outcome Connection
  admission : Connection → Outcome Unit
  request : (connection : Connection) → (database : String) → (command : Document) →
    (secondaryOk : Bool) → Outcome Value

/-- Takes a stage, and marks that. -/
def Program.enter {α : Type} (marked : Bool) (stage : Stage) (outcome : Outcome α) :
    Program Journal α := do
  if marked then Program.modify (.ran stage :: ·)
  Program.ofOutcome outcome

namespace Rig

/-- A connection carries a command out. -/
def command (r : Rig) (connection : Connection) (database : String) (command : Document)
    (secondaryOk : Bool) (names : FieldRule) (decode : Decoder) : Program Journal Value := do
  Program.enter true .admission (r.admission connection)
  Program.enter true .validation (Outcome.ofValid (names.check command))
  let reply ← Program.enter true .request (r.request connection database command secondaryOk)
  Program.enter true .decoding (decode reply)

/-- A rig answers an exchange. -/
def answer (r : Rig) : (q : Exchange) → Program Journal q.Answer
  | .source access => Program.enter true .source (r.source access)
  | .lease source => Program.enter true .connection (r.lease source)
  | .command connection database command secondaryOk names decode =>
    r.command connection database command secondaryOk names decode
  | _ => Program.fail .notHeld

/-- Where a journal is kept. -/
def cell : Program.Cell Journal Journal := ⟨id, fun journal _ => journal⟩

/-- A world that takes no notice and answers nothing. -/
def still : Program.Interpreter Journal := ⟨fun _ w => w, fun _ w => (.error .notHeld, w)⟩

/-- A world in which the stages end as a rig says. -/
def interpreter (r : Rig) : Program.Interpreter Journal where
  take
    | .releaseConnection connection, w => .releasedConnection connection :: w
    | .releaseSource source, w => .releasedSource source :: w
    | _, w => w
  answer q w := Program.interpret still cell (r.answer q) w

/-- How a program ends, and what is seen of it. -/
def observe {α : Type} (r : Rig) (program : Program Journal α) : Outcome α × Journal :=
  let (outcome, journal) := Program.interpret r.interpreter cell program []
  (outcome, journal.reverse)

variable {α : Type}

/-! ## What is to be seen -/

/-- How a connection ends that carries a command out. -/
def carriedOut (r : Rig) (connection : Connection) (database : String) (command : Document)
    (secondaryOk : Bool) (names : FieldRule) (decode : Decoder) : Ending Value := do
  Stage.admission.judge (r.admission connection)
  Stage.validation.judge (Outcome.ofValid (names.check command))
  let reply ← Stage.request.judge (r.request connection database command secondaryOk)
  Stage.decoding.judge (decode reply)

/-- How a command ends over a connection. -/
def endingOver (r : Rig) (call : Call α) (preference : ReadPreference) (connection : Connection) :
    Ending α := do
  let command ← Stage.envelope.judge (wrapCommand call.command preference connection.server)
  let value ← r.carriedOut connection call.database command preference.secondaryOk call.names
    call.decode
  Stage.transformation.judge (call.transform value)

/-- How a command ends that takes a source and a connection. -/
def ending (r : Rig) (call : Call α) (access : Access) (preference : ReadPreference) :
    Ending α := do
  let source ← Stage.source.judge (r.source access)
  let connection ← Stage.connection.judge (r.lease source)
  r.endingOver call preference connection

/-- The source that is taken. -/
def taken (r : Rig) (access : Access) : Option Source := (r.source access).toOption

/-- The connection that is leased. -/
def leased (r : Rig) (access : Access) : Option Connection :=
  (r.taken access).bind fun source => (r.lease source).toOption

/-- The outcome of a command, and what is to be seen of it. -/
def course (r : Rig) (marked : Bool) (call : Call α) (access : Access)
    (preference : ReadPreference) : (given : Option Connection) → Outcome α × Journal
  | some connection =>
    let v := r.endingOver call preference connection
    (v.outcome, ((v.ran Stage.overConnection).filter (Stage.isSeen marked)).map .ran)
  | none =>
    let v := r.ending call access preference
    (v.outcome, ((v.ran Stage.all).filter (Stage.isSeen marked)).map .ran
      ++ (r.leased access).toList.map .releasedConnection
      ++ (r.taken access).toList.map .releasedSource)

end Rig

/-! ## Marked commands -/

namespace Call

variable {α : Type}

/-- Sends a command, with a mark at the envelope and at the transformation, or without. -/
def sendMarked (marked : Bool) (call : Call α) (mode : Mode) (preference : ReadPreference)
    (connection : Connection) : Program Journal α := do
  Program.log .debug s!"sending command '{commandName call.command}' to {call.database}{mode.mark}"
  let command ← Program.enter marked .envelope
    (wrapCommand call.command preference connection.server)
  let reply ← Program.command connection call.database command preference.secondaryOk
    call.names call.decode
  Program.enter marked .transformation (call.transform reply)

/-- Runs a command with those marks, or without. -/
def runMarked (marked : Bool) (call : Call α) (mode : Mode) (access : Access)
    (preference : ReadPreference) (given : Option Connection) : Program Journal α :=
  match given with
  | some connection => call.sendMarked marked mode preference connection
  | none => do
    let source ← Program.takeSource access
    onSource source (call.sendMarked marked mode preference)

/-- Without marks a command is as it was. -/
theorem runMarked_false (call : Call α) (mode : Mode) (access : Access)
    (preference : ReadPreference) (given : Option Connection) :
    call.runMarked false mode access preference given = call.run mode access preference given := by
  cases given <;> rfl

end Call

/-! ## Following stages -/

/-- A program takes some stages, up to the first that fails, and ends as they do. -/
structure Follows {α : Type} (i : Program.Interpreter Journal) (seen : Stage → Bool)
    (stages : List Stage) (p : Program Journal α) (v : Ending α) : Prop where
  runs : ∀ w, Program.interpret i Rig.cell p w
    = (v.outcome, (((v.ran stages).filter seen).map .ran).reverse ++ w)
  fails : v.FailsIn stages

section
variable {α β : Type} {i : Program.Interpreter Journal} {seen : Stage → Bool}
  {first rest : List Stage} {p : Program Journal α}

theorem follows_enter {stage : Stage} (outcome : Outcome α) :
    Follows i seen [stage] (Program.enter (seen stage) stage outcome) (stage.judge outcome) := by
  constructor
  · intro w
    rcases hseen : seen stage with _ | _ <;> rcases outcome with e | a <;>
      simp [Ending.ran, hseen] <;> rfl
  · rintro s e heq
    rcases outcome with e' | a
    · cases heq
      exact List.mem_singleton_self _
    · cases heq

/-- One after the other. -/
theorem Follows.bind {v : Ending α} {f : α → Program Journal β} {g : α → Ending β}
    (hp : Follows i seen first p v) (hf : ∀ a, Follows i seen rest (f a) (g a))
    (hdisjoint : ∀ s ∈ rest, s ∉ first) : Follows i seen (first ++ rest) (p >>= f) (v >>= g) := by
  constructor
  · intro w
    rw [Program.interpret_bind, hp.runs]
    rcases v with ⟨s, e⟩ | a
    · have hran : Ending.ran (first ++ rest) ((.error (s, e) : Ending α) >>= g)
          = Ending.ran first (.error (s, e) : Ending α) :=
        Ending.ran_append_of_mem rest (hp.fails s e rfl)
      rw [hran]
      rfl
    · have hran : Ending.ran (first ++ rest) ((.ok a : Ending α) >>= g)
          = first ++ (g a).ran rest :=
        Ending.ran_append_of_failsIn (hf a).fails hdisjoint
      rw [hran, List.filter_append, List.map_append, List.reverse_append, List.append_assoc]
      exact (hf a).runs _
  · intro s e heq
    rcases v with ⟨s', e'⟩ | a
    · cases heq
      exact List.mem_append_left _ (hp.fails _ _ rfl)
    · exact List.mem_append_right _ ((hf a).fails s e heq)

end

namespace Rig

variable {α : Type} (r : Rig)

/-- A connection takes its stages. -/
theorem follows_command (marked : Bool) (connection : Connection) (database : String)
    (command : Document) (secondaryOk : Bool) (names : FieldRule) (decode : Decoder) :
    Follows r.interpreter (Stage.isSeen marked) Stage.onConnection
      (Program.command connection database command secondaryOk names decode)
      (r.carriedOut connection database command secondaryOk names decode) := by
  have hcommand : Follows still (Stage.isSeen marked) Stage.onConnection
      (r.command connection database command secondaryOk names decode)
      (r.carriedOut connection database command secondaryOk names decode) :=
    (follows_enter _).bind (fun _ => (follows_enter _).bind (fun _ => (follows_enter _).bind
      (fun _ => follows_enter _) (by decide)) (by decide)) (by decide)
  exact ⟨hcommand.runs, hcommand.fails⟩

/-- A command takes its stages over a connection. -/
theorem follows_send (marked : Bool) (call : Call α) (mode : Mode) (preference : ReadPreference)
    (connection : Connection) :
    Follows r.interpreter (Stage.isSeen marked) Stage.overConnection
      (call.sendMarked marked mode preference connection)
      (r.endingOver call preference connection) := by
  have hsend : Follows r.interpreter (Stage.isSeen marked)
      ([.envelope] ++ (Stage.onConnection ++ [.transformation])) _
      (r.endingOver call preference connection) :=
    (follows_enter (wrapCommand call.command preference connection.server)).bind
      (fun command => (r.follows_command marked connection call.database command
        preference.secondaryOk call.names call.decode).bind
          (fun reply => follows_enter (call.transform reply)) (by decide)) (by decide)
  exact ⟨hsend.runs, hsend.fails⟩

theorem interpret_takeSource (access : Access) (w : Journal) :
    Program.interpret r.interpreter cell (Program.takeSource access) w
      = (r.source access, .ran .source :: w) := rfl

theorem interpret_lease (source : Source) (w : Journal) :
    Program.interpret r.interpreter cell (Program.lease source) w
      = (r.lease source, .ran .connection :: w) := rfl

/-- A step on a connection of its own gives the connection back, and then the source. -/
theorem interpret_onSource {marked : Bool} {use : Connection → Program Journal α}
    {ending : Connection → Ending α} (huse : ∀ c, Follows r.interpreter (Stage.isSeen marked)
      Stage.overConnection (use c) (ending c)) (source : Source) {v : Ending α}
    (hv : v = Stage.connection.judge (r.lease source) >>= ending) :
    Program.interpret r.interpreter cell (Call.onSource source use) [.ran .source]
      = (v.outcome, (((v.ran Stage.all).filter (Stage.isSeen marked)).map Sight.ran
        ++ (r.lease source).toOption.toList.map Sight.releasedConnection
        ++ [Sight.releasedSource source]).reverse) := by
  subst hv
  rw [Call.onSource, Program.interpret_always, Program.interpret_bind, interpret_lease]
  rcases r.lease source with e | connection
  · rfl
  have hv : (Stage.connection.judge (.ok connection) >>= ending) = ending connection := rfl
  have hran : (ending connection).ran ([.source, .connection] ++ Stage.overConnection)
      = [.source, .connection] ++ (ending connection).ran Stage.overConnection :=
    Ending.ran_append_of_failsIn (huse connection).fails (by decide)
  have hall : Stage.all = [.source, .connection] ++ Stage.overConnection := rfl
  rw [hv, hall, hran]
  dsimp only
  rw [Program.interpret_always, (huse connection).runs]
  have hseen : ∀ stages, ([Stage.source, .connection] ++ stages).filter (Stage.isSeen marked)
      = [Stage.source, .connection] ++ stages.filter (Stage.isSeen marked) := fun _ => rfl
  rw [hseen]
  change ((ending connection).outcome, Sight.releasedSource source ::
    Sight.releasedConnection connection :: _) = _
  simp [Except.toOption]

/-- Over a given connection, nothing but its stages is to be seen of a command. -/
theorem observe_given (marked : Bool) (call : Call α) (mode : Mode) (access : Access)
    (preference : ReadPreference) (connection : Connection) :
    r.observe (call.runMarked marked mode access preference (some connection))
      = r.course marked call access preference (some connection) := by
  rw [observe, Call.runMarked, (r.follows_send marked call mode preference connection).runs]
  simp [course]

/-- A command with a source and a connection of its own gives both back. -/
theorem observe_own (marked : Bool) (call : Call α) (mode : Mode) (access : Access)
    (preference : ReadPreference) :
    r.observe (call.runMarked marked mode access preference none)
      = r.course marked call access preference none := by
  have hrun : Program.interpret r.interpreter cell
      (call.runMarked marked mode access preference none) []
      = match r.source access with
        | .ok source => Program.interpret r.interpreter cell
            (Call.onSource source (call.sendMarked marked mode preference)) [.ran .source]
        | .error e => (.error e, [.ran .source]) := by
    rw [Call.runMarked, Program.interpret_bind, interpret_takeSource]
    rcases r.source access with e | source <;> rfl
  rw [observe, hrun]
  rcases hsource : r.source access with e | source
  · have hending : r.ending call access preference = .error (.source, e) := by
      rw [ending, hsource]
      rfl
    rw [course, hending, leased, taken, hsource]
    rfl
  · have hending : r.ending call access preference
        = Stage.connection.judge (r.lease source) >>= r.endingOver call preference := by
      rw [ending, hsource]
      rfl
    dsimp only
    rw [r.interpret_onSource (r.follows_send marked call mode preference) source hending]
    simp [course, taken, leased, hsource, Except.toOption]

/-- **A command runs its stages up to the first that fails, and then gives back what it has taken.**
    Its outcome is that of its stages: the value of the last one, or the failure of the first that
    fails.  A source and a connection of its own are released once, if they were taken, after all
    stages and the connection before the source; over a given connection nothing is taken, and
    nothing released.  So it is for reads and for writes, in both modes, and the marks at the
    envelope and the transformation change nothing else. -/
theorem observe_run (call : Call α) (mode : Mode) (preference : ReadPreference)
    (given : Option Connection) :
    r.observe (call.runRead mode preference given) = r.course false call .read preference given ∧
    r.observe (call.runWrite mode given) = r.course false call .write .primary given ∧
    ∀ access, r.observe (call.runMarked true mode access preference given)
      = r.course true call access preference given := by
  have hall : ∀ marked access preference, r.observe
      (call.runMarked marked mode access preference given)
        = r.course marked call access preference given := by
    intro marked access preference
    cases given with
    | none => exact r.observe_own marked call mode access preference
    | some connection => exact r.observe_given marked call mode access preference connection
  refine ⟨?_, ?_, fun access => hall true access preference⟩
  · rw [Call.runRead, ← Call.runMarked_false]
    exact hall false .read preference
  · rw [Call.runWrite, ← Call.runMarked_false]
    exact hall false .write .primary

/-! ## Connections of a gateway -/

/-- The connection of a gateway takes those stages, too: the world is asked only if the request is
    reached, and the reply is decoded after that. -/
theorem interpret_gateway_command {ω σ : Type} {i : Program.Interpreter ω}
    {cell : Program.Cell ω σ} {g : Http.Gateway} {released : Bool} {connection : Connection}
    {database : String} {command : Document} {secondaryOk : Bool} {names : FieldRule}
    {decode : Decoder} {w : ω} {asked : Outcome Document × ω}
    (hasked : asked = Program.interpret i cell (g.commander.run
      { payload := some command
        furtherPath := some (database ++ "/command")
        parameters := if secondaryOk then [("secondaryOk", .text "true")] else []
        bound := g.bound }) w)
    (hadmission : r.admission connection = Http.Gateway.ensureUsable released .connectionReleased)
    (hrequest : r.request connection database command secondaryOk = asked.1.map .doc) :
    Program.interpret i cell (g.command released database command secondaryOk names decode) w
      = ((r.carriedOut connection database command secondaryOk names decode).outcome,
        if .request ∈ (r.carriedOut connection database command secondaryOk names decode).ran
          Stage.onConnection then asked.2 else w) := by
  obtain ⟨reply, w'⟩ := asked
  rw [Http.Gateway.command, carriedOut, hadmission, hrequest]
  rcases Http.Gateway.ensureUsable released .connectionReleased with e | ⟨⟩
  · rfl
  change Program.interpret i cell (Program.ofOutcome (Outcome.ofValid (names.check command))
    >>= fun _ => _ >>= fun reply => Program.ofOutcome (decode (.doc reply))) w = _
  rcases Outcome.ofValid (names.check command) with e | ⟨⟩
  · rfl
  change Program.interpret i cell (_ >>= fun reply => Program.ofOutcome (decode (.doc reply))) w
    = _
  rw [Program.interpret_bind, ← hasked]
  rcases reply with e | document
  · rfl
  change (decode (.doc document), w')
    = (Ending.outcome (Stage.decoding.judge (decode (.doc document))),
      if .request ∈ Ending.ran Stage.onConnection (Stage.decoding.judge (decode (.doc document)))
      then w' else w)
  rcases decode (.doc document) with e | value <;> rfl

end Rig

end DocumentClient
