/-
  Programs — operations as trees of exchanges.

  A program acts on a state it shares with others.  It reads and writes that
  state, gives notices, and asks for exchanges; only while an exchange is under
  way do others act.  `attempt` makes the outcome of a program a value, from which
  `always` (a last step on every outcome) and `handle` (a step on ordinary
  failures) are built.  `within` runs a program on a state of its own, and
  `interpret` runs one on a world that answers its exchanges.
-/
import DocumentClient.Exchange

namespace DocumentClient

/-- An operation on a shared state that yields a value or fails. -/
inductive Program (σ α : Type) where
  | done (outcome : Outcome α)
  | read (next : σ → Program σ α)
  | write (state : σ) (next : Program σ α)
  | note (notice : Notice) (next : Program σ α)
  | ask (exchange : Exchange) (next : Outcome exchange.Answer → Program σ α)

namespace Program

variable {σ τ α β : Type}

/-! ## Sequencing -/

/-- Goes on after a program with what it yields; a failure ends both. -/
def bind : Program σ α → (α → Program σ β) → Program σ β
  | done (.ok a), f => f a
  | done (.error e), _ => done (.error e)
  | read next, f => read fun s => bind (next s) f
  | write s next, f => write s (bind next f)
  | note n next, f => note n (bind next f)
  | ask q next, f => ask q fun answer => bind (next answer) f

instance : Monad (Program σ) where
  pure a := done (.ok a)
  bind := bind

/-- Fails. -/
def fail (failure : Failure) : Program σ α := done (.error failure)

/-- Yields an outcome, or fails with it. -/
def ofOutcome (outcome : Outcome α) : Program σ α := done outcome

/-- Yields an admissible value. -/
def ofValid (value : Except Invalid α) : Program σ α := done (Outcome.ofValid value)

/-! ## Single steps -/

/-- The shared state. -/
def get : Program σ σ := read fun s => done (.ok s)

/-- Replaces the shared state. -/
def set (s : σ) : Program σ Unit := write s (done (.ok ()))

/-- Changes the shared state. -/
def modify (f : σ → σ) : Program σ Unit := read fun s => write (f s) (done (.ok ()))

/-- Gives a notice. -/
def notify (n : Notice) : Program σ Unit := note n (done (.ok ()))

/-- Logs a message. -/
def log (level : LogLevel) (message : String) : Program σ Unit := notify (.log level message)

/-! ## Exchanges -/

/-- Takes a source from the binding. -/
def takeSource (access : Access) : Program σ Source := ask (.source access) done

/-- Leases a connection. -/
def lease (source : Source) : Program σ Connection := ask (.lease source) done

/-- Sends a command. -/
def command (connection : Connection) (database : String) (command : Document)
    (secondaryOk : Bool) (names : FieldRule) (decode : Decoder) : Program σ Value :=
  ask (.command connection database command secondaryOk names decode) done

/-- Fetches a batch without a command. -/
def getMore (connection : Connection) (ns : Namespace) (cursorId count : Int)
    (decode : Decoder) : Program σ QueryResult :=
  ask (.getMore connection ns cursorId count decode) done

/-- Kills cursors. -/
def killCursors (connection : Connection) (ns : Namespace) (cursorIds : List Int) :
    Program σ Unit :=
  ask (.killCursors connection ns cursorIds) done

/-- Pauses. -/
def pause (length : Duration) : Program σ Unit := ask (.pause length) done

/-- Sends an HTTP request. -/
def http (request : HttpRequest) : Program σ HttpResult := ask (.http request) done

/-! ## Outcomes -/

/-- Makes the outcome of a program a value. -/
def attempt : Program σ α → Program σ (Outcome α)
  | done outcome => done (.ok outcome)
  | read next => read fun s => attempt (next s)
  | write s next => write s (attempt next)
  | note n next => note n (attempt next)
  | ask q next => ask q fun answer => attempt (next answer)

/-- Takes a last step, whatever the outcome; its failure takes precedence. -/
def always (program : Program σ α) (last : Program σ Unit) : Program σ α := do
  let outcome ← program.attempt
  last
  ofOutcome outcome

/-- Takes a step on an ordinary failure. -/
def handle (program : Program σ α) (handler : Failure → Program σ α) : Program σ α := do
  match ← program.attempt with
  | .ok a => return a
  | .error e => if e.isOrdinary then handler e else fail e

/-! ## Running -/

/-- Runs a program on a state of its own, which it yields too. -/
def within (s : τ) : Program τ α → Program σ (α × τ)
  | done (.ok a) => done (.ok (a, s))
  | done (.error e) => done (.error e)
  | read next => within s (next s)
  | write s next => within s next
  | note n next => note n (within s next)
  | ask q next => ask q fun answer => within s (next answer)

/-- Where in a world the state of a program is kept. -/
structure Cell (ω σ : Type) where
  load : ω → σ
  store : σ → ω → ω

/-- The cell of programs without state. -/
def Cell.none (ω : Type) : Cell ω Unit := ⟨fun _ => (), fun _ w => w⟩

/-- How a world takes notices and answers exchanges. -/
structure Interpreter (ω : Type) where
  take : Notice → ω → ω
  answer : (q : Exchange) → ω → Outcome q.Answer × ω

/-- Runs a program on a world. -/
def interpret {ω : Type} (i : Interpreter ω) (cell : Cell ω σ) : Program σ α → ω → Outcome α × ω
  | done outcome, w => (outcome, w)
  | read next, w => interpret i cell (next (cell.load w)) w
  | write s next, w => interpret i cell next (cell.store s w)
  | note n next, w => interpret i cell next (i.take n w)
  | ask q next, w =>
    let (answer, w) := i.answer q w
    interpret i cell (next answer) w

end Program

end DocumentClient
