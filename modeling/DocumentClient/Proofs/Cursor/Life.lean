/-
  The life of a cursor.

  A cursor lives from its making on.  What is done with it are activities: its
  making, the operations of its callers, and the kills it has scheduled itself.  An
  activity runs without a break up to its next exchange; there it waits as a thread,
  and until the answer comes others may act.  A life is the present moment of the
  cursor (its state, and the history of all that has happened) together with the
  threads that wait.

  A regime says which operations are called, which answers may come, and whether the
  threads are nested, as callers are that run to their end inside an exchange of
  another, or go on in any order, as tasks do.  There is at most one retrieval at a
  time, and none before the cursor is made.
-/
import DocumentClient.Cursor.Create
import DocumentClient.Cursor.Retrieve
import Mathlib.Logic.Relation

namespace DocumentClient.Cursor

/-! ## Activities -/

/-- What is done with a cursor. -/
inductive Activity where
  /-- Its making, from the first batch. -/
  | opening (first : QueryResult) (loopRuns : Bool)
  | hasNext (rounds : Nat)
  | next (rounds : Nat)
  | tryNext
  | close (loopRuns : Bool)
  | interrupt
  | setBatchSize (n : Int)
  /-- A kill that the cursor has scheduled. -/
  | cleanup (target : ServerCursor)

/-- What an activity yields. -/
inductive Yield where
  | nothing
  | availability (a : Availability)
  | retrieval (r : Retrieval)
  | attempted (batch : Option (List Value))

namespace Activity

/-- What an activity does. -/
def program : Activity → Program Cursor Yield
  | opening first loopRuns => do start first loopRuns; return .nothing
  | hasNext rounds => do return .availability (← Cursor.hasNext rounds)
  | next rounds => do return .retrieval (← Cursor.next rounds)
  | tryNext => do return .attempted (← Cursor.tryNext)
  | close loopRuns => do Cursor.close loopRuns; return .nothing
  | interrupt => do Cursor.interrupt; return .nothing
  | setBatchSize n => do Cursor.setBatchSize n; return .nothing
  | cleanup target => do Cursor.cleanup target; return .nothing

/-- Whether an activity retrieves batches. -/
def isRetrieval : Activity → Bool
  | hasNext _ | next _ | tryNext => true
  | _ => false

/-- Whether an activity makes the cursor. -/
def isOpening : Activity → Bool
  | opening _ _ => true
  | _ => false

/-- Whether an activity is a scheduled kill. -/
def isCleanup : Activity → Bool
  | cleanup _ => true
  | _ => false

/-- Whether an activity is an operation that callers call. -/
def isOperation (a : Activity) : Bool := !a.isOpening && !a.isCleanup

theorem isOpening_of_isOperation {a : Activity} (ha : a.isOperation) : a.isOpening = false := by
  simp only [isOperation, Bool.and_eq_true, Bool.not_eq_true'] at ha
  exact ha.1

theorem isCleanup_of_isOperation {a : Activity} (ha : a.isOperation) : a.isCleanup = false := by
  simp only [isOperation, Bool.and_eq_true, Bool.not_eq_true'] at ha
  exact ha.2

/-- The operations, one by one. -/
@[elab_as_elim]
theorem operation_cases {motive : (a : Activity) → a.isOperation → Prop}
    (hasNext : ∀ rounds, motive (.hasNext rounds) rfl)
    (next : ∀ rounds, motive (.next rounds) rfl) (tryNext : motive .tryNext rfl)
    (close : ∀ loopRuns, motive (.close loopRuns) rfl) (interrupt : motive .interrupt rfl)
    (setBatchSize : ∀ n, motive (.setBatchSize n) rfl) (a : Activity) (ha : a.isOperation) :
    motive a ha := by
  cases a with
  | opening first loopRuns => cases ha
  | hasNext rounds => exact hasNext rounds
  | next rounds => exact next rounds
  | tryNext => exact tryNext
  | close loopRuns => exact close loopRuns
  | interrupt => exact interrupt
  | setBatchSize n => exact setBatchSize n
  | cleanup target => cases ha

/-- The operations that retrieve batches, one by one. -/
@[elab_as_elim]
theorem retrieval_cases {motive : (a : Activity) → a.isRetrieval → Prop}
    (hasNext : ∀ rounds, motive (.hasNext rounds) rfl)
    (next : ∀ rounds, motive (.next rounds) rfl) (tryNext : motive .tryNext rfl)
    (a : Activity) (ha : a.isRetrieval) : motive a ha := by
  cases a with
  | hasNext rounds => exact hasNext rounds
  | next rounds => exact next rounds
  | tryNext => exact tryNext
  | _ => cases ha

theorem isOperation_of_isRetrieval {a : Activity} (ha : a.isRetrieval) : a.isOperation := by
  cases a, ha using retrieval_cases <;> rfl

end Activity

/-! ## Histories -/

/-- What happens in the life of a cursor. -/
inductive Incident where
  | begun (a : Activity)
  | asked (q : Exchange)
  /-- An answer has come, and the cursor was open or not. -/
  | answered (q : Exchange) (answer : Outcome q.Answer) (wasOpen : Bool)
  | noticed (n : Notice)
  | ended (a : Activity) (outcome : Outcome Yield)

/-- Whether an activity has begun. -/
def Incident.begins (p : Activity → Bool) : Incident → Bool
  | .begun a => p a
  | _ => false

/-- Whether an activity has ended. -/
def Incident.ends (p : Activity → Bool) : Incident → Bool
  | .ended a _ => p a
  | _ => false

/-- A cursor at some time, and what has happened so far, the latest first. -/
structure Moment where
  cursor : Cursor
  history : List Incident := []

namespace Moment

/-- Where the cursor of a moment is kept. -/
def cell : Program.Cell Moment Cursor where
  load := cursor
  store c m := { m with cursor := c }

/-- What has happened becomes history. -/
def record (i : Incident) (m : Moment) : Moment := { m with history := i :: m.history }

/-- An answer has come. -/
def answer (q : Exchange) (x : Outcome q.Answer) (m : Moment) : Moment :=
  m.record (.answered q x (!m.cursor.closed))

/-- The same moment with another state of the cursor. -/
def put (c : Cursor) (m : Moment) : Moment := { m with cursor := c }

@[simp] theorem cell_load (m : Moment) : cell.load m = m.cursor := rfl

@[simp] theorem cell_store (c : Cursor) (m : Moment) : cell.store c m = m.put c := rfl

@[simp] theorem put_cursor (c : Cursor) (m : Moment) : (m.put c).cursor = c := rfl

@[simp] theorem put_history (c : Cursor) (m : Moment) : (m.put c).history = m.history := rfl

@[simp] theorem record_cursor (i : Incident) (m : Moment) : (m.record i).cursor = m.cursor := rfl

@[simp] theorem record_history (i : Incident) (m : Moment) :
    (m.record i).history = i :: m.history := rfl

@[simp] theorem answer_cursor (q : Exchange) (x : Outcome q.Answer) (m : Moment) :
    (m.answer q x).cursor = m.cursor := rfl

/-- Where closing is for good, a cursor that is open now was open before. -/
theorem open_of_open {m m' : Moment} (h : m.cursor.closed → m'.cursor.closed)
    (hc : m'.cursor.closed = false) : m.cursor.closed = false := by
  by_cases hm : m.cursor.closed
  · exact absurd (h hm) (by simp [hc])
  · exact eq_false_of_ne_true hm

/-- How many activities have begun. -/
def begun (p : Activity → Bool) (m : Moment) : Nat := m.history.countP (Incident.begins p)

/-- How many activities have ended. -/
def ended (p : Activity → Bool) (m : Moment) : Nat := m.history.countP (Incident.ends p)

theorem record_begun (i : Incident) (p : Activity → Bool) (m : Moment) :
    (m.record i).begun p = m.begun p + if i.begins p then 1 else 0 :=
  List.countP_cons

theorem record_ended (i : Incident) (p : Activity → Bool) (m : Moment) :
    (m.record i).ended p = m.ended p + if i.ends p then 1 else 0 :=
  List.countP_cons

end Moment

/-! ## Lives -/

/-- An activity that waits for an answer, and what it does then. -/
structure Thread where
  activity : Activity
  rest : Program Cursor Yield

/-- The threads that wait beside another. -/
theorem Thread.mem_beside {before after : List Thread} {t : Thread} (u : Thread)
    (ht : t ∈ before ++ after) : t ∈ before ++ u :: after :=
  ((List.sublist_cons_self u after).append_left before).mem ht

/-- A cursor and the threads that wait, the latest first. -/
structure Life where
  moment : Moment
  threads : List Thread

/-- How a life goes on. -/
structure Regime where
  /-- Whether only the latest thread goes on. -/
  nested : Bool
  /-- Which operations are called. -/
  offers : Activity → Prop
  /-- Which answers come. -/
  admits : (q : Exchange) → Outcome q.Answer → Prop

namespace Life

/-- Goes on with an activity up to its next exchange or to its end. -/
def proceed (a : Activity) (threads : List Thread) : Program Cursor Yield → Moment → Life
  | .done outcome, m => ⟨m.record (.ended a outcome), threads⟩
  | .read next, m => proceed a threads (next m.cursor) m
  | .write c next, m => proceed a threads next { m with cursor := c }
  | .note n next, m => proceed a threads next (m.record (.noticed n))
  | .ask q next, m => ⟨m.record (.asked q), ⟨a, .ask q next⟩ :: threads⟩

/-- Begins an activity. -/
def begin (a : Activity) (l : Life) : Life :=
  proceed a l.threads a.program (l.moment.record (.begun a))

/-- The life of a cursor that is being made. -/
def opening (c : Cursor) (first : QueryResult) (loopRuns : Bool) : Life :=
  begin (.opening first loopRuns) ⟨⟨c, []⟩, []⟩

/-- The life in which a scheduled kill is taken off the schedule. -/
def unscheduled (cleanups : List ServerCursor) (l : Life) : Life :=
  { l with moment := { l.moment with cursor := { l.moment.cursor with cleanups := cleanups } } }

/-- Whether an operation may be called now. -/
structure MayCall (r : Regime) (a : Activity) (l : Life) : Prop where
  offered : r.offers a
  operation : a.isOperation
  made : ∀ t ∈ l.threads, t.activity.isOpening = false
  single : a.isRetrieval → if r.nested then l.threads = []
    else ∀ t ∈ l.threads, t.activity.isRetrieval = false

/-- One step of a life: an operation is called, a scheduled kill begins, or an answer
    comes. -/
inductive Step (r : Regime) : Life → Life → Prop where
  | call {l : Life} {a : Activity} (h : MayCall r a l) : Step r l (l.begin a)
  | run {l : Life} {before after : List ServerCursor} {target : ServerCursor}
      (h : l.moment.cursor.cleanups = before ++ target :: after) :
      Step r l ((l.unscheduled (before ++ after)).begin (.cleanup target))
  | resume {m : Moment} {before after : List Thread} {a : Activity} {q : Exchange}
      {next : Outcome q.Answer → Program Cursor Yield} {x : Outcome q.Answer}
      (order : r.nested → before = []) (h : r.admits q x) :
      Step r ⟨m, before ++ ⟨a, .ask q next⟩ :: after⟩
        (proceed a (before ++ after) (next x) (m.answer q x))

/-- Which lives can come of another. -/
def Reaches (r : Regime) : Life → Life → Prop := Relation.ReflTransGen (Step r)

/-! ## Activities under way -/

section
variable {p : Activity → Bool}

/-- As many activities have begun as have ended and are under way. -/
def Counted (p : Activity → Bool) (l : Life) : Prop :=
  l.moment.begun p = l.moment.ended p + l.threads.countP (p ·.activity)

theorem counted_proceed {a : Activity} {ts : List Thread} {program : Program Cursor Yield} :
    ∀ {m : Moment}, m.begun p = m.ended p + ts.countP (p ·.activity) + (if p a then 1 else 0) →
      (proceed a ts program m).Counted p := by
  induction program with
  | done outcome =>
    intro m h
    rcases hp : p a with _ | _ <;>
      simp [Counted, proceed, Moment.record_begun, Moment.record_ended, Incident.begins,
        Incident.ends, hp] at h ⊢ <;> omega
  | read next ih => intro m h; exact ih _ h
  | write c next ih => intro m h; exact ih h
  | note n next ih =>
    intro m h
    exact ih (by simpa [Moment.record_begun, Moment.record_ended, Incident.begins, Incident.ends])
  | ask q next ih =>
    intro m h
    rcases hp : p a with _ | _ <;>
      simp [Counted, proceed, Moment.record_begun, Moment.record_ended, Incident.begins,
        Incident.ends, hp] at h ⊢ <;> omega

theorem counted_begin {l : Life} (h : l.Counted p) (a : Activity) : (l.begin a).Counted p := by
  refine counted_proceed ?_
  rcases hp : p a with _ | _ <;>
    simp [Counted, Moment.record_begun, Moment.record_ended, Incident.begins, Incident.ends, hp]
      at h ⊢ <;> omega

theorem counted_step {r : Regime} {l l' : Life} (hs : Step r l l') (h : l.Counted p) :
    l'.Counted p := by
  cases hs with
  | call _ => exact counted_begin h _
  | @run _ before after target _ =>
    exact counted_begin (l := unscheduled (before ++ after) l) h (.cleanup target)
  | @resume m before after a q next x order hx =>
    refine counted_proceed ?_
    rcases hp : p a with _ | _ <;>
      simp [Counted, Moment.answer, Moment.record_begun, Moment.record_ended, Incident.begins,
        Incident.ends, hp] at h ⊢ <;> omega

theorem counted_of_reaches {r : Regime} {c : Cursor} {first : QueryResult} {loopRuns : Bool}
    {l : Life} (hl : Reaches r (opening c first loopRuns) l) : l.Counted p := by
  induction hl with
  | refl => exact counted_begin (l := ⟨⟨c, []⟩, []⟩) rfl _
  | tail _ hstep ih => exact counted_step hstep ih

end

/-! ## Runs -/

/-- The life in which the latest thread goes on with an answer. -/
def respond (answers : (q : Exchange) → Outcome q.Answer) : Life → Life
  | ⟨m, ⟨a, .ask q next⟩ :: after⟩ => proceed a after (next (answers q)) (m.answer q (answers q))
  | l => l

variable {r : Regime} {l₀ l : Life}

theorem Reaches.begin (h : Reaches r l₀ l) {a : Activity} (ha : MayCall r a l) :
    Reaches r l₀ (l.begin a) := .tail h (.call ha)

theorem Reaches.respond (h : Reaches r l₀ l) (answers : (q : Exchange) → Outcome q.Answer)
    (ha : ∀ q, r.admits q (answers q)) : Reaches r l₀ (l.respond answers) := by
  obtain ⟨m, _ | ⟨⟨a, p⟩, after⟩⟩ := l
  · exact h
  · cases p with
    | ask q next =>
      have hstep : Step r ⟨m, [] ++ ⟨a, .ask q next⟩ :: after⟩ _ := .resume (fun _ => rfl) (ha q)
      exact .tail h hstep
    | _ => exact h

end Life

/-- A world in which everything goes well, and each fetch brings the last document. -/
def obliging : (q : Exchange) → Outcome q.Answer
  | .source _ => .ok ⟨0⟩
  | .lease _ => .ok ⟨1, { address := {}, version := [3, 0] }⟩
  | .command .. => .ok .null
  | .getMore _ ns _ _ _ => .ok ⟨ns, [.int 2], 0, {}⟩
  | .killCursors .. => .ok ()
  | .pause _ => .ok ()
  | .http _ => .ok (.timeout .read "")

theorem obliging_ok (q : Exchange) : ∃ x, obliging q = .ok x := by
  cases q <;> exact ⟨_, rfl⟩

/-- A world in which a fetch brings a document, and the server cursor stays alive. -/
def lively : (q : Exchange) → Outcome q.Answer
  | .getMore _ ns _ _ _ => .ok ⟨ns, [.int 2], 7, {}⟩
  | q => obliging q

/-- A plan with a source of its own, after one document of possibly more. -/
def Plan.sample (limit : Int) : Plan where
  first := ⟨⟨"library", "books", by decide, by decide⟩, [.int 1], 7, {}⟩
  limit := limit
  source := some ⟨.owned, ⟨0⟩⟩

/-- The cursor of that plan. -/
def sample (mode : Mode) (limit : Int) : Cursor where
  mode := mode
  ns := (Plan.sample limit).first.ns
  address := {}
  limit := limit
  batchSize := 0
  decode := Decoder.document
  maxTimeMs := 0
  settings := .default
  source := some ⟨.owned, ⟨0⟩⟩
  connection := none

theorem ofPlan_sample (mode : Mode) (limit : Int) :
    ofPlan mode (.sample limit) = .ok (sample mode limit) := rfl

end DocumentClient.Cursor
