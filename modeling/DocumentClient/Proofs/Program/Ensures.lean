/-
  What a program ensures.

  An environment says what a world makes of a notice, what must hold of the world
  when a program asks, and how the answer may come: the world may have moved on
  meanwhile.  `Ensures` is the weakest condition on a world from which a program,
  whatever the answers, keeps what the environment demands at every exchange and
  ends as a postcondition says.  It goes through a program step by step, so each
  operation has one rule (`ensures_bind`, `ensures_attempt`, ...).

  `ensures_interpreter`: for the environment of an interpreter, `Ensures` is the
  postcondition of the run.  `interpret_bind`, `interpret_attempt` and
  `interpret_always` give the run itself.
-/
import DocumentClient.Program

namespace DocumentClient.Program

/-- How a world meets a program. -/
structure Environment (ω : Type) where
  /-- What becomes of the world at a notice. -/
  take : Notice → ω → ω
  /-- What must hold when the program asks. -/
  demands : Exchange → ω → Prop
  /-- With which answer, and in which world, the program may go on. -/
  resumes : (q : Exchange) → ω → Outcome q.Answer → ω → Prop

variable {σ τ ω α β : Type}

/-- From a world, a program keeps the demands of an environment and ends in `Q`. -/
def Ensures (env : Environment ω) (cell : Cell ω σ) (Q : Outcome α → ω → Prop) :
    Program σ α → ω → Prop
  | done outcome, w => Q outcome w
  | read next, w => Ensures env cell Q (next (cell.load w)) w
  | write s next, w => Ensures env cell Q next (cell.store s w)
  | note n next, w => Ensures env cell Q next (env.take n w)
  | ask q next, w =>
    env.demands q w ∧ ∀ a w', env.resumes q w a w' → Ensures env cell Q (next a) w'

/-- What follows a program that has ended: the next one if it has succeeded. -/
def Continues (env : Environment ω) (cell : Cell ω σ) (Q : Outcome β → ω → Prop)
    (f : α → Program σ β) : Outcome α → ω → Prop
  | .ok a, w => Ensures env cell Q (f a) w
  | .error e, w => Q (.error e) w

section
variable {env : Environment ω} {cell : Cell ω σ}

/-! ## Single steps -/

section
variable {Q : Outcome α → ω → Prop} {w : ω}

@[simp] theorem ensures_done {outcome : Outcome α} :
    Ensures env cell Q (done outcome) w ↔ Q outcome w := Iff.rfl

@[simp] theorem ensures_pure {a : α} : Ensures env cell Q (pure a) w ↔ Q (.ok a) w := Iff.rfl

@[simp] theorem ensures_fail {e : Failure} :
    Ensures env cell Q (fail e) w ↔ Q (.error e) w := Iff.rfl

@[simp] theorem ensures_ofOutcome {outcome : Outcome α} :
    Ensures env cell Q (ofOutcome outcome) w ↔ Q outcome w := Iff.rfl

@[simp] theorem ensures_ofValid {value : Except Invalid α} :
    Ensures env cell Q (ofValid value) w ↔ Q (Outcome.ofValid value) w := Iff.rfl

end

section
variable {Q : Outcome Unit → ω → Prop} {w : ω}

@[simp] theorem ensures_get {Q : Outcome σ → ω → Prop} :
    Ensures env cell Q get w ↔ Q (.ok (cell.load w)) w := Iff.rfl

@[simp] theorem ensures_set {s : σ} :
    Ensures env cell Q (set s) w ↔ Q (.ok ()) (cell.store s w) := Iff.rfl

@[simp] theorem ensures_modify {f : σ → σ} :
    Ensures env cell Q (modify f) w ↔ Q (.ok ()) (cell.store (f (cell.load w)) w) := Iff.rfl

@[simp] theorem ensures_notify {n : Notice} :
    Ensures env cell Q (notify n) w ↔ Q (.ok ()) (env.take n w) := Iff.rfl

@[simp] theorem ensures_log {level : LogLevel} {message : String} :
    Ensures env cell Q (log level message) w ↔ Q (.ok ()) (env.take (.log level message) w) :=
  Iff.rfl

end

/-! ## Sequencing -/

theorem bind_assoc {γ : Type} {f : α → Program σ β} {g : β → Program σ γ} (p : Program σ α) :
    p >>= f >>= g = p >>= fun a => f a >>= g := by
  induction p with
  | done outcome => cases outcome <;> rfl
  | read next ih => exact congrArg read (funext ih)
  | write s next ih => exact congrArg (write s) ih
  | note n next ih => exact congrArg (note n) ih
  | ask q next ih => exact congrArg (ask q) (funext ih)

theorem ensures_mono {Q Q' : Outcome α → ω → Prop} (hQ : ∀ o w, Q o w → Q' o w) {p : Program σ α} :
    ∀ {w : ω}, Ensures env cell Q p w → Ensures env cell Q' p w := by
  induction p with
  | done outcome => intro w h; exact hQ _ _ h
  | read next ih => intro w h; exact ih _ h
  | write s next ih => intro w h; exact ih h
  | note n next ih => intro w h; exact ih h
  | ask q next ih => intro w h; exact ⟨h.1, fun a w' hr => ih a (h.2 a w' hr)⟩

theorem ensures_and {Q Q' : Outcome α → ω → Prop} {p : Program σ α} : ∀ {w : ω},
    Ensures env cell Q p w → Ensures env cell Q' p w →
      Ensures env cell (fun o w => Q o w ∧ Q' o w) p w := by
  induction p with
  | done outcome => intro w h h'; exact ⟨h, h'⟩
  | read next ih => intro w h h'; exact ih _ h h'
  | write s next ih => intro w h h'; exact ih h h'
  | note n next ih => intro w h h'; exact ih h h'
  | ask q next ih =>
    intro w h h'
    exact ⟨h.1, fun a w' hr => ih a (h.2 a w' hr) (h'.2 a w' hr)⟩

theorem ensures_bind {Q : Outcome β → ω → Prop} {f : α → Program σ β} {p : Program σ α} :
    ∀ {w : ω}, Ensures env cell Q (p >>= f) w ↔ Ensures env cell (Continues env cell Q f) p w := by
  induction p with
  | done outcome => intro w; cases outcome <;> exact Iff.rfl
  | read next ih => intro w; exact ih _
  | write s next ih => intro w; exact ih
  | note n next ih => intro w; exact ih
  | ask q next ih =>
    intro w
    exact and_congr_right fun _ => forall₃_congr fun a w' _ => ih a

theorem ensures_attempt {Q : Outcome (Outcome α) → ω → Prop} {p : Program σ α} : ∀ {w : ω},
    Ensures env cell Q p.attempt w ↔ Ensures env cell (fun o w => Q (.ok o) w) p w := by
  induction p with
  | done outcome => intro w; exact Iff.rfl
  | read next ih => intro w; exact ih _
  | write s next ih => intro w; exact ih
  | note n next ih => intro w; exact ih
  | ask q next ih =>
    intro w
    exact and_congr_right fun _ => forall₃_congr fun a w' _ => ih a

/-! ## Outcomes -/

@[simp] theorem continues_ok {Q : Outcome β → ω → Prop} {f : α → Program σ β} {a : α} {w : ω} :
    Continues env cell Q f (.ok a) w ↔ Ensures env cell Q (f a) w := Iff.rfl

@[simp] theorem continues_error {Q : Outcome β → ω → Prop} {f : α → Program σ β} {e : Failure}
    {w : ω} : Continues env cell Q f (.error e) w ↔ Q (.error e) w := Iff.rfl

/-- A last step is taken in any case, and then the outcome stands. -/
theorem ensures_always {Q : Outcome α → ω → Prop} {p : Program σ α} {last : Program σ Unit}
    {w : ω} :
    Ensures env cell Q (p.always last) w ↔
      Ensures env cell (fun o => Ensures env cell (Continues env cell Q fun _ => ofOutcome o) last)
        p w := by
  rw [always, ensures_bind, ensures_attempt]
  simp only [continues_ok, ensures_bind]

/-- A handler is run on an ordinary failure only. -/
theorem ensures_handle {Q : Outcome α → ω → Prop} {p : Program σ α}
    {handler : Failure → Program σ α} {w : ω} :
    Ensures env cell Q (p.handle handler) w ↔
      Ensures env cell (fun o w => match o with
        | .ok a => Q (.ok a) w
        | .error e => if e.isOrdinary then Ensures env cell Q (handler e) w else Q (.error e) w)
        p w := by
  rw [handle, ensures_bind, ensures_attempt]
  refine iff_of_eq (congrArg (fun Q => Ensures env cell Q p w) ?_)
  funext o w
  rcases o with e | a
  · simp only [continues_ok]
    split <;> rfl
  · rfl

/-! ## States of their own -/

/-- The environment of a program on a state of its own, which nobody else changes. -/
def Environment.beside (env : Environment ω) (τ : Type) : Environment (τ × ω) where
  take n w := (w.1, env.take n w.2)
  demands q w := env.demands q w.2
  resumes q w a w' := w'.1 = w.1 ∧ env.resumes q w.2 a w'.2

/-- Where a state of its own is kept, beside the world. -/
def Cell.own (τ ω : Type) : Cell (τ × ω) τ := ⟨Prod.fst, fun s w => (s, w.2)⟩

@[simp] theorem Cell.own_load (w : τ × ω) : (Cell.own τ ω).load w = w.1 := rfl

@[simp] theorem Cell.own_store (s : τ) (w : τ × ω) : (Cell.own τ ω).store s w = (s, w.2) := rfl

theorem ensures_within {Q : Outcome (α × τ) → ω → Prop} {p : Program τ α} : ∀ {s : τ} {w : ω},
    Ensures env cell Q (within s p) w ↔ Ensures (env.beside τ) (Cell.own τ ω)
      (fun o w => Q (o.map fun a => (a, w.1)) w.2) p (s, w) := by
  induction p with
  | done outcome => intro s w; cases outcome <;> exact Iff.rfl
  | read next ih => intro s w; exact ih _
  | write s next ih => intro _ w; exact ih
  | note n next ih => intro s w; exact ih
  | ask q next ih =>
    intro s w
    refine and_congr_right fun _ => forall_congr' fun a => ⟨fun h => ?_, fun h w' hr => ?_⟩
    · rintro ⟨s', w'⟩ ⟨rfl, hr⟩
      exact (ih a).1 (h w' hr)
    · exact (ih a).2 (h (s, w') ⟨rfl, hr⟩)

/-! ## Interpreters -/

/-- The environment of an interpreter, which demands nothing. -/
def Interpreter.environment (i : Interpreter ω) : Environment ω where
  take := i.take
  demands _ _ := True
  resumes q w a w' := a = (i.answer q w).1 ∧ w' = (i.answer q w).2

/-- **A program ensures what it does.** -/
theorem ensures_interpreter {i : Interpreter ω} {Q : Outcome α → ω → Prop} {p : Program σ α} :
    ∀ {w : ω}, Ensures i.environment cell Q p w ↔
      Q (interpret i cell p w).1 (interpret i cell p w).2 := by
  induction p with
  | done outcome => intro w; exact Iff.rfl
  | read next ih => intro w; exact ih _
  | write s next ih => intro w; exact ih
  | note n next ih => intro w; exact ih
  | ask q next ih =>
    intro w
    constructor
    · intro h
      exact (ih _).1 (h.2 _ _ ⟨rfl, rfl⟩)
    · rintro h
      refine ⟨trivial, ?_⟩
      rintro a w' ⟨rfl, rfl⟩
      exact (ih _).2 h

theorem interpret_bind {i : Interpreter ω} {f : α → Program σ β} {p : Program σ α} : ∀ {w : ω},
    interpret i cell (p >>= f) w = match interpret i cell p w with
      | (.ok a, w') => interpret i cell (f a) w'
      | (.error e, w') => (.error e, w') := by
  induction p with
  | done outcome => intro w; cases outcome <;> rfl
  | read next ih => intro w; exact ih _
  | write s next ih => intro w; exact ih
  | note n next ih => intro w; exact ih
  | ask q next ih => intro w; exact ih _

theorem interpret_attempt {i : Interpreter ω} {p : Program σ α} : ∀ {w : ω},
    interpret i cell p.attempt w
      = (.ok (interpret i cell p w).1, (interpret i cell p w).2) := by
  induction p with
  | done outcome => intro w; rfl
  | read next ih => intro w; exact ih _
  | write s next ih => intro w; exact ih
  | note n next ih => intro w; exact ih
  | ask q next ih => intro w; exact ih _

/-- A last step is taken in any case, and then the outcome stands. -/
theorem interpret_always {i : Interpreter ω} {p : Program σ α} {last : Program σ Unit} {w : ω} :
    interpret i cell (p.always last) w = match interpret i cell last (interpret i cell p w).2 with
      | (.ok _, w') => ((interpret i cell p w).1, w')
      | (.error e, w') => (.error e, w') := by
  rw [always, interpret_bind, interpret_attempt]
  dsimp only
  rw [interpret_bind]
  rcases interpret i cell last (interpret i cell p w).2 with ⟨_ | _, w'⟩ <;> rfl

end

end DocumentClient.Program
