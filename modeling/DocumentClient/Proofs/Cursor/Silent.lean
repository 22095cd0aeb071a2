/-
  Activities that ask for nothing.

  A program is silent if it comes to its end without an exchange.  Nobody acts in between,
  so what it leaves can be said outright, in any protocol (`holds_of_silent`) and of any
  life (`proceed_of_silent`).

  An asynchronous cursor is made and closed in silence: `dismissed` is what becomes of its
  server cursor, `started` and `shutBy` are the moments after.  So only its retrievals and
  its scheduled kills ever wait (`waits_of_reaches`).
-/
import DocumentClient.Proofs.Cursor.Interleaved
import DocumentClient.Proofs.Cursor.Loans

namespace DocumentClient.Cursor

open Program (Ensures Environment)

/-- The environment of programs that ask for nothing. -/
def silence : Environment Moment where
  take n m := m.record (.noticed n)
  demands _ _ := False
  resumes _ _ _ _ := False

/-- From a moment on, a program comes to its end without an exchange. -/
abbrev Silent {α : Type} (Q : Outcome α → Moment → Prop) (p : Program Cursor α) (m : Moment) :
    Prop :=
  Ensures silence Moment.cell Q p m

variable {α : Type} {Q : Outcome α → Moment → Prop} {p : Program Cursor α} {m : Moment}

/-! ## What silence means -/

/-- Others do not act, so the promises of a protocol are due at the end only. -/
theorem holds_of_silent {protocol : Protocol} {absorbing : Bool} (since : Moment) :
    ∀ {m : Moment}, Silent Q p m →
      protocol.Holds absorbing (fun o w' => w'.since = since ∧ Q o w'.now) p ⟨since, m⟩ := by
  induction p with
  | done outcome => intro m h; exact ⟨rfl, h⟩
  | read next ih => intro m h; exact ih _ h
  | write c next ih => intro m h; exact ih h
  | note n next ih => intro m h; exact ih h
  | ask q next ih => intro m h; exact h.1.elim

/-- A silent activity is over at once. -/
theorem proceed_of_silent (a : Activity) (ts : List Thread) {p : Program Cursor Yield}
    {Q : Outcome Yield → Moment → Prop} : ∀ {m : Moment}, Silent Q p m →
      ∃ o m', Q o m' ∧ Life.proceed a ts p m = ⟨m'.record (.ended a o), ts⟩ := by
  induction p with
  | done outcome => intro m h; exact ⟨outcome, m, h, rfl⟩
  | read next ih => intro m h; exact ih _ h
  | write c next ih => intro m h; exact ih h
  | note n next ih => intro m h; exact ih h
  | ask q next ih => intro m h; exact h.1.elim

/-- An activity that yields nothing is silent if what it does is. -/
theorem silent_yield {p : Program Cursor Unit} {m m' : Moment}
    (h : Silent (fun o m₁ => o = .ok () ∧ m₁ = m') p m) :
    Silent (fun o m₁ => o = .ok .nothing ∧ m₁ = m') (do p; return Yield.nothing) m := by
  refine Program.ensures_bind.2 (Program.ensures_mono ?_ h)
  rintro _ _ ⟨rfl, rfl⟩
  exact ⟨rfl, rfl⟩

/-! ## Giving a server cursor up -/

/-- The moment after the kill of the server cursor was scheduled, or left out. -/
def Moment.dismissed (loopRuns : Bool) (m : Moment) : Moment :=
  match m.cursor.progress.serverCursor with
  | none => m.settled
  | some target =>
    if loopRuns then m.put { m.cursor.forget with cleanups := m.cursor.cleanups ++ [target] }
    else ((m.put m.cursor.forget).record (.noticed (killSkipped target))).settled

theorem silent_releaseResources :
    Silent (fun o m' => o = .ok () ∧ m' = m.settled) releaseResources m := by
  refine ensures_releaseResources.2 ⟨rfl, ?_⟩
  exact Moment.settle_eq rfl m

theorem silent_scheduleCleanup (loopRuns : Bool) :
    Silent (fun o m' => o = .ok () ∧ m' = m.dismissed loopRuns) (scheduleCleanup loopRuns) m := by
  simp only [scheduleCleanup, Program.ensures_bind, Program.ensures_get, Program.continues_ok,
    Moment.cell_load]
  rcases hs : m.cursor.progress.serverCursor with _ | target
  · have heq : m.dismissed loopRuns = m.settled := by simp [Moment.dismissed, hs]
    rw [heq]
    exact silent_releaseResources
  · simp only [Program.ensures_bind, Program.ensures_modify, Program.continues_ok]
    rcases loopRuns with _ | _
    · have heq : m.dismissed false
          = ((m.put m.cursor.forget).record (.noticed (killSkipped target))).settled := by
        simp [Moment.dismissed, hs]
      rw [heq]
      exact Program.ensures_bind.2 silent_releaseResources
    · exact ⟨rfl, by simp [Moment.dismissed, hs, Moment.put, forget]⟩

/-! ## Closing -/

/-- The moment after an asynchronous cursor was closed. -/
def Moment.shutBy (loopRuns : Bool) (m : Moment) : Moment :=
  if m.cursor.closed then m else (m.put { m.cursor with closed := true }).dismissed loopRuns

theorem silent_close (hmode : m.cursor.mode = .async) (loopRuns : Bool) :
    Silent (fun o m' => o = .ok () ∧ m' = m.shutBy loopRuns) (close loopRuns) m := by
  simp only [close, Program.ensures_bind, Program.ensures_get, Program.continues_ok,
    Moment.cell_load, hmode]
  split
  · rename_i hc
    exact ⟨rfl, by simp [Moment.shutBy, hc]⟩
  · rename_i hc
    simp only [Program.ensures_bind, Program.ensures_modify, Program.continues_ok]
    have heq : m.shutBy loopRuns = (m.put { m.cursor with closed := true }).dismissed loopRuns := by
      simp [Moment.shutBy, hc]
    rw [heq]
    exact silent_scheduleCleanup loopRuns

/-- The moment after an asynchronous cursor was given up. -/
def Moment.abandoned (m : Moment) : Failure → Moment
  | .cursorMissing _ _ => (m.put m.cursor.forget).shutBy true
  | .cancelled => m
  | _ => m.shutBy true

theorem silent_giveUp (hmode : m.cursor.mode = .async) (e : Failure) :
    Silent (fun o m' => o = .ok () ∧ m' = m.abandoned e) (giveUp e) m := by
  cases e with
  | cursorMissing id address => exact silent_close (m := m.put m.cursor.forget) hmode true
  | cancelled => exact ⟨rfl, rfl⟩
  | _ => exact silent_close hmode true

/-- A cursor is closed at once. -/
theorem begin_close {l : Life} (hmode : l.moment.cursor.mode = .async) (loopRuns : Bool) :
    l.begin (.close loopRuns)
      = ⟨((l.moment.record (.begun (.close loopRuns))).shutBy loopRuns).record
          (.ended (.close loopRuns) (.ok .nothing)), l.threads⟩ := by
  obtain ⟨o, m', ⟨rfl, rfl⟩, heq⟩ := proceed_of_silent (.close loopRuns) l.threads
    (silent_yield (silent_close (m := l.moment.record (.begun (.close loopRuns))) hmode loopRuns))
  exact heq

/-! ## Making -/

/-- The moment after the first batch was absorbed. -/
def Moment.absorbed (first : QueryResult) (m : Moment) : Moment :=
  let after := m.cursor.progress.advance m.cursor.limit m.cursor.batchSize first
  ⟨{ m.cursor with progress := after.1 }, (dropRecords after.2).reverse.map .noticed ++ m.history⟩

/-- What the first batch asks a cursor to do. -/
def Moment.firstVerdict (first : QueryResult) (m : Moment) : Verdict :=
  (m.cursor.progress.advance m.cursor.limit m.cursor.batchSize first).2

/-- The moment after an asynchronous cursor was made. -/
def Moment.started (first : QueryResult) (loopRuns : Bool) (m : Moment) : Moment :=
  match (m.firstVerdict first).followUp with
  | .nothing => m.absorbed first
  | .release => (m.absorbed first).settled
  | .kill => (m.absorbed first).dismissed loopRuns

theorem silent_absorb (first : QueryResult) :
    Silent (fun o m' => o = .ok (m.firstVerdict first) ∧ m' = m.absorbed first)
      (absorb first) m := by
  refine (ensures_absorb_iff rfl).2 ⟨rfl, ?_⟩
  have hfold : ∀ ns : List Notice, ns.foldl (fun m n => silence.take n m) m
      = ⟨m.cursor, ns.reverse.map .noticed ++ m.history⟩ := fun ns => Moment.foldl_record ns m
  rw [hfold]
  rfl

theorem silent_start (first : QueryResult) (loopRuns : Bool) (hsilent : m.cursor.mode = .async ∨
      (m.firstVerdict first).followUp ≠ .kill) :
    Silent (fun o m' => o = .ok () ∧ m' = m.started first loopRuns) (start first loopRuns) m := by
  refine Program.ensures_bind.2 (Program.ensures_mono ?_ (silent_absorb first))
  rintro _ _ ⟨rfl, rfl⟩
  simp only [Program.ensures_bind, Program.ensures_get, Program.continues_ok, Moment.cell_load]
  split
  · rename_i hv
    exact ⟨rfl, by simp [Moment.started, hv]⟩
  · rename_i hv
    have heq : m.started first loopRuns = (m.absorbed first).settled := by
      simp [Moment.started, hv]
    rw [heq]
    exact silent_releaseResources
  · rename_i hv hblocking
    have hmode : m.cursor.mode = .blocking := hblocking
    simp [hv, hmode] at hsilent
  · rename_i hv _
    have heq : m.started first loopRuns = (m.absorbed first).dismissed loopRuns := by
      simp [Moment.started, hv]
    rw [heq]
    exact silent_scheduleCleanup loopRuns

/-- Where a cursor is made in silence, its life begins right after. -/
theorem opening_eq {c : Cursor} {first : QueryResult} {loopRuns : Bool}
    (hsilent : c.mode = .async ∨
      ((⟨c, []⟩ : Moment).firstVerdict first).followUp ≠ .kill) :
    Life.opening c first loopRuns
      = ⟨((⟨c, [.begun (.opening first loopRuns)]⟩ : Moment).started first loopRuns).record
          (.ended (.opening first loopRuns) (.ok .nothing)), []⟩ := by
  obtain ⟨o, m', ⟨rfl, rfl⟩, heq⟩ := proceed_of_silent (.opening first loopRuns) []
    (silent_yield (silent_start (m := ⟨c, [.begun (.opening first loopRuns)]⟩) first loopRuns
      hsilent))
  exact heq

/-! ## Waiting -/

section
variable {r : Regime} {c : Cursor} {first : QueryResult} {loopRuns : Bool} {l : Life}

/-- A cursor keeps what it was made with. -/
theorem setup_of_reaches (hl : Life.Reaches r (Life.opening c first loopRuns) l) :
    l.moment.cursor.setup = c.setup := by
  have hsound : (loans c.setup 0).Sound r := sound_loans
  exact (hsound.shared_of_reaches rfl hl).setup

/-- A retrieval or a scheduled kill. -/
def Thread.Waits (t : Thread) : Prop := t.activity.isRetrieval ∨ t.activity.isCleanup

theorem waits_proceed {a : Activity} {ts : List Thread} (ha : a.isRetrieval ∨ a.isCleanup)
    (h : ∀ t ∈ ts, t.Waits) {p : Program Cursor Yield} :
    ∀ {m : Moment}, ∀ t ∈ (Life.proceed a ts p m).threads, t.Waits := by
  induction p with
  | done outcome => exact h
  | read next ih => exact ih _
  | write c next ih => exact ih
  | note n next ih => exact ih
  | ask q next ih =>
    intro m t ht
    rcases List.mem_cons.1 ht with rfl | ht
    · exact ha
    · exact h t ht

theorem waits_begin (hmode : l.moment.cursor.mode = .async) (h : ∀ t ∈ l.threads, t.Waits)
    {a : Activity} (ha : a.isOpening = false) : ∀ t ∈ (l.begin a).threads, t.Waits := by
  cases a with
  | opening first loopRuns => cases ha
  | hasNext rounds => exact waits_proceed (.inl rfl) h
  | next rounds => exact waits_proceed (.inl rfl) h
  | tryNext => exact waits_proceed (.inl rfl) h
  | cleanup target => exact waits_proceed (.inr rfl) h
  | close loopRuns =>
    rw [begin_close hmode]
    exact h
  | interrupt => exact h
  | setBatchSize n => exact h

/-- Of an asynchronous cursor only retrievals and scheduled kills wait. -/
theorem waits_of_reaches (hc : c.mode = .async)
    (hl : Life.Reaches r (Life.opening c first loopRuns) l) : ∀ t ∈ l.threads, t.Waits := by
  induction hl with
  | refl =>
    rw [opening_eq (.inl hc)]
    exact fun t ht => absurd ht List.not_mem_nil
  | @tail l l' hl hstep ih =>
    have hmode : l.moment.cursor.mode = .async :=
      (congrArg Setup.mode (setup_of_reaches hl)).trans hc
    cases hstep with
    | @call _ a h =>
      exact waits_begin hmode ih (Activity.isOpening_of_isOperation h.operation)
    | @run _ before after target _ =>
      exact waits_begin (l := l.unscheduled (before ++ after)) hmode ih rfl
    | @resume m before after a q next x _ _ =>
      exact waits_proceed (ih ⟨a, .ask q next⟩ (by simp)) fun t ht => ih t (Thread.mem_beside _ ht)

end

end DocumentClient.Cursor
