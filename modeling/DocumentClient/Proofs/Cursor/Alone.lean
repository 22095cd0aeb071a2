/-
  Operations that nobody disturbs.

  Where calls take turns, an operation that waits is alone: nothing else waits, and no kill
  is scheduled, since a cursor that has given its server cursor up asks for nothing any
  more.  `alone` is the environment of such an operation.  It waits with an intact cursor,
  and leaves one that is intact as long as it holds a server cursor (`alone_program`).

  `poised_of_takesTurns`: so either one operation waits, or scheduled kills at most.  A life
  of that kind is one of those in `regime` if no exchange is cancelled and the loop of an
  asynchronous cursor runs (`reaches_of_takesTurns`).
-/
import DocumentClient.Proofs.Cursor.Delivery
import DocumentClient.Proofs.Cursor.Terminal

namespace DocumentClient.Cursor

open Program (Ensures Environment)

variable {c : Cursor} {m m' : Moment} {a : Activity} {loopRuns : Bool}

/-! ## Waiting alone -/

/-- A cursor that is open, has its resources, and has no kill scheduled. -/
structure Intact (c : Cursor) : Prop where
  isOpen : c.closed = false
  unreleased : c.released = false
  unscheduled : c.cleanups = []

/-- A cursor is intact as long as it holds a server cursor. -/
def Keen (c : Cursor) : Prop := c.progress.serverCursor.isSome → Intact c

/-- What holds of a cursor that asks: it fetches from its server cursor while no batch is at
    hand. -/
structure Asks (q : Exchange) (c : Cursor) : Prop where
  intact : Intact c
  fetches : isFetch q → c.progress.serverCursor.isSome ∧ c.progress.nextBatch = none

/-- The environment of an activity whose exchanges are answered at once, and that asks where it
    may. -/
def answering (mayAsk : Exchange → Moment → Prop) : Environment Moment where
  take n m := m.record (.noticed n)
  demands := mayAsk
  resumes q m x m' := m' = (m.record (.asked q)).answer q x

/-- The environment of an operation beside which nothing goes on. -/
def alone : Environment Moment := answering fun q m => Asks q m.cursor

/-- What an operation ensures that nobody disturbs. -/
abbrev Alone {α : Type} (Q : Outcome α → Moment → Prop) (p : Program Cursor α) (m : Moment) :
    Prop :=
  Ensures alone Moment.cell Q p m

theorem keen_of_none (hs : c.progress.serverCursor = none) : Keen c :=
  fun h => by simp [hs] at h

theorem Intact.keen (h : Intact c) : Keen c := fun _ => h

/-- An operation that asks for nothing is not disturbed. -/
theorem alone_of_silent {α : Type} {Q : Outcome α → Moment → Prop} {p : Program Cursor α} :
    ∀ {m : Moment}, Silent Q p m → Alone Q p m := by
  induction p with
  | done outcome => exact fun h => h
  | read next ih => exact fun h => ih _ h
  | write c next ih => exact fun h => ih h
  | note n next ih => exact fun h => ih h
  | ask q next ih => exact fun h => h.1.elim

/-- A silent program adds nothing but notices to the history. -/
theorem silent_notices {α : Type} {Q : Outcome α → Moment → Prop} {p : Program Cursor α} :
    ∀ {m : Moment}, Silent Q p m → Silent (fun o m' => Q o m' ∧
      ∃ ns : List Notice, m'.history = ns.map .noticed ++ m.history) p m := by
  induction p with
  | done outcome => exact fun h => ⟨h, [], rfl⟩
  | read next ih => exact fun h => ih _ h
  | write c next ih => exact fun {m} h => ih (m := m.put c) h
  | note n next ih =>
    intro m h
    refine Program.ensures_mono ?_ (ih h)
    rintro o m' ⟨hQ, ns, hhistory⟩
    refine ⟨hQ, ns ++ [n], ?_⟩
    rw [hhistory, List.map_append, List.append_assoc]
    rfl
  | ask q next ih => exact fun h => h.1.elim

/-! ## Giving up -/

/-- What implies that a cursor is intact survives all exchanges but fetches. -/
theorem undisturbed_alone {R : Cursor → Prop} (hR : ∀ c, R c → Intact c) :
    Undisturbed alone Moment.cell (fun m => R m.cursor) where
  ask q m hq h := by
    refine ⟨⟨hR _ h, fun hf => by simp [hq] at hf⟩, ?_⟩
    rintro x _ rfl
    exact h
  log _ _ _ h := h
  giveBack _ _ _ _ _ h := h

theorem Intact.alone_killHeld (h : Intact m.cursor) (given : Option Connection) :
    Alone (fun _ m' => Intact m'.cursor ∧ m'.cursor.progress.serverCursor = none)
      (killHeld given) m :=
  (undisturbed_alone (R := fun c => Intact c ∧ c.progress.serverCursor = none)
    fun _ h => h.1).ensures_killHeld ⟨⟨h.isOpen, h.unreleased, h.unscheduled⟩, rfl⟩
      (fun hs => ⟨h, hs⟩) given

theorem Moment.settled_serverCursor (m : Moment) :
    m.settled.cursor.progress.serverCursor = m.cursor.progress.serverCursor := by
  rw [settled_cursor]

theorem Moment.dismissed_serverCursor (loopRuns : Bool) (m : Moment) :
    (m.dismissed loopRuns).cursor.progress.serverCursor = none := by
  unfold dismissed
  split
  · rename_i hs
    rw [settled_serverCursor, hs]
  · split
    · rfl
    · rw [settled_serverCursor]
      rfl

/-- A cursor that releases its resources keeps its progress. -/
theorem alone_releaseResources :
    Alone (fun o m' => o = .ok () ∧ m' = m.settled) releaseResources m :=
  alone_of_silent silent_releaseResources

theorem Intact.alone_close (h : Intact m.cursor) (loopRuns : Bool) :
    Alone (fun _ m' => m'.cursor.progress.serverCursor = none) (close loopRuns) m := by
  simp only [close, Program.ensures_bind, Program.ensures_get, Program.continues_ok,
    Moment.cell_load, h.isOpen]
  split
  · rename_i hclosed
    simp at hclosed
  split
  · refine Program.ensures_always.2 (Program.ensures_mono ?_ (h.alone_killHeld none))
    rintro o m₁ ⟨-, hs⟩
    simp only [Program.ensures_bind, Program.ensures_modify, Program.continues_ok]
    refine Program.ensures_mono ?_ alone_releaseResources
    rintro _ _ ⟨rfl, rfl⟩
    have hs' : (m₁.put { m₁.cursor with closed := true }).settled.cursor.progress.serverCursor
        = none := (Moment.settled_serverCursor _).trans hs
    rcases o with e | _ <;> exact hs'
  · simp only [Program.ensures_bind, Program.ensures_modify, Program.continues_ok]
    refine Program.ensures_mono ?_ (alone_of_silent (silent_scheduleCleanup loopRuns))
    rintro _ _ ⟨-, rfl⟩
    exact Moment.dismissed_serverCursor _ _

theorem Intact.alone_giveUp (h : Intact m.cursor) (e : Failure) :
    Alone (fun _ m' => Keen m'.cursor) (giveUp e) m := by
  have hclose : ∀ {m : Moment}, Intact m.cursor →
      Alone (fun _ m' => Keen m'.cursor) (close true) m :=
    fun h => Program.ensures_mono (fun _ _ => keen_of_none) (h.alone_close true)
  cases e with
  | cursorMissing id address =>
    have hforgotten : Intact (m.put m.cursor.forget).cursor :=
      ⟨h.isOpen, h.unreleased, h.unscheduled⟩
    exact hclose hforgotten
  | cancelled => exact h.keen
  | _ => exact hclose h

/-! ## Fetching -/

/-- An intact cursor of which it is not settled what comes. -/
structure Unsettled (c : Cursor) : Prop extends Intact c where
  serverCursor : c.progress.serverCursor.isSome
  nextBatch : c.progress.nextBatch = none

/-- What a batch leaves: an intact cursor, which holds a server cursor only if that stays in
    use. -/
def FollowedUp : Outcome Verdict → Moment → Prop
  | .ok v, m => Intact m.cursor ∧ (v.followUp ≠ .nothing → m.cursor.progress.serverCursor = none)
  | .error _, m => Intact m.cursor

theorem Intact.alone_absorb (h : Intact m.cursor) (result : QueryResult) :
    Alone (fun o m' => Intact m'.cursor ∧ ∃ v, o = .ok v ∧
      (v.followUp = .release → m'.cursor.progress.serverCursor = none)) (absorb result) m := by
  refine ensures_absorb fun m₁ hm₁ => ⟨?_, _, rfl, (Progress.advance_fate ..).gone⟩
  rcases hm₁ with rfl | ⟨message, rfl⟩ <;> exact ⟨h.isOpen, h.unreleased, h.unscheduled⟩

theorem Intact.alone_follow (h : Intact m.cursor) (x : Connection) (result : QueryResult) :
    Alone FollowedUp (follow x result) m := by
  simp only [follow, Program.ensures_bind, Program.ensures_get, Program.continues_ok,
    Moment.cell_load, h.isOpen]
  split
  · rename_i hclosed
    simp at hclosed
  refine Program.ensures_bind.2 (Program.ensures_mono ?_ (h.alone_absorb result))
  rintro _ m₁ ⟨h₁, v, rfl, hreleased⟩
  rw [Program.continues_ok]
  split
  · refine Program.ensures_bind.2 (Program.ensures_mono ?_ (h₁.alone_killHeld (some x)))
    rintro (e | _) m₂ ⟨h₂, hs⟩
    · exact h₂
    · exact ⟨h₂, fun _ => hs⟩
  · rename_i hv
    exact ⟨h₁, fun hn => hreleased (FollowUp.eq_release hn hv)⟩

theorem Unsettled.alone_fetchOver (h : Unsettled m.cursor) (target : ServerCursor)
    (x : Connection) : Alone FollowedUp (fetchOver target x) m := by
  rw [fetchOver_eq]
  refine Program.ensures_bind.2 (ensures_requestBatch.2
    ⟨⟨h.toIntact, fun _ => ⟨h.serverCursor, h.nextBatch⟩⟩, ?_⟩)
  rintro answer _ rfl
  split
  · refine Intact.alone_follow ?_ x _
    exact h.toIntact
  · exact h.toIntact

theorem Unsettled.alone_withConnection (h : Unsettled m.cursor) (target : ServerCursor) :
    Alone FollowedUp (withConnection (fetchOver target)) m := by
  refine ensures_withConnection.2 ?_
  split
  · exact h.alone_fetchOver target _
  · exact h.toIntact
  · refine ⟨⟨h.toIntact, fun hf => by simp [isFetch] at hf⟩, ?_⟩
    rintro (e | x) _ rfl
    · exact h.toIntact
    · refine Program.ensures_mono (Q := FollowedUp) ?_ (Unsettled.alone_fetchOver ?_ target x)
      · rintro (e | v) m' h' <;> exact h'
      · exact h

/-- A fetch leaves the cursor intact as long as it holds a server cursor. -/
theorem Unsettled.alone_fetch (h : Unsettled m.cursor) :
    Alone (fun _ m' => Keen m'.cursor) fetch m := by
  simp only [fetch, Program.ensures_bind, Program.ensures_get, Program.continues_ok]
  split
  · exact h.toIntact.keen
  refine Program.ensures_bind.2 (Program.ensures_attempt.2
    (Program.ensures_mono ?_ (h.alone_withConnection _)))
  rintro (e | v) m₁ h₁
  · refine Program.ensures_bind.2 (Program.ensures_mono ?_ (Intact.alone_giveUp h₁ e))
    rintro (e' | _) m₂ h₂ <;> exact h₂
  · rw [Program.continues_ok]
    dsimp only
    split
    · exact h₁.1.keen
    · rename_i hv
      refine Program.ensures_mono ?_ alone_releaseResources
      rintro _ _ ⟨-, rfl⟩
      exact keen_of_none ((Moment.settled_serverCursor _).trans (h₁.2 hv))

/-- Where it is not settled what comes, there is a server cursor to fetch from. -/
theorem isSome_of_unsettled (hs : c.isSettled = false) : c.progress.serverCursor.isSome := by
  obtain ⟨-, hexhausted⟩ := isSettled_eq_false_iff.1 hs
  simp only [isExhausted, Bool.or_eq_false_iff] at hexhausted
  simpa using hexhausted.1

/-- There is no batch then, either. -/
theorem Keen.unsettled (h : Keen c) (hs : c.isSettled = false) : Unsettled c := by
  have hsome := isSome_of_unsettled hs
  exact ⟨h hsome, hsome, by simpa [hasBatch] using (isSettled_eq_false_iff.1 hs).1⟩

theorem retrievable_alone : Retrievable alone Moment.cell (fun m => Keen m.cursor) where
  fetch _ h hs := (h.unsettled hs).alone_fetch
  wait m h hs := Program.ensures_mono (fun _ _ => Intact.keen)
    ((undisturbed_alone fun _ h => h).keeps_waitBeforeRetry
      (fun _ _ h => ⟨h.isOpen, h.unreleased, h.unscheduled⟩) m (h.unsettled hs).toIntact)

/-! ## Without a server cursor -/

/-- A batch is taken, if any, and the server cursor and the schedule stay. -/
structure Takes (m : Moment) (batch : Option (List Value)) (m' : Moment) : Prop where
  serverCursor : m'.cursor.progress.serverCursor = m.cursor.progress.serverCursor
  cleanups : m'.cursor.cleanups = m.cursor.cleanups
  untaken : batch = none → m'.cursor.progress.nextBatch = m.cursor.progress.nextBatch
  taken : ∀ documents, batch = some documents →
    m.cursor.progress.nextBatch = some documents ∧ m'.cursor.progress.nextBatch = none

theorem takes_none (hs : m'.cursor.progress.serverCursor = m.cursor.progress.serverCursor)
    (hcleanups : m'.cursor.cleanups = m.cursor.cleanups)
    (hb : m'.cursor.progress.nextBatch = m.cursor.progress.nextBatch) : Takes m none m' :=
  ⟨hs, hcleanups, fun _ => hb, nofun⟩

theorem Takes.refl (m : Moment) : Takes m none m := takes_none rfl rfl rfl

theorem silent_takeBatch : Silent (fun o m' => Takes m o.toOption m') takeBatch m := by
  refine ensures_takeBatch.2 ?_
  split
  · exact .refl m
  · rename_i batch hb
    refine ⟨rfl, rfl, nofun, fun documents heq => ?_⟩
    obtain rfl : batch = documents := Option.some.inj heq
    exact ⟨hb, rfl⟩

/-- Without a server cursor nothing is fetched. -/
theorem retrievable_silence (hs : m.cursor.progress.serverCursor = none) :
    Retrievable silence Moment.cell (· = m) where
  fetch _ h hsettled := by
    subst h
    simp [isSettled, isExhausted, hs] at hsettled
  wait _ h hsettled := by
    subst h
    simp [isSettled, isExhausted, hs] at hsettled

theorem silent_next_of_none (hs : m.cursor.progress.serverCursor = none) (rounds : Nat) :
    Silent (fun o m' => Takes m (batchOf o) m') (Activity.next rounds).program m := by
  refine Program.ensures_bind.2 (Program.ensures_bind.2 (Program.ensures_mono ?_
    ((retrievable_silence hs).keeps_hasNext rounds m rfl)))
  rintro (e | available) _ rfl
  · exact .refl _
  cases available with
  | ready =>
    refine Program.ensures_bind.2 (Program.ensures_mono ?_ silent_takeBatch)
    rintro (e | documents) m₂ h₂ <;> exact h₂
  | ended => exact .refl _
  | pending => exact .refl _

theorem silent_tryNext_of_none (hs : m.cursor.progress.serverCursor = none) :
    Silent (fun o m' => Takes m (batchOf o) m') Activity.tryNext.program m := by
  refine Program.ensures_bind.2 ?_
  rw [tryNext_eq]
  refine Program.ensures_bind.2 (Program.ensures_mono ?_ (keeps_ensureOpen m rfl))
  rintro (e | _) _ rfl
  · exact .refl _
  refine Program.ensures_bind.2 (Program.ensures_mono ?_
    ((retrievable_silence hs).keeps_fetchUnlessSettled _ rfl))
  rintro (e | _) _ rfl
  · exact .refl _
  simp only [handOut, Program.ensures_bind, Program.ensures_get, Program.continues_ok]
  split
  · refine Program.ensures_bind.2 (Program.ensures_mono ?_ silent_takeBatch)
    rintro (e | documents) m₂ h₂ <;> exact h₂
  · exact .refl _

/-- Without a server cursor no operation asks for anything. -/
theorem silent_program_of_none (hs : m.cursor.progress.serverCursor = none)
    (ha : a.isOperation) : Silent (fun o m' => Takes m (batchOf o) m') a.program m := by
  cases a, ha using Activity.operation_cases with
  | hasNext rounds =>
    refine Program.ensures_bind.2 (Program.ensures_mono ?_
      ((retrievable_silence hs).keeps_hasNext rounds m rfl))
    rintro (e | available) _ rfl <;> exact .refl _
  | next rounds => exact silent_next_of_none hs rounds
  | tryNext => exact silent_tryNext_of_none hs
  | close loopRuns =>
    rcases hc : m.cursor.closed with _ | _
    · refine Program.ensures_bind.2
        (Program.ensures_mono ?_ (silent_close_of_none hc hs loopRuns))
      rintro _ _ ⟨rfl, rfl⟩
      refine takes_none (Moment.settled_serverCursor _) ?_ ?_ <;>
        (rw [Moment.settled_cursor]; rfl)
    · refine Program.ensures_bind.2 (Program.ensures_mono ?_ (silent_close_of_closed hc))
      rintro _ _ ⟨rfl, rfl⟩
      exact .refl _
  | interrupt => exact takes_none rfl rfl rfl
  | setBatchSize n => exact takes_none rfl rfl rfl

/-! ## Operations -/

/-- What an operation leaves: an intact cursor as long as it holds a server cursor, and no batch
    at hand if it hands one out. -/
structure Leaves (batch : Option (List Value)) (m : Moment) : Prop where
  keen : Keen m.cursor
  taken : batch ≠ none → m.cursor.progress.nextBatch = none

theorem leaves_none (h : Keen m.cursor) : Leaves none m := ⟨h, fun hne => absurd rfl hne⟩

/-- What an activity ensures that nobody disturbs, up to its end. -/
abbrev Departs (p : Program Cursor Yield) (m : Moment) : Prop :=
  Alone (fun o m' => Leaves (batchOf o) m') p m

theorem Keen.alone_takeBatch (h : Keen m.cursor) :
    Alone (fun o m' => Leaves o.toOption m') takeBatch m := by
  refine ensures_takeBatch.2 ?_
  split
  · exact leaves_none h
  · exact ⟨fun hs => ⟨(h hs).isOpen, (h hs).unreleased, (h hs).unscheduled⟩, fun _ => rfl⟩

theorem Keen.departs_next (h : Keen m.cursor) (rounds : Nat) :
    Departs (Activity.next rounds).program m := by
  refine Program.ensures_bind.2 (Program.ensures_bind.2
    (Program.ensures_mono ?_ (retrievable_alone.keeps_hasNext rounds m h)))
  rintro (e | available) m₁ h₁
  · exact leaves_none h₁
  cases available with
  | ready =>
    refine Program.ensures_bind.2 (Program.ensures_mono ?_ (Keen.alone_takeBatch h₁))
    rintro (e | documents) m₂ h₂ <;> exact h₂
  | ended => exact leaves_none h₁
  | pending => exact leaves_none h₁

theorem Keen.departs_tryNext (h : Keen m.cursor) : Departs Activity.tryNext.program m := by
  refine Program.ensures_bind.2 ?_
  rw [tryNext_eq]
  refine Program.ensures_bind.2 (Program.ensures_mono ?_
    (keeps_ensureOpen (P := fun m => Keen m.cursor) m h))
  rintro (e | _) m₁ h₁
  · exact leaves_none h₁
  refine Program.ensures_bind.2 (Program.ensures_mono ?_
    (retrievable_alone.keeps_fetchUnlessSettled m₁ h₁))
  rintro (e | _) m₂ h₂
  · exact leaves_none h₂
  simp only [handOut, Program.ensures_bind, Program.ensures_get, Program.continues_ok]
  split
  · refine Program.ensures_bind.2 (Program.ensures_mono ?_ (Keen.alone_takeBatch h₂))
    rintro (e | documents) m₃ h₃ <;> exact h₃
  · exact leaves_none h₂

/-- **An operation that nobody disturbs** asks with an intact cursor only, and leaves the cursor
    intact as long as it holds a server cursor. -/
theorem alone_program (h : Keen m.cursor) (ha : a.isOperation) : Departs a.program m := by
  rcases hs : m.cursor.progress.serverCursor with _ | target
  · refine Program.ensures_mono (fun o m' h' => ?_) (alone_of_silent (silent_program_of_none hs ha))
    refine ⟨keen_of_none (h'.serverCursor.trans hs), fun hne => ?_⟩
    obtain ⟨documents, hbatch⟩ := Option.ne_none_iff_exists'.1 hne
    exact (h'.taken documents hbatch).2
  have hintact : Intact m.cursor := h (by simp [hs])
  cases a, ha using Activity.operation_cases with
  | hasNext rounds =>
    refine Program.ensures_bind.2
      (Program.ensures_mono ?_ (retrievable_alone.keeps_hasNext rounds m h))
    rintro (e | available) m₁ h₁ <;> exact leaves_none h₁
  | next rounds => exact h.departs_next rounds
  | tryNext => exact h.departs_tryNext
  | close loopRuns =>
    refine Program.ensures_bind.2 (Program.ensures_mono ?_ (hintact.alone_close loopRuns))
    rintro (e | _) m₁ hs₁ <;> exact leaves_none (keen_of_none hs₁)
  | interrupt =>
    exact leaves_none fun _ => ⟨hintact.isOpen, hintact.unreleased, hintact.unscheduled⟩
  | setBatchSize n =>
    exact leaves_none fun _ => ⟨hintact.isOpen, hintact.unreleased, hintact.unscheduled⟩

theorem Intact.alone_start (h : Intact m.cursor) (first : QueryResult) (loopRuns : Bool) :
    Alone (fun _ m' => Keen m'.cursor) (start first loopRuns) m := by
  refine Program.ensures_bind.2 (Program.ensures_mono ?_ (h.alone_absorb first))
  rintro _ m₁ ⟨h₁, v, rfl, hreleased⟩
  have hsettled : ∀ {m : Moment}, m.cursor.progress.serverCursor = none →
      Alone (fun _ m' => Keen m'.cursor) releaseResources m := fun hs =>
    Program.ensures_mono (fun _ _ h => h.2 ▸ keen_of_none
      ((Moment.settled_serverCursor _).trans hs)) alone_releaseResources
  simp only [Program.continues_ok, Program.ensures_bind, Program.ensures_get]
  split
  · exact h₁.keen
  · rename_i hv
    exact hsettled (hreleased hv)
  · refine Program.ensures_bind.2 (Program.ensures_mono ?_ (h₁.alone_killHeld none))
    rintro (e | _) m₂ ⟨h₂, hs⟩
    · exact h₂.keen
    · exact hsettled hs
  · refine Program.ensures_mono ?_ (alone_of_silent (silent_scheduleCleanup loopRuns))
    rintro _ _ ⟨-, rfl⟩
    exact keen_of_none (Moment.dismissed_serverCursor _ _)

theorem Intact.departs_opening (h : Intact m.cursor) (first : QueryResult) (loopRuns : Bool) :
    Departs (Activity.opening first loopRuns).program m := by
  refine Program.ensures_bind.2 (Program.ensures_mono ?_ (h.alone_start first loopRuns))
  rintro (e | _) m₁ h₁ <;> exact leaves_none h₁

/-! ## Lives -/

/-- What an activity does up to its end or to its next exchange. -/
theorem proceed_of_answering (a : Activity) (ts : List Thread) {mayAsk : Exchange → Moment → Prop}
    {Q : Outcome Yield → Moment → Prop} {p : Program Cursor Yield} : ∀ {m : Moment},
    Ensures (answering mayAsk) Moment.cell Q p m → ∃ ns : List Notice, ∃ m' : Moment,
      m'.history = ns.map .noticed ++ m.history ∧
      ((∃ o, Q o m' ∧ Life.proceed a ts p m = ⟨m'.record (.ended a o), ts⟩) ∨
      ∃ q next, mayAsk q m' ∧
        (∀ x, Ensures (answering mayAsk) Moment.cell Q (next x)
          ((m'.record (.asked q)).answer q x)) ∧
        Life.proceed a ts p m = ⟨m'.record (.asked q), ⟨a, .ask q next⟩ :: ts⟩) := by
  induction p with
  | done outcome => exact fun {m} h => ⟨[], m, rfl, .inl ⟨outcome, h, rfl⟩⟩
  | read next ih => exact fun h => ih _ h
  | write c next ih => exact fun {m} h => ih (m := m.put c) h
  | note n next ih =>
    intro m h
    obtain ⟨ns, m', hhistory, hproceed⟩ := ih h
    have hnoticed : m'.history = (ns ++ [n]).map .noticed ++ m.history := by
      rw [hhistory, List.map_append, List.append_assoc]
      rfl
    exact ⟨ns ++ [n], m', hnoticed, hproceed⟩
  | ask q next ih =>
    exact fun {m} h => ⟨[], m, rfl, .inr ⟨q, next, h.1, fun x => h.2 x _ rfl, rfl⟩⟩

namespace Life
variable {l l' : Life}

/-- One operation waits, and nobody disturbs it, or scheduled kills wait at most. -/
inductive Poised : Life → Prop
  | waits {m : Moment} {a : Activity} {q : Exchange}
      {next : Outcome q.Answer → Program Cursor Yield}
      (ha : a.isCleanup = false) (hasks : Asks q m.cursor)
      (hnext : ∀ x, Departs (next x) (m.answer q x)) : Poised ⟨m, [⟨a, .ask q next⟩]⟩
  | rests {l : Life} (hrest : l.AtRest) (hkeen : Keen l.moment.cursor)
      (halone : l.moment.cursor.progress.serverCursor.isSome → l.threads = []) : Poised l

theorem poised_proceed (ha : a.isCleanup = false) {p : Program Cursor Yield} (h : Departs p m) :
    (proceed a [] p m).Poised := by
  obtain ⟨ns, m', -, ⟨o, hleaves, heq⟩ | ⟨q, next, hasks, hnext, heq⟩⟩ :=
    proceed_of_answering a [] h
  · rw [heq]
    exact .rests (fun t ht => absurd ht List.not_mem_nil) hleaves.keen fun _ => rfl
  · rw [heq]
    exact .waits ha ⟨hasks.intact, hasks.fetches⟩ hnext

/-- What a turn can be. -/
theorem Turn.cases (h : l.Turn l') :
    (∃ a, l.AtRest ∧ a.isOperation ∧ l' = l.begin a) ∨
    (∃ before target after, l.moment.cursor.cleanups = before ++ target :: after ∧
      l' = (l.unscheduled (before ++ after)).begin (.cleanup target)) ∨
    ∃ (before after : List Thread) (a : Activity) (q : Exchange)
      (next : Outcome q.Answer → Program Cursor Yield) (x : Outcome q.Answer),
      l.threads = before ++ ⟨a, .ask q next⟩ :: after ∧
      l' = proceed a (before ++ after) (next x) (l.moment.answer q x) := by
  cases h with
  | call hrest ha => exact .inl ⟨_, hrest, ha, rfl⟩
  | run h => exact .inr (.inl ⟨_, _, _, h, rfl⟩)
  | resume x => exact .inr (.inr ⟨_, _, _, _, _, x, rfl, rfl⟩)

/-- An operation that waits goes on next, and nothing else does. -/
theorem Turn.of_waits {q : Exchange} {next : Outcome q.Answer → Program Cursor Yield}
    (h : Turn ⟨m, [⟨a, .ask q next⟩]⟩ l') (ha : a.isCleanup = false)
    (hnone : m.cursor.cleanups = []) :
    ∃ x, l' = proceed a [] (next x) (m.answer q x) := by
  obtain ⟨a', hrest, -, -⟩ | ⟨before, target, after, hcleanups, -⟩ |
    ⟨before, after, a', q', next', x, hthreads, rfl⟩ := h.cases
  · have hcleanup := hrest _ (List.mem_singleton_self _)
    simp [ha] at hcleanup
  · simp [hnone] at hcleanups
  · obtain ⟨rfl, hself⟩ | ⟨-, hnil⟩ := List.singleton_eq_append_iff.1 hthreads
    · cases hself
      exact ⟨x, rfl⟩
    · simp at hnil

/-- Where a server cursor is held and nothing waits, an operation is called next. -/
theorem Turn.of_rests (h : l.Turn l') (hthreads : l.threads = [])
    (hnone : l.moment.cursor.cleanups = []) : ∃ a, a.isOperation ∧ l' = l.begin a := by
  obtain ⟨a, -, ha, rfl⟩ | ⟨before, target, after, hcleanups, -⟩ |
    ⟨before, after, a, q, next, x, hmem, -⟩ := h.cases
  · exact ⟨a, ha, rfl⟩
  · simp [hnone] at hcleanups
  · simp [hthreads] at hmem

theorem Turn.poised (h : l.Turn l') (hidling : l.Idling) (hl : l.Poised) : l'.Poised := by
  cases hl with
  | waits ha hasks hnext =>
    obtain ⟨x, rfl⟩ := h.of_waits ha hasks.intact.unscheduled
    exact poised_proceed ha (hnext x)
  | rests hrest hkeen halone =>
    rcases hs : l.moment.cursor.progress.serverCursor with _ | target
    · obtain ⟨a, ha, rfl⟩ | ⟨hrest', htwins⟩ := (h.shows hidling).2 hrest
      · obtain ⟨o, m', htakes, heq⟩ := proceed_of_silent a l.threads
          (silent_program_of_none (m := l.moment.record (.begun a)) hs ha)
        have hs' : (l.begin a).moment.cursor.progress.serverCursor = none := by
          rw [begin, heq]
          exact htakes.serverCursor.trans hs
        refine .rests ?_ (keen_of_none hs') fun hsome => by simp [hs'] at hsome
        rw [begin, heq]
        exact hrest
      · have hs' := htwins.serverCursor.trans hs
        exact .rests hrest' (keen_of_none hs') fun hsome => by simp [hs'] at hsome
    · have hsome : l.moment.cursor.progress.serverCursor.isSome := by simp [hs]
      obtain ⟨a, ha, rfl⟩ := h.of_rests (halone hsome) (hkeen hsome).unscheduled
      unfold begin
      rw [halone hsome]
      exact poised_proceed (Activity.isCleanup_of_isOperation ha)
        (alone_program (m := l.moment.record (.begun a)) hkeen ha)

end Life

section
variable {mode : Mode} {plan : Plan} {l : Life}

theorem intact_of_ofPlan (hc : ofPlan mode plan = .ok c) : Intact c := by
  obtain ⟨settings, rfl⟩ := exists_of_ofPlan hc
  exact ⟨rfl, rfl, rfl⟩

theorem poised_opening (hc : ofPlan mode plan = .ok c) (loopRuns : Bool) :
    (Life.opening c plan.first loopRuns).Poised :=
  Life.poised_proceed rfl (Intact.departs_opening (intact_of_ofPlan hc) plan.first loopRuns)

/-- **Where calls take turns, an operation that waits is alone.** -/
theorem poised_of_takesTurns (hc : ofPlan mode plan = .ok c)
    (hl : (Life.opening c plan.first loopRuns).TakesTurns l) : l.Poised := by
  induction hl with
  | refl => exact poised_opening hc loopRuns
  | tail hl hturn ih => exact hturn.poised (idling_of_takesTurns hl) ih

/-! ## Regimes -/

/-- What may happen where no exchange is cancelled and the loop of an asynchronous cursor runs. -/
def Incident.Regular : Incident → Prop
  | .begun a => a.onLoop
  | .answered q x _ => Custody.Ordinary q x
  | _ => True

/-- Where no scheduled kill waits, one thread does at most. -/
theorem Life.Poised.length_le_one (h : l.Poised)
    (hnone : ∀ t ∈ l.threads, t.activity.isCleanup = false) : l.threads.length ≤ 1 := by
  cases h with
  | waits _ _ _ => exact Nat.le_refl 1
  | rests hrest _ _ =>
    have hempty : l.threads = [] := List.eq_nil_iff_forall_not_mem.2 fun t ht => by
      have hcleanup := hrest t ht
      simp [hnone t ht] at hcleanup
    simp [hempty]

/-- What goes on waiting, or begins to. -/
theorem Life.mem_threads_proceed {a : Activity} {ts : List Thread} {p : Program Cursor Yield}
    {m : Moment} {t : Thread} (ht : t ∈ (Life.proceed a ts p m).threads) :
    t.activity = a ∨ t ∈ ts := by
  obtain ⟨during, -, ⟨o, -, heq⟩ | ⟨rest, -, heq⟩⟩ := Life.proceed_cases a ts p m
  · exact .inr (heq ▸ ht)
  · rw [heq] at ht
    exact (List.mem_cons.1 ht).imp_left fun h => congrArg Thread.activity h

/-- A turn is a step of the regime, if all that happens is regular. -/
theorem step_of_turn (hc : ofPlan mode plan = .ok c) {b : Life}
    (hb : (Life.opening c plan.first true).TakesTurns b)
    (hplain : mode = .blocking → ∀ t ∈ b.threads, t.activity.isCleanup = false)
    (hturn : b.Turn l) (hregular : ∀ i ∈ l.moment.history, i.Regular) :
    Life.Step (regime mode) b l := by
  have hpoised := poised_of_takesTurns hc hb
  cases hturn with
  | @call _ a hrest ha =>
    have hbegun : .begun a ∈ (b.begin a).moment.history :=
      (Life.suffix_proceed ..).subset (List.mem_cons_self ..)
    refine .call ⟨?_, ha, fun t ht => (Activity.of_isCleanup (hrest t ht)).1, fun _ => ?_⟩
    · cases mode with
      | blocking => trivial
      | async => exact hregular _ hbegun
    · cases mode with
      | blocking =>
        refine List.eq_nil_iff_forall_not_mem.2 fun t ht => ?_
        have hwaits := hrest t ht
        simp [hplain rfl t ht] at hwaits
      | async => exact fun t ht => (Activity.of_isCleanup (hrest t ht)).2
  | run h => exact .run h
  | @resume m before after a q next x =>
    have hanswered : .answered q x (!m.cursor.closed) ∈
        (Life.proceed a (before ++ after) (next x) (m.answer q x)).moment.history :=
      (Life.suffix_proceed ..).subset (List.mem_cons_self ..)
    refine .resume (fun hnested => ?_) ?_
    · cases mode with
      | blocking =>
        have hlength := hpoised.length_le_one (hplain rfl)
        simp only [List.length_append, List.length_cons] at hlength
        exact List.length_eq_zero_iff.1 (by omega)
      | async => simp [regime] at hnested
    · cases mode with
      | blocking => exact hregular _ hanswered
      | async => trivial

/-- Where no kill is scheduled, none begins. -/
theorem Life.Turn.plain {b : Life} (hturn : b.Turn l) (hnone : b.moment.cursor.cleanups = [])
    (hplain : ∀ t ∈ b.threads, t.activity.isCleanup = false) :
    ∀ t ∈ l.threads, t.activity.isCleanup = false := by
  intro t ht
  cases hturn with
  | @call _ a hrest ha =>
    rcases Life.mem_threads_proceed ht with rfl | ht
    · exact Activity.isCleanup_of_isOperation ha
    · exact hplain t ht
  | run h => simp [hnone] at h
  | @resume m before after a q next x =>
    rcases Life.mem_threads_proceed ht with ha | ht
    · rw [ha]
      exact hplain ⟨a, .ask q next⟩ List.mem_append_cons_self
    · exact hplain t (Thread.mem_beside _ ht)

/-- A life in which calls take turns is one of its regime, if all that happens is regular. -/
theorem reaches_of_takesTurns (hc : ofPlan mode plan = .ok c)
    (hl : (Life.opening c plan.first true).TakesTurns l)
    (hregular : ∀ i ∈ l.moment.history, i.Regular) :
    Life.Reaches (regime mode) (Life.opening c plan.first true) l ∧
      (mode = .blocking → ∀ t ∈ l.threads, t.activity.isCleanup = false) := by
  induction hl with
  | refl =>
    refine ⟨.refl, fun _ t ht => ?_⟩
    rcases Life.mem_threads_proceed ht with ha | ht
    · rw [ha]
      rfl
    · simp at ht
  | @tail b l' hb hturn ih =>
    obtain ⟨hreaches, hplain⟩ :=
      ih fun i hi => hregular i ((Life.suffix_step hturn.step).subset hi)
    refine ⟨hreaches.tail (step_of_turn hc hb hplain hturn hregular), fun hmode => ?_⟩
    subst hmode
    exact hturn.plain ((Reckoning.sound_discipline plan).idle _
      (Reckoning.agrees_of_reaches hc hreaches)) (hplain rfl)

end

end DocumentClient.Cursor
