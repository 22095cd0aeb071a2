/-
  Which waits an interruption ends.

  An interruption may be asked for at any time; the next wait that comes to its end raises it, and
  takes it back.  Between two exchanges an activity takes no notice of it (`Undeterred`), and raises
  none (`Unraised`), but where a wait is over (`wake`); what is left to do then is what the same
  call would do anew (`Remains`).  The history tells which interruptions are pending, and which
  waits have raised one.

  `attentive_of_reaches`: the cursor and its history agree on that, and a wait raises an
  interruption just if one is pending.  `calm_of_reaches`: as long as none is raised, all goes as
  it would without interruptions.
-/
import DocumentClient.Proofs.Cursor.Failures
import DocumentClient.Proofs.Cursor.Keeping
import DocumentClient.Proofs.Cursor.Overlap
import DocumentClient.Proofs.Cursor.Parallel

namespace DocumentClient.Cursor

open Program (Ensures Environment)

variable {α β : Type} {T : Alteration → Prop} {kind : Exchange → Bool} {p : Program Cursor α}

/-! ## Waits -/

/-- What `waitBeforeRetry` does once its pause is over. -/
def wake : Program Cursor Unit := do
  let c ← Program.get
  if c.interrupted then do
    Program.set { c with interrupted := false }
    Program.fail .interrupted
  else if c.closed then Program.fail (.cursorClosed .waiting)
  else pure ()

/-- A program takes no notice of an interruption before its next exchange. -/
abbrev Undeterred (p : Program Cursor α) : Prop := Careless (· = .calming) p

/-- A program does not pause, and takes no notice of any interruption. -/
abbrev Pauseless (p : Program Cursor α) : Prop := Detached (· = .calming) (fun q => !isPause q) p

/-- After an answer a program takes no notice of an interruption, but where a wait is over. -/
def Roused (K : Program Cursor α → Prop) :
    (q : Exchange) → Outcome q.Answer → Program Cursor α → Prop
  | .pause _, .ok _, r => ∃ rest, r = (wake >>= fun _ => rest) ∧ Undeterred rest ∧ K rest
  | _, _, r => Undeterred r

/-- A program takes notice of interruptions only where a wait is over, and something holds of what
    is left to do then. -/
structure Oblivious (K : Program Cursor α → Prop) (p : Program Cursor α) : Prop where
  undeterred : Undeterred p
  roused : AfterAsks (fun _ => true) (Roused K) p

section
variable {f : α → Program Cursor β} {K : Program Cursor α → Prop} {K' : Program Cursor β → Prop}

theorem Detached.pauseless (hp : Detached (fun _ => True) isHousekeeping p) : Pauseless p :=
  hp.mono (fun _ _ => trivial) fun _ hq => (Bool.and_eq_true_iff.1 hq).2

theorem Detached.oblivious (hp : Detached (· = .calming) (fun q => !isPause q) p) :
    Oblivious K p where
  undeterred := hp.careless
  roused := hp.after.imp fun q _ => ⟨rfl, fun x r h => by
    cases q with
    | pause length => exact absurd h.1 (by simp [isPause])
    | _ => exact h.2⟩

theorem Roused.bind {q : Exchange} {x : Outcome q.Answer} {r : Program Cursor α}
    (h : Roused K q x r) (hf : ∀ a, Undeterred (f a)) (hK : ∀ rest, K rest → K' (rest >>= f)) :
    Roused K' q x (r >>= f) := by
  cases q with
  | pause length =>
    rcases x with e | _
    · exact Careless.bind h hf
    · obtain ⟨rest, rfl, hrest, hk⟩ := h
      exact ⟨rest >>= f, Program.bind_assoc _, hrest.bind hf, hK rest hk⟩
  | _ => exact Careless.bind h hf

theorem Oblivious.bind (hp : Oblivious K p) (hf : ∀ a, Oblivious K' (f a))
    (hK : ∀ rest, K rest → K' (rest >>= f)) : Oblivious K' (p >>= f) where
  undeterred := hp.undeterred.bind fun a => (hf a).undeterred
  roused := afterAsks_bind (fun _ _ _ h => h.bind (fun a => (hf a).undeterred) hK) hp.roused
    fun a => (hf a).roused

/-- A program follows that is made of no wait. -/
theorem Detached.bind_oblivious (hp : Detached (· = .calming) (fun q => !isPause q) p)
    (hf : ∀ a, Oblivious K' (f a)) : Oblivious K' (p >>= f) :=
  (hp.oblivious (K := fun _ => False)).bind hf fun _ => False.elim

theorem oblivious_get {f : Cursor → Program Cursor β}
    (hf : ∀ c, f (c.altered .calming) = f c) (h : ∀ c, Oblivious K' (f c)) :
    Oblivious K' (Program.get >>= f) := by
  refine ⟨?_, fun c => (h c).roused⟩
  rintro _ rfl c
  refine parallel_get ?_
  rw [hf]
  exact (h c).undeterred _ rfl c

end

/-! ## Fetching -/

theorem pauseless_absorb (result : QueryResult) : Pauseless (absorb result) := by
  refine ⟨?_, ?_⟩
  · rintro _ rfl c
    exact parallel_absorb rfl
  · rw [absorb_eq]
    refine afterAsks_get fun c => ?_
    generalize c.progress.advance c.limit c.batchSize result = after
    obtain ⟨progress, verdict⟩ := after
    cases verdict <;> trivial

theorem pauseless_follow (connection : Connection) (result : QueryResult) :
    Pauseless (follow connection result) := by
  refine detached_get (fun _ _ _ => rfl) fun c => ?_
  split
  · exact detached_fail _
  · exact (pauseless_absorb result).bind fun verdict =>
      (sizeless_followUp connection verdict).pauseless

theorem pauseless_fetchOver (target : ServerCursor) (connection : Connection) :
    Pauseless (fetchOver target connection) := by
  rw [fetchOver_eq, requestBatch_eq]
  refine Detached.bind (detached_get ?_ fun c => ?_) (pauseless_follow connection)
  · rintro _ rfl c
    rfl
  refine (detached_notify _).bind fun _ => Detached.bind (detached_ask ?_ fun x => detached_done _)
    fun result => (detached_notify _).bind fun _ => detached_pure result
  simp [isPause_of_isFetch (isFetch_fetchExchange c connection target)]

theorem pauseless_fetch : Pauseless fetch := by
  refine detached_get (fun _ _ _ => rfl) fun c => ?_
  rcases c.progress.serverCursor with _ | target
  · exact detached_pure ()
  change Pauseless ((withConnection (fetchOver target)).attempt >>= conclude)
  refine Detached.bind (Detached.attempt ?_) fun outcome => (sizeless_conclude outcome).pauseless
  exact detached_withConnection (fun _ => rfl) (pauseless_fetchOver target)

theorem pauseless_start (first : QueryResult) (loopRuns : Bool) :
    Pauseless (start first loopRuns) := by
  refine (pauseless_absorb first).bind fun verdict => detached_get (fun _ _ _ => rfl) fun c => ?_
  split
  · exact detached_pure ()
  · exact sizeless_releaseResources.pauseless
  · exact (sizeless_killHeld none).pauseless.bind fun _ => sizeless_releaseResources.pauseless
  · exact (sizeless_scheduleCleanup loopRuns).pauseless

/-! ## Failures -/

section
variable {ω : Type} {env : Environment ω} {cell : Program.Cell ω Cursor} {f : α → Program Cursor β}

/-- An environment that answers with no interruption. -/
structure Quiet (env : Environment ω) : Prop where
  demands : ∀ q w, env.demands q w
  resumes : ∀ q w x w', env.resumes q w x w' → x ≠ .error .interrupted

/-- A program raises no interruption. -/
def Unraised (env : Environment ω) (cell : Program.Cell ω Cursor) (p : Program Cursor α) : Prop :=
  ∀ w, Ensures env cell (fun o _ => o ≠ .error .interrupted) p w

theorem error_ne_interrupted {e : Failure} (h : (.error e : Outcome α) ≠ .error .interrupted) :
    (.error e : Outcome β) ≠ .error .interrupted :=
  fun he => h (congrArg Except.error (Except.error.inj he))

theorem unraised_bind (hp : Unraised env cell p) (hf : ∀ a, Unraised env cell (f a)) :
    Unraised env cell (p >>= f) := by
  intro w
  refine Program.ensures_bind.2 (Program.ensures_mono ?_ (hp w))
  rintro (e | a) w' h
  · exact error_ne_interrupted h
  · exact hf a w'

theorem unraised_get {f : Cursor → Program Cursor β} (h : ∀ c, Unraised env cell (f c)) :
    Unraised env cell (Program.get >>= f) := fun w => h (cell.load w) w

theorem unraised_pure (a : α) : Unraised env cell (pure a : Program Cursor α) := fun _ => nofun

theorem unraised_fail {e : Failure} (h : e ≠ .interrupted) :
    Unraised env cell (Program.fail e : Program Cursor α) :=
  fun _ he => h (Except.error.inj he)

theorem unraised_modify (f : Cursor → Cursor) : Unraised env cell (Program.modify f) :=
  fun _ => nofun

theorem unraised_always {last : Program Cursor Unit} (hp : Unraised env cell p)
    (hlast : Unraised env cell last) : Unraised env cell (p.always last) := by
  intro w
  refine Program.ensures_always.2 (Program.ensures_mono (fun o w' ho => ?_) (hp w))
  refine Program.ensures_mono ?_ (hlast w')
  rintro (e | _) w'' h
  · exact error_ne_interrupted h
  · exact ho

theorem unraised_releaseResources : Unraised env cell releaseResources :=
  fun _ => ensures_releaseResources.2 nofun

theorem unraised_takeBatch : Unraised env cell takeBatch := by
  intro w
  refine ensures_takeBatch.2 ?_
  split <;> exact nofun

theorem unraised_ensureOpen : Unraised env cell ensureOpen := by
  refine unraised_get fun c => ?_
  split
  · exact unraised_fail nofun
  · exact unraised_pure ()

theorem unraised_scheduleCleanup (loopRuns : Bool) :
    Unraised env cell (scheduleCleanup loopRuns) := by
  refine unraised_get fun c => ?_
  split
  · exact unraised_releaseResources
  refine unraised_bind (unraised_modify _) fun _ => ?_
  split
  · exact unraised_modify _
  · exact unraised_bind (fun _ => nofun) fun _ => unraised_releaseResources

theorem fetchFailure_ne_interrupted (target : ServerCursor) {e : Failure} (h : e ≠ .interrupted) :
    fetchFailure target e ≠ .interrupted := by
  cases e with
  | command failure =>
    change failure.ofFetch _ _ ≠ _
    unfold CommandFailure.ofFetch
    split <;> exact nofun
  | _ => exact h

theorem fetched_ne_interrupted (target : ServerCursor) {q : Exchange} {x : Outcome q.Answer}
    (h : x ≠ .error .interrupted) : fetched target q x ≠ .error .interrupted := by
  cases q with
  | command connection _ _ _ _ _ =>
    rcases x with e | reply
    · refine fun he => fetchFailure_ne_interrupted target (fun hi => ?_) (Except.error.inj he)
      exact h (congrArg Except.error hi)
    · exact fun he => absurd (QueryResult.local_ofGetMoreReply reply _ _ he) (by decide)
  | getMore _ _ _ _ _ => exact h
  | _ => nofun

theorem ofInterval_ne_interrupted (interval : Nat) :
    Duration.ofInterval interval ≠ .error .interrupted := by
  unfold Duration.ofInterval
  dsimp only
  split <;> exact nofun

section
variable (henv : Quiet env)
include henv

theorem Quiet.killable (target : ServerCursor) :
    Killable env cell (fun _ => True) (fun _ => True) (· ≠ .interrupted) target where
  send _ _ w _ := ⟨henv.demands _ w, fun x w' h => ⟨trivial, fun e he hi =>
    henv.resumes _ w x w' h (by rw [he, hi])⟩⟩
  fails _ _ _ := trivial
  back _ _ _ := trivial
  lease _ w _ := ⟨henv.demands _ w, fun x w' h => by
    rcases x with e | x
    · exact ⟨trivial, fun hi => henv.resumes _ w _ w' h (by rw [hi])⟩
    · trivial⟩
  noSource _ _ _ _ := ⟨trivial, nofun⟩

theorem unraised_killCursor (target : ServerCursor) (given : Option Connection) :
    Unraised env cell (killCursor target given) := fun _ =>
  Program.ensures_mono (fun _ _ h he => (h.2 _ he).1 rfl)
    ((henv.killable target).ensures_killCursor given trivial)

theorem unraised_killHeld (given : Option Connection) : Unraised env cell (killHeld given) := by
  refine unraised_get fun c => ?_
  split
  · exact unraised_pure ()
  · exact unraised_bind (unraised_modify _) fun _ => unraised_killCursor henv _ given

theorem unraised_cleanup (target : ServerCursor) : Unraised env cell (cleanup target) :=
  unraised_always (unraised_killCursor henv target none) unraised_releaseResources

theorem unraised_close (loopRuns : Bool) : Unraised env cell (close loopRuns) := by
  have hshut : Unraised env cell (Program.modify fun c => { c with closed := true }) :=
    unraised_modify _
  refine unraised_get fun c => ?_
  split
  · exact unraised_pure ()
  split
  · exact unraised_always (unraised_killHeld henv none)
      (unraised_bind hshut fun _ => unraised_releaseResources)
  · exact unraised_bind hshut fun _ => unraised_scheduleCleanup loopRuns

theorem unraised_giveUp (e : Failure) : Unraised env cell (giveUp e) := by
  cases e with
  | cursorMissing id address =>
    exact unraised_bind (unraised_modify _) fun _ => unraised_close henv true
  | cancelled => exact unraised_pure ()
  | _ => exact unraised_close henv true

theorem unraised_start (first : QueryResult) (loopRuns : Bool) :
    Unraised env cell (start first loopRuns) := by
  refine unraised_bind (fun w => (ensures_absorb_iff rfl).2 nofun) fun verdict =>
    unraised_get fun c => ?_
  split
  · exact unraised_pure ()
  · exact unraised_releaseResources
  · exact unraised_bind (unraised_killHeld henv none) fun _ => unraised_releaseResources
  · exact unraised_scheduleCleanup loopRuns

theorem unraised_follow (connection : Connection) (result : QueryResult) :
    Unraised env cell (follow connection result) := by
  refine unraised_get fun c => ?_
  split
  · exact unraised_fail nofun
  refine unraised_bind (fun w => (ensures_absorb_iff rfl).2 nofun) fun verdict => ?_
  split
  · exact unraised_bind (unraised_killHeld henv _) fun _ => unraised_pure _
  · exact unraised_pure _

theorem unraised_fetchOver (target : ServerCursor) (connection : Connection) :
    Unraised env cell (fetchOver target connection) := by
  intro w
  rw [fetchOver_eq]
  refine Program.ensures_bind.2 (ensures_requestBatch.2 ⟨henv.demands _ _, fun x w' hx => ?_⟩)
  have hfetched := fetched_ne_interrupted target (henv.resumes _ _ x w' hx)
  rcases hf : fetched target (fetchExchange (cell.load w) connection target) x with e | result
  · exact error_ne_interrupted (hf ▸ hfetched)
  · exact unraised_follow henv connection result _

theorem unraised_fetch : Unraised env cell fetch := by
  refine unraised_get fun c => ?_
  rcases c.progress.serverCursor with _ | target
  · exact unraised_pure ()
  have hfetching : Unraised env cell (withConnection (fetchOver target)) := by
    intro w
    refine ensures_withConnection.2 ?_
    split
    · exact unraised_fetchOver henv target _ w
    · exact nofun
    · refine ⟨henv.demands _ w, fun x w' hx => ?_⟩
      rcases x with e | connection
      · exact error_ne_interrupted (henv.resumes _ w _ w' hx)
      · exact unraised_fetchOver henv target connection w'
  intro w
  change Ensures _ _ _ ((withConnection (fetchOver target)).attempt >>= conclude) w
  refine Program.ensures_bind.2 (Program.ensures_attempt.2 (Program.ensures_mono ?_ (hfetching w)))
  rintro (e | verdict) w' h
  · refine unraised_bind (unraised_giveUp henv e) (fun _ => unraised_fail ?_) w'
    rintro rfl
    exact h rfl
  · cases verdict with
    | kept => exact nofun
    | _ => exact unraised_releaseResources w'

end

end

/-! ## Up to the next exchange -/

/-- The environment of a program up to its next exchange. -/
def untilAsk : Environment Moment where
  take n m := m.record (.noticed n)
  demands _ _ := True
  resumes _ _ _ _ := False

/-- From a moment on a program raises no interruption before its next exchange. -/
abbrev Ignores (p : Program Cursor α) (m : Moment) : Prop :=
  Ensures untilAsk Moment.cell (fun o _ => o ≠ .error .interrupted) p m

theorem quiet_untilAsk : Quiet untilAsk := ⟨fun _ _ => trivial, fun _ _ _ _ h => h.elim⟩

theorem unraised_waitBeforeRetry : Unraised untilAsk Moment.cell waitBeforeRetry := by
  intro m
  refine ensures_waitBeforeRetry.2 ?_
  split
  · rename_i e he
    exact fun hi => ofInterval_ne_interrupted _ (Except.error.inj hi ▸ he)
  · exact ⟨trivial, fun _ _ h => h.elim⟩

theorem unraised_awaitBatch (rounds : Nat) :
    Unraised untilAsk Moment.cell (awaitBatch rounds) := by
  induction rounds with
  | zero => exact unraised_pure _
  | succ rounds ih =>
    rw [awaitBatch_succ]
    refine unraised_get fun c => ?_
    split
    · exact unraised_pure _
    split
    · exact unraised_pure _
    refine unraised_bind (unraised_fetch quiet_untilAsk) fun _ =>
      unraised_bind (unraised_get fun c => ?_) fun _ => ih
    split
    · exact unraised_pure ()
    · exact unraised_waitBeforeRetry

/-! ## Retrieving -/

/-- What is left to do of a call after a wait: what the same call would do anew, if the cursor is
    open. -/
structure Remains (call : Nat → Program Cursor α) (rest : Program Cursor α) : Prop where
  again : ∃ rounds, call rounds = (ensureOpen >>= fun _ => rest)
  unraised : Unraised untilAsk Moment.cell rest

section
variable {call : Nat → Program Cursor α} {rest : Program Cursor α} {f : α → Program Cursor β}

theorem Remains.bind (h : Remains call rest) (hf : ∀ a, Unraised untilAsk Moment.cell (f a)) :
    Remains (fun rounds => call rounds >>= f) (rest >>= f) where
  again := by
    obtain ⟨rounds, heq⟩ := h.again
    exact ⟨rounds, by rw [heq, Program.bind_assoc]⟩
  unraised := unraised_bind h.unraised hf

theorem oblivious_waitBeforeRetry {K : Program Cursor β → Prop} {rest : Program Cursor β}
    (h : Oblivious K rest) (hK : K rest) : Oblivious K (waitBeforeRetry >>= fun _ => rest) := by
  refine ⟨?_, fun c => ?_⟩
  · rintro _ rfl c
    refine .read ?_
    change Parallel _ c
      ((Program.ofOutcome (Duration.ofInterval c.settings.pollInterval) >>= _) >>= _)
      ((Program.ofOutcome (Duration.ofInterval c.settings.pollInterval) >>= _) >>= _)
    rcases Duration.ofInterval c.settings.pollInterval with e | length
    · exact .done c (.error e)
    · exact .ask c _ _
  · change AfterAsks _ _ ((Program.ofOutcome (Duration.ofInterval c.settings.pollInterval) >>= _)
      >>= _)
    rcases Duration.ofInterval c.settings.pollInterval with e | length
    · trivial
    refine ⟨fun _ x => ?_, fun x => ?_⟩
    · rcases x with e | _
      · have hover : Pauseless (.done (.error e) : Program Cursor β) := detached_done _
        exact hover.careless
      · exact ⟨rest, rfl, h.undeterred, hK⟩
    · rcases x with e | _
      · trivial
      intro c'
      change AfterAsks _ _ ((if c'.interrupted then _ else if c'.closed then _ else _) >>= _)
      split
      · trivial
      split
      · trivial
      · exact h.roused

theorem oblivious_awaitBatch (rounds : Nat) :
    Oblivious (fun rest => ∃ rounds, rest = awaitBatch rounds) (awaitBatch rounds) := by
  induction rounds with
  | zero => exact (detached_pure _).oblivious
  | succ rounds ih =>
    rw [awaitBatch_succ]
    refine oblivious_get (fun _ => rfl) fun c => ?_
    split
    · exact (detached_pure _).oblivious
    split
    · exact (detached_pure _).oblivious
    refine pauseless_fetch.bind_oblivious fun _ => ?_
    change Oblivious _ (Program.get >>= fun c =>
      (if c.isSettled then pure () else waitBeforeRetry) >>= fun _ => awaitBatch rounds)
    refine oblivious_get (fun _ => rfl) fun c => ?_
    split
    · exact ih
    · exact oblivious_waitBeforeRetry ih ⟨rounds, rfl⟩

theorem pauseless_ensureOpen : Pauseless ensureOpen := by
  refine detached_get (fun _ _ _ => rfl) fun c => ?_
  split
  · exact detached_fail _
  · exact detached_pure ()

theorem oblivious_hasNext (rounds : Nat) :
    Oblivious (Remains Cursor.hasNext) (Cursor.hasNext rounds) := by
  refine pauseless_ensureOpen.bind_oblivious fun _ => ⟨(oblivious_awaitBatch rounds).undeterred, ?_⟩
  refine (oblivious_awaitBatch rounds).roused.imp fun q _ => ⟨rfl, fun x r h => ?_⟩
  cases q with
  | pause length =>
    rcases x with e | _
    · exact h
    · obtain ⟨_, rfl, hrest, rounds, rfl⟩ := h
      exact ⟨_, rfl, hrest, ⟨rounds, rfl⟩, unraised_awaitBatch rounds⟩
  | _ => exact h

theorem Oblivious.bind_remains (h : Oblivious (Remains call) p) (hf : ∀ a, Pauseless (f a))
    (hunraised : ∀ a, Unraised untilAsk Moment.cell (f a)) :
    Oblivious (Remains fun rounds => call rounds >>= f) (p >>= f) :=
  h.bind (fun a => (hf a).oblivious) fun _ hrest => hrest.bind hunraised

theorem oblivious_next (rounds : Nat) : Oblivious (Remains next) (next rounds) := by
  refine (oblivious_hasNext rounds).bind_remains (fun available => ?_) fun available => ?_
  · cases available with
    | ready => exact sizeless_takeBatch.pauseless.bind fun _ => detached_pure _
    | _ => exact detached_pure _
  · cases available with
    | ready => exact unraised_bind unraised_takeBatch fun _ => unraised_pure _
    | _ => exact unraised_pure _

theorem pauseless_tryNext : Pauseless tryNext := by
  rw [tryNext_eq]
  refine pauseless_ensureOpen.bind fun _ => Detached.bind ?_ fun _ => sizeless_handOut.pauseless
  refine detached_get (fun _ _ _ => rfl) fun c => ?_
  split
  · exact detached_pure ()
  · exact pauseless_fetch

end

/-- The same call, made anew. -/
def Activity.again (rounds : Nat) : Activity → Activity
  | hasNext _ => hasNext rounds
  | next _ => next rounds
  | a => a

/-- What is left to do of an activity after a wait. -/
abbrev Activity.Remains (a : Activity) : Program Cursor Yield → Prop :=
  Cursor.Remains fun rounds => (a.again rounds).program

/-- Whatever is done but interrupting takes no notice of an interruption, but where a wait is
    over. -/
theorem oblivious_program {a : Activity} (ha : a.interrupts = false) :
    Oblivious a.Remains a.program := by
  cases a with
  | opening first loopRuns =>
    exact ((pauseless_start first loopRuns).bind fun _ => detached_pure _).oblivious
  | hasNext rounds =>
    exact (oblivious_hasNext rounds).bind_remains (fun _ => detached_pure _)
      fun _ => unraised_pure _
  | next rounds =>
    exact (oblivious_next rounds).bind_remains (fun _ => detached_pure _) fun _ => unraised_pure _
  | tryNext => exact (pauseless_tryNext.bind fun _ => detached_pure _).oblivious
  | close loopRuns =>
    exact ((sizeless_close loopRuns).pauseless.bind fun _ => detached_pure _).oblivious
  | interrupt => cases ha
  | setBatchSize n =>
    refine Detached.oblivious (Detached.bind (detached_modify (fun _ => rfl) ?_)
      fun _ => detached_pure _)
    rintro _ rfl c
    rfl
  | cleanup target =>
    exact ((sizeless_cleanup target).pauseless.bind fun _ => detached_pure _).oblivious

/-- So it is after each exchange of an activity; an interruption itself makes none. -/
theorem roused_program (a : Activity) : AfterAsks (fun _ => true)
    (fun q x r => a.interrupts = false ∧ Roused a.Remains q x r) a.program := by
  rcases ha : a.interrupts with _ | _
  · exact (oblivious_program ha).roused.imp fun _ _ => ⟨rfl, fun _ _ h => ⟨rfl, h⟩⟩
  · cases a with
    | interrupt => exact fun _ => trivial
    | _ => cases ha

/-! ## Interruptions in a history -/

/-- Whether a wait has just come to its end. -/
def woken : List Incident → Bool
  | .answered (.pause _) (.ok _) _ :: _ => true
  | _ => false

/-- Whether a wait has just raised an interruption. -/
def raises : List Incident → Bool
  | .ended _ (.error .interrupted) :: earlier => woken earlier
  | _ => false

/-- Whether an interruption was asked for since the last that was raised. -/
def pending : List Incident → Bool
  | [] => false
  | i :: earlier => i.begins Activity.interrupts || (!raises (i :: earlier) && pending earlier)

/-- How many interruptions were raised. -/
def raised : List Incident → Nat
  | [] => 0
  | i :: earlier => raised earlier + if raises (i :: earlier) then 1 else 0

/-- Each wait that has come to its end has raised an interruption just if one was pending. -/
def Heard : List Incident → Prop
  | [] => True
  | i :: earlier => (woken earlier → (raises (i :: earlier) ↔ pending earlier)) ∧ Heard earlier

section
variable {i : Incident} {earlier later history : List Incident} {a : Activity}

theorem exists_of_woken (h : woken history) :
    ∃ d wasOpen earlier, history = .answered (.pause d) (.ok ()) wasOpen :: earlier := by
  unfold woken at h
  split at h
  · exact ⟨_, _, _, rfl⟩
  · cases h

theorem raises_of_not_woken (h : woken earlier = false) : raises (i :: earlier) = false := by
  unfold raises
  split
  · rename_i heq
    cases heq
    exact h
  · rfl

theorem raises_ended {o : Outcome Yield} (h : o ≠ .error .interrupted) :
    raises (.ended a o :: earlier) = false := by
  rcases o with e | y
  · cases e with
    | interrupted => exact absurd rfl h
    | _ => rfl
  · rfl

/-- From a history on, no interruption was asked for or raised. -/
structure Hushed (earlier later : List Incident) : Prop where
  pending : pending later = pending earlier
  raised : raised later = raised earlier
  heard : Heard earlier → Heard later

theorem Hushed.trans (h : Hushed earlier later) (h' : Hushed later history) :
    Hushed earlier history :=
  ⟨h'.pending.trans h.pending, h'.raised.trans h.raised, fun hheard => h'.heard (h.heard hheard)⟩

theorem hushed_cons (hi : i.begins Activity.interrupts = false)
    (hraises : raises (i :: earlier) = false) (hwoken : woken earlier → pending earlier = false) :
    Hushed earlier (i :: earlier) where
  pending := by simp [pending, hi, hraises]
  raised := by simp [raised, hraises]
  heard h := ⟨fun hw => by simp [hraises, hwoken hw], h⟩

theorem hushed_of_not_woken (hi : i.begins Activity.interrupts = false)
    (hwoken : woken earlier = false) : Hushed earlier (i :: earlier) :=
  hushed_cons hi (raises_of_not_woken hwoken) fun h => by simp [hwoken] at h

/-- What is done up to the next exchange raises an interruption only after a wait. -/
theorem hushed_proceed (a : Activity) (ts : List Thread) {p : Program Cursor Yield} :
    ∀ {m : Moment}, (woken m.history → pending m.history = false ∧ Ignores p m) →
      Hushed m.history (Life.proceed a ts p m).moment.history ∧
        woken (Life.proceed a ts p m).moment.history = false := by
  induction p with
  | done outcome =>
    intro m h
    refine ⟨hushed_cons rfl ?_ fun hw => (h hw).1, rfl⟩
    rcases hw : woken m.history with _ | _
    · exact raises_of_not_woken hw
    · exact raises_ended (h hw).2
  | read next ih => exact fun h => ih _ h
  | write c next ih => exact fun {m} h => ih (m := m.put c) h
  | note n next ih =>
    intro m h
    have hnoticed : Hushed m.history (.noticed n :: m.history) :=
      hushed_cons rfl rfl fun hw => (h hw).1
    have hrest := ih (m := m.record (.noticed n)) fun hw => by cases hw
    exact ⟨hnoticed.trans hrest.1, hrest.2⟩
  | ask q next ih => exact fun h => ⟨hushed_cons rfl rfl fun hw => (h hw).1, rfl⟩

/-- The incident after a wait tells whether an interruption was pending. -/
theorem Heard.raises_iff (h : Heard history) (hwoken : woken history = false) {d : Duration}
    {wasOpen : Bool} (heq : history = later ++ .answered (.pause d) (.ok ()) wasOpen :: earlier) :
    (∃ a, later.getLast? = some (.ended a (.error .interrupted))) ↔ pending earlier := by
  subst heq
  have hne : later ≠ [] := by
    rintro rfl
    cases hwoken
  clear hwoken
  induction later with
  | nil => exact absurd rfl hne
  | cons i later ih =>
    cases later with
    | nil =>
      refine Iff.trans ?_ (h.1 rfl)
      constructor
      · rintro ⟨a, ha⟩
        cases ha
        rfl
      · intro hraises
        unfold raises at hraises
        split at hraises
        · rename_i heq
          cases heq
          exact ⟨_, rfl⟩
        · cases hraises
    | cons j later =>
      rw [List.getLast?_cons_cons]
      exact ih h.2 (List.cons_ne_nil _ _)

end

/-! ## Lives without interruptions -/

/-- Whether an incident belongs to an interruption. -/
def Incident.isInterruption (i : Incident) : Bool :=
  i.begins Activity.interrupts || i.ends Activity.interrupts

/-- The same moment without its interruptions. -/
def Moment.calm (m : Moment) : Moment :=
  m.altered .calming (List.filter fun i => !i.isInterruption)

/-- The same life without its interruptions. -/
def Life.calm (l : Life) : Life := { l with moment := l.moment.calm }

/-- The same regime without interruptions. -/
def Regime.calm (r : Regime) : Regime :=
  { r with offers := fun a => r.offers a ∧ a.interrupts = false }

/-- The cursor and its history agree on whether an interruption is pending, and all waits have
    heeded it. -/
structure Attentive (m : Moment) : Prop where
  flag : m.cursor.interrupted = pending m.history
  heard : Heard m.history
  woken : woken m.history = false

section
variable {r : Regime} {a : Activity} {ts : List Thread} {m : Moment} {l l' : Life}
  {rest : Program Cursor Yield}

theorem calm_record {i : Incident} (hi : i.isInterruption = false) (m : Moment) :
    (m.record i).calm = m.calm.record i := by
  simp [Moment.calm, Moment.altered, Moment.record, hi]

theorem calm_proceed (ha : a.interrupts = false) {p : Program Cursor Yield}
    (hp : Parallel .calming m.cursor p p) :
    (Life.proceed a ts p m).calm = Life.proceed a ts p m.calm := by
  refine (hp.proceed_told ts (fun i is hi => ?_) m rfl).symm
  have hkept : i.isInterruption = false := by
    cases i with
    | ended b o =>
      obtain rfl : b = a := hi
      exact ha
    | begun b => cases hi
    | _ => rfl
  rw [List.filter_cons, hkept]
  rfl

/-- What goes on with no wait that is over, or after one that no interruption ends. -/
theorem attentive_proceed (ha : a.interrupts = false) (ts : List Thread)
    {p : Program Cursor Yield} (hp : Parallel .calming m.cursor p p)
    (hflag : m.cursor.interrupted = pending m.history) (hheard : Heard m.history)
    (hwoken : woken m.history → pending m.history = false ∧ Ignores p m) :
    Attentive (Life.proceed a ts p m).moment ∧
      raised (Life.proceed a ts p m).moment.history = raised m.history ∧
      (Life.proceed a ts p m).calm = Life.proceed a ts p m.calm := by
  obtain ⟨hhushed, hover⟩ := hushed_proceed a ts hwoken
  have hkept := hp.interrupted_proceed a ts m rfl
  exact ⟨⟨hkept.trans (hflag.trans hhushed.pending.symm), hhushed.heard hheard, hover⟩,
    hhushed.raised, calm_proceed ha hp⟩

theorem attentive_begin (h : Attentive l.moment) (ha : a.interrupts = false) :
    Attentive (l.begin a).moment ∧
      raised (l.begin a).moment.history = raised l.moment.history ∧
      (l.begin a).calm = l.calm.begin a := by
  have hbegun : Hushed l.moment.history (.begun a :: l.moment.history) :=
    hushed_of_not_woken ha h.woken
  have hcalm : (l.moment.record (.begun a)).calm = l.moment.calm.record (.begun a) :=
    calm_record (i := .begun a) (Bool.or_eq_false_iff.2 ⟨ha, rfl⟩) _
  obtain ⟨hattentive, hraised, hlife⟩ := attentive_proceed (m := l.moment.record (.begun a)) ha
    l.threads ((oblivious_program ha).undeterred _ rfl _) (h.flag.trans hbegun.pending.symm)
    (hbegun.heard h.heard) fun hw => by cases hw
  exact ⟨hattentive, hraised.trans hbegun.raised, hlife.trans (congrArg _ hcalm)⟩

/-! ## Waits that are over -/

theorem parallel_wake {c : Cursor} (hflag : c.interrupted = false) (hrest : Undeterred rest) :
    Parallel .calming c (wake >>= fun _ => rest) (wake >>= fun _ => rest) := by
  have hcalm : c.altered .calming = c := by
    obtain ⟨⟩ := c
    cases hflag
    rfl
  refine .read ?_
  rw [hcalm]
  change Parallel _ c ((if c.interrupted then _ else if c.closed then _ else _) >>= _)
    ((if c.interrupted then _ else if c.closed then _ else _) >>= _)
  rw [if_neg (by simp [hflag])]
  split
  · exact .done c _
  · exact hrest _ rfl c

theorem unraised_wake (hflag : m.cursor.interrupted = false)
    (hrest : Unraised untilAsk Moment.cell rest) : Ignores (wake >>= fun _ => rest) m := by
  change Ensures _ _ _
    ((if m.cursor.interrupted then _ else if m.cursor.closed then _ else _) >>= _) m
  rw [if_neg (by simp [hflag])]
  split
  · exact nofun
  · exact hrest m

theorem proceed_wake (hflag : m.cursor.interrupted) :
    Life.proceed a ts (wake >>= fun _ => rest) m =
      ⟨(m.put { m.cursor with interrupted := false }).record (.ended a (.error .interrupted)),
        ts⟩ := by
  change Life.proceed a ts
    ((if m.cursor.interrupted then _ else if m.cursor.closed then _ else _) >>= _) m = _
  rw [if_pos hflag]
  rfl

theorem Roused.cases {K : Program Cursor Yield → Prop} {q : Exchange} {x : Outcome q.Answer}
    {p : Program Cursor Yield} (h : Roused K q x p) (wasOpen : Bool) (earlier : List Incident) :
    woken (.answered q x wasOpen :: earlier) = false ∧ Undeterred p ∨
      woken (.answered q x wasOpen :: earlier) ∧
        ∃ rest, p = (wake >>= fun _ => rest) ∧ Undeterred rest ∧ K rest := by
  cases q with
  | pause d =>
    rcases x with e | _
    · exact .inl ⟨rfl, h⟩
    · exact .inr ⟨rfl, h⟩
  | _ => exact .inl ⟨rfl, h⟩

/-! ## Whole lives -/

/-- What the threads of a life may do once they are answered. -/
def Life.Rousable (l : Life) : Prop := ∀ t ∈ l.threads, AfterAsks (fun _ => true)
  (fun q x p => t.activity.interrupts = false ∧ Roused t.activity.Remains q x p) t.rest

/-- From a life to another one interruption was raised, or all has gone as it would without
    interruptions. -/
structure Life.Attends (r : Regime) (l l' : Life) : Prop where
  attentive : Attentive l'.moment
  calm : raised l'.moment.history = raised l.moment.history + 1 ∨
    raised l'.moment.history = raised l.moment.history ∧ Life.Reaches r.calm l.calm l'.calm

theorem attends_begin (h : Attentive l.moment) (hcall : Life.MayCall r a l) :
    l.Attends r (l.begin a) := by
  rcases ha : a.interrupts with _ | _
  · obtain ⟨hattentive, hraised, hcalm⟩ := attentive_begin h ha
    refine ⟨hattentive, .inr ⟨hraised, ?_⟩⟩
    rw [hcalm]
    exact .single (.call ⟨⟨hcall.offered, ha⟩, hcall.operation, hcall.made, hcall.single⟩)
  · cases a with
    | interrupt =>
      have hbegun : Heard (.begun .interrupt :: l.moment.history) :=
        ⟨fun hw => by simp [h.woken] at hw, h.heard⟩
      exact ⟨⟨rfl, ⟨(fun hw => by cases hw), hbegun⟩, rfl⟩, .inr ⟨rfl, .refl⟩⟩
    | _ => cases ha

theorem attends_resume {before after : List Thread} {q : Exchange}
    {next : Outcome q.Answer → Program Cursor Yield} {x : Outcome q.Answer}
    (hthreads : Life.Rousable ⟨m, before ++ ⟨a, .ask q next⟩ :: after⟩) (h : Attentive m)
    (order : r.nested → before = []) (hx : r.admits q x) :
    Life.Attends r ⟨m, before ++ ⟨a, .ask q next⟩ :: after⟩
      (Life.proceed a (before ++ after) (next x) (m.answer q x)) := by
  obtain ⟨ha, hroused⟩ := (hthreads ⟨a, .ask q next⟩ (by simp)).1 rfl x
  have hanswered : Hushed m.history (m.answer q x).history := hushed_of_not_woken rfl h.woken
  have hflag : (m.answer q x).cursor.interrupted = pending (m.answer q x).history :=
    h.flag.trans hanswered.pending.symm
  have hheard := hanswered.heard h.heard
  have hgoes (hp : Parallel .calming (m.answer q x).cursor (next x) (next x))
      (hwoken : woken (m.answer q x).history → pending (m.answer q x).history = false ∧
        Ignores (next x) (m.answer q x)) : Life.Attends r ⟨m, before ++ ⟨a, .ask q next⟩ :: after⟩
      (Life.proceed a (before ++ after) (next x) (m.answer q x)) := by
    obtain ⟨hattentive, hraised, hcalm⟩ :=
      attentive_proceed ha (before ++ after) hp hflag hheard hwoken
    refine ⟨hattentive, .inr ⟨hraised.trans hanswered.raised, ?_⟩⟩
    rw [hcalm]
    exact .single (.resume (r := r.calm) (m := m.calm) order hx)
  rcases hroused.cases (!m.cursor.closed) m.history with
    ⟨hwoken, hund⟩ | ⟨hwoken, rest, hrest, hund, hremains⟩
  · refine hgoes (hund _ rfl _) fun hw => ?_
    exact absurd (hw.symm.trans hwoken) (by decide)
  · rcases hi : (m.answer q x).cursor.interrupted with _ | _
    · rw [hrest] at hgoes ⊢
      exact hgoes (parallel_wake hi hund)
        fun _ => ⟨hflag.symm.trans hi, unraised_wake hi hremains.unraised⟩
    · -- the wait raises what is pending, and takes it back
      rw [hrest, proceed_wake hi]
      have hraises : raises (.ended a (.error .interrupted) :: (m.answer q x).history) = true :=
        hwoken
      refine ⟨⟨?_, ⟨fun _ => ?_, hheard⟩, rfl⟩, .inl ?_⟩
      · simp [pending, hraises, Incident.begins]
      · exact iff_of_true hraises (hflag.symm.trans hi)
      · simp [raised, hraises, hanswered.raised]

/-- In a step one interruption is raised, or all goes as it would without interruptions. -/
theorem attends_step (hthreads : l.Rousable) (h : Attentive l.moment) (hs : Life.Step r l l') :
    l.Attends r l' := by
  cases hs with
  | call hcall => exact attends_begin h hcall
  | @run _ before after target hcleanups =>
    obtain ⟨hattentive, hraised, hcalm⟩ := attentive_begin (a := .cleanup target)
      (l := l.unscheduled (before ++ after)) ⟨h.flag, h.heard, h.woken⟩ rfl
    refine ⟨hattentive, .inr ⟨hraised, ?_⟩⟩
    rw [hcalm]
    exact .single (.run (l := l.calm) hcleanups)
  | resume order hx => exact attends_resume hthreads h order hx

variable {c : Cursor} {first : QueryResult} {loopRuns : Bool}

theorem rousable_of_reaches (hl : Life.Reaches r (Life.opening c first loopRuns) l) : l.Rousable :=
  afterAsks_of_reaches (P := fun a q x p => a.interrupts = false ∧ Roused a.Remains q x p)
    roused_program hl

/-- **Waits heed interruptions.** -/
theorem attentive_of_reaches (hc : c.interrupted = false)
    (hl : Life.Reaches r (Life.opening c first loopRuns) l) : Attentive l.moment := by
  induction hl with
  | refl =>
    have hnew : Attentive ⟨c, []⟩ := ⟨hc, trivial, rfl⟩
    exact (attentive_begin (l := ⟨⟨c, []⟩, []⟩) (a := .opening first loopRuns) hnew rfl).1
  | tail hl hstep ih => exact (attends_step (rousable_of_reaches hl) ih hstep).attentive

/-- **Where no interruption is raised, all goes as it would without.** -/
theorem calm_of_reaches (hc : c.interrupted = false)
    (hl : Life.Reaches r (Life.opening c first loopRuns) l) (hl' : Life.Reaches r l l') :
    raised l.moment.history ≤ raised l'.moment.history ∧
      (raised l'.moment.history = raised l.moment.history →
        Life.Reaches r.calm l.calm l'.calm) := by
  induction hl' with
  | refl => exact ⟨Nat.le_refl _, fun _ => .refl⟩
  | @tail l₁ l₂ hl₁ hstep ih =>
    have hreached := hl.trans hl₁
    obtain ⟨-, hraised | ⟨hraised, hcalm⟩⟩ :=
      attends_step (rousable_of_reaches hreached) (attentive_of_reaches hc hreached) hstep
    · have := ih.1
      exact ⟨by omega, fun heq => by omega⟩
    · exact ⟨hraised ▸ ih.1, fun heq => (ih.2 (hraised.symm.trans heq)).trans hcalm⟩

end

end DocumentClient.Cursor
