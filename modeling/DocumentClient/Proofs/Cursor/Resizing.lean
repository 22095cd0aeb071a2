/-
  Batch sizes set while a fetch is under way.

  A cursor reads its batch size twice: where it sends a fetch, and where it absorbs what the fetch
  brings.  In between others may set it.  All that is done after a fetch takes no notice of the
  batch size, but for absorbing; and where a batch leaves the server cursor alive and the limit out
  of reach, the server cursor is kept or dropped, and then left alone up to the next pause.
  `Absorbs` says both of an answer, `Absorbing` of every fetch a program may make.

  `resumes_alike_iff`: what is set in flight makes no difference to a batch, unless it changes the
  sign of the batch size.
-/
import DocumentClient.Proofs.Cursor.Kills
import DocumentClient.Proofs.Cursor.Sizes
import DocumentClient.Proofs.Cursor.Parallel

namespace DocumentClient.Cursor

open Program (Ensures Environment)

/-! ## The final batch -/

/-- What an answer brings is absorbed as under another batch size: it brings no batch, or the cursor
    is closed, or what becomes of the batch and of the server cursor is the same. -/
def AbsorbsAlike (b : Int) (c : Cursor) (q : Exchange) (x : Outcome q.Answer) : Prop :=
  ∀ target result, fetched target q x = .ok result → c.closed = false →
    c.progress.advance c.limit b result = c.progress.advance c.limit c.batchSize result

/-- An answer brings a batch, leaves its server cursor alive, and does not reach the limit: whether
    the server cursor is kept is left to the rule of the final batch. -/
def BringsAlive (c : Cursor) (q : Exchange) (x : Outcome q.Answer) (s : ServerCursor) : Prop :=
  ∃ target result, fetched target q x = .ok result ∧ result.cursor = some s ∧
    limitReached c.limit (c.progress.delivered + result.results.length) = false

/-- The sign of the batch size decides what becomes of an answer: the cursor is open, the batch
    leaves its server cursor alive, and of two batch sizes one is negative and the other is not. -/
structure SignDecides (b : Int) (c : Cursor) (q : Exchange) (x : Outcome q.Answer) : Prop where
  opened : c.closed = false
  alive : ∃ s, BringsAlive c q x s
  limit : 0 ≤ c.limit
  sign : ¬ (b < 0 ↔ c.batchSize < 0)

/-- The server cursor that a cursor holds after a batch that leaves it alive. -/
def heldAfter (c : Cursor) (s : ServerCursor) : Option ServerCursor :=
  if isFinalBatch c.limit c.batchSize then none else some s

/-- Which server cursor was asked matters only to what a failure means. -/
theorem fetched_ok {q : Exchange} {x : Outcome q.Answer} {target target' : ServerCursor}
    {result : QueryResult} (h : fetched target q x = .ok result) :
    fetched target' q x = .ok result := by
  cases q with
  | command connection database command secondaryOk names decode =>
    rcases x with e | reply
    · cases h
    · exact h
  | getMore connection ns cursorId count decode => exact h
  | _ => cases h

theorem isFinalBatch_eq_iff {limit b b' : Int} :
    isFinalBatch limit b = isFinalBatch limit b' ↔ limit < 0 ∨ (b < 0 ↔ b' < 0) := by
  rw [Bool.eq_iff_iff]
  simp only [isFinalBatch, Bool.or_eq_true, decide_eq_true_eq]
  omega

/-- The batch size matters to a batch only where it decides whether the batch is the final one. -/
theorem advance_congr {p : Progress} {limit b b' : Int} {result : QueryResult}
    (h : ∀ s, result.cursor = some s →
      limitReached limit (p.delivered + result.results.length) = false →
      isFinalBatch limit b = isFinalBatch limit b') :
    p.advance limit b result = p.advance limit b' result := by
  unfold Progress.advance
  rcases hs : result.cursor with _ | s
  · rfl
  dsimp only
  split
  · rfl
  · rename_i hroom
    rw [h s hs (eq_false_of_ne_true hroom)]

theorem absorbsAlike_of_not_signDecides {q : Exchange} {x : Outcome q.Answer} {b : Int} {c : Cursor}
    (h : ¬ SignDecides b c q x) : AbsorbsAlike b c q x := by
  intro target result hresult hopen
  refine advance_congr fun s hs hroom => isFinalBatch_eq_iff.2 ?_
  by_contra hfinal
  rw [not_or, Int.not_lt] at hfinal
  exact h ⟨hopen, ⟨s, target, result, hresult, hs, hroom⟩, hfinal.1, hfinal.2⟩

theorem heldAfter_ne_of_signDecides {q : Exchange} {x : Outcome q.Answer} {b : Int} {c : Cursor}
    (h : SignDecides b c q x) (s : ServerCursor) : (c.resized b).heldAfter s ≠ c.heldAfter s := by
  have hfinal : isFinalBatch c.limit b ≠ isFinalBatch c.limit c.batchSize := by
    rw [Ne, isFinalBatch_eq_iff, not_or, Int.not_lt]
    exact ⟨h.limit, h.sign⟩
  unfold heldAfter resized
  dsimp only
  rcases hb : isFinalBatch c.limit b with _ | _ <;>
    rcases hc : isFinalBatch c.limit c.batchSize with _ | _ <;> simp [hb, hc] at hfinal ⊢

/-! ## Up to the next pause -/

variable {α β : Type} {t : Alteration} {T : Alteration → Prop} {c : Cursor}
  {p : Program Cursor α}

/-- The cursor is open and holds a server cursor or none, and no kill was scheduled or requested
    since an earlier moment. -/
structure Stands (s : Option ServerCursor) (since m : Moment) : Prop where
  opened : m.cursor.closed = false
  serverCursor : m.cursor.progress.serverCursor = s
  cleanups : m.cursor.cleanups = since.cursor.cleanups
  killRequests : m.killRequests = since.killRequests

/-- The environment of programs up to their next pause, which must find the world as promised. -/
def untilPause (P : Moment → Prop) : Environment Moment where
  take n m := m.record (.noticed n)
  demands q m := (∃ length, q = .pause length) ∧ P m
  resumes _ _ _ _ := False

/-- Up to its next pause or its end, a program leaves the server cursor alone, and ends as said. -/
abbrev LetsStand (O : Outcome α → Prop) (s : Option ServerCursor) (since : Moment)
    (p : Program Cursor α) (m : Moment) : Prop :=
  Ensures (untilPause (Stands s since)) Moment.cell (fun o m' => O o ∧ Stands s since m') p m

/-- A program leaves the server cursor alone up to its next pause. -/
def Harmless (p : Program Cursor α) : Prop :=
  ∀ s since, Keeps (untilPause (Stands s since)) Moment.cell (Stands s since) p

section
variable {s : Option ServerCursor} {since m : Moment}

theorem killRequests_record (m : Moment) {i : Incident} (hi : i.requestsKill = false) :
    (m.record i).killRequests = m.killRequests :=
  List.countP_cons_of_neg (by simp [hi])

theorem Stands.record (h : Stands s since m) {i : Incident} (hi : i.requestsKill = false) :
    Stands s since (m.record i) :=
  ⟨h.opened, h.serverCursor, h.cleanups, (killRequests_record m hi).trans h.killRequests⟩

theorem Stands.put (h : Stands s since m) {c : Cursor} (hclosed : c.closed = m.cursor.closed)
    (hs : c.progress.serverCursor = m.cursor.progress.serverCursor)
    (hcleanups : c.cleanups = m.cursor.cleanups) : Stands s since (m.put c) :=
  ⟨hclosed.trans h.opened, hs.trans h.serverCursor, hcleanups.trans h.cleanups, h.killRequests⟩

theorem harmless_releaseResources : Harmless releaseResources := by
  intro s since m h
  refine ensures_releaseResources.2 (settle_of_take ?_ ?_ h)
  · exact fun n m h => h.record rfl
  · exact fun m h => h.put rfl rfl rfl

theorem harmless_takeBatch : Harmless takeBatch := by
  intro s since m h
  refine ensures_takeBatch.2 ?_
  split
  · exact h
  · exact h.put rfl rfl rfl

theorem harmless_handOut : Harmless handOut := by
  intro s since
  refine keeps_bind keeps_get fun c => ?_
  split
  · exact keeps_bind (harmless_takeBatch s since) fun _ => keeps_pure _
  · exact keeps_pure none

/-- It asks for nothing but a pause. -/
theorem letsStand_waitBeforeRetry {f : Unit → Program Cursor α} (h : Stands s since m) :
    Ensures (untilPause (Stands s since)) Moment.cell (fun _ m' => Stands s since m')
      (waitBeforeRetry >>= f) m := by
  simp only [waitBeforeRetry, Program.ensures_bind, Program.ensures_get, Program.continues_ok,
    Program.ensures_ofOutcome]
  rcases Duration.ofInterval (Moment.cell.load m).settings.pollInterval with e | length
  · exact h
  · exact ⟨⟨⟨length, rfl⟩, h⟩, fun _ _ hresumes => False.elim hresumes⟩

theorem letsStand_awaitBatch (h : Stands s since m) (hsettled : m.cursor.isSettled) (rounds : Nat) :
    Ensures (untilPause (Stands s since)) Moment.cell (fun _ m' => Stands s since m')
      (awaitBatch rounds) m := by
  cases rounds with
  | zero => exact h
  | succ rounds =>
    rw [awaitBatch_succ]
    simp only [Program.ensures_bind, Program.ensures_get, Program.continues_ok, Moment.cell_load]
    split
    · exact h
    split
    · exact h
    · rename_i hbatch hexhausted
      simp [isSettled, hbatch, hexhausted] at hsettled

/-- After a fetch that settles nothing, there is a pause before the next. -/
theorem harmless_retry (rounds : Nat) :
    Harmless (pauseUnlessSettled >>= fun _ => awaitBatch rounds) := by
  intro s since m h
  change Ensures _ _ _ ((if m.cursor.isSettled then _ else _) >>= fun _ => awaitBatch rounds) m
  split
  · rename_i hsettled
    exact letsStand_awaitBatch h hsettled rounds
  · exact letsStand_waitBeforeRetry h

end

/-! ## Absorbing -/

/-- After an answer to a fetch, a program goes on alike where the batch is absorbed alike, and where
    the batch leaves the server cursor alive, this is kept or dropped and then left alone. -/
structure Absorbs (O : Outcome α → Prop) (q : Exchange) (x : Outcome q.Answer)
    (p : Program Cursor α) : Prop where
  alike : ∀ b c, AbsorbsAlike b c q x → Parallel (.resizing b) c p p
  letsStand : ∀ m s, m.cursor.closed = false → BringsAlive m.cursor q x s →
    LetsStand O (m.cursor.heldAfter s) m p m

/-- A program absorbs what its fetches bring, and takes no other notice of the batch size. -/
def Absorbing (p : Program Cursor α) : Prop := AfterFetches (Absorbs fun _ => True) p

/-- A program that may follow on a fetch. -/
structure Onward (p : Program Cursor α) : Prop where
  careless : Careless (fun _ => True) p
  harmless : Harmless p
  absorbing : Absorbing p

section
variable {O : Outcome α → Prop} {f : α → Program Cursor β}

/-- Another program follows, for each outcome as it must. -/
theorem Absorbs.bind {O' : Outcome β → Prop} {q : Exchange} {x : Outcome q.Answer}
    (h : Absorbs O q x p) (hf : ∀ a, Careless (fun _ => True) (f a))
    (hok : ∀ a s since m, O (.ok a) → Stands s since m → LetsStand O' s since (f a) m)
    (herror : ∀ e, O (.error e) → O' (.error e)) : Absorbs O' q x (p >>= f) := by
  refine ⟨fun b c hx => (h.alike b c hx).bind fun a => hf a _ trivial, fun m s hopen hx => ?_⟩
  refine Program.ensures_bind.2 (Program.ensures_mono ?_ (h.letsStand m s hopen hx))
  rintro (e | a) m' ⟨ho, hm'⟩
  · exact ⟨herror e ho, hm'⟩
  · exact hok a _ _ m' ho hm'

theorem Absorbs.attempt {q : Exchange} {x : Outcome q.Answer} (h : Absorbs O q x p) :
    Absorbs (fun o => ∃ o', o = .ok o' ∧ O o') q x p.attempt := by
  refine ⟨fun b c hx => (h.alike b c hx).attempt, fun m s hopen hx => ?_⟩
  refine Program.ensures_attempt.2 (Program.ensures_mono ?_ (h.letsStand m s hopen hx))
  exact fun o m' ho => ⟨⟨o, rfl, ho.1⟩, ho.2⟩

/-- A notice is given in any case. -/
theorem absorbs_always (hp : AfterFetches (Absorbs O) p) (n : Notice) :
    AfterFetches (Absorbs O) (p.always (Program.notify n)) := by
  have hlast : ∀ o : Outcome α, Sizeless (Program.notify n >>= fun _ => Program.ofOutcome o) :=
    fun o => (detached_notify n).bind fun _ => detached_done o
  refine afterAsks_bind (fun q x r h => ?_)
    (afterAsks_attempt (fun q x r h => Absorbs.attempt h) hp)
    fun o => (hlast o).fetchless.afterFetches
  refine h.bind (fun o => (hlast o).careless) ?_ ?_
  · rintro o s since m ⟨o', heq, ho⟩ hm
    cases heq
    exact ⟨ho, hm.record rfl⟩
  · rintro e ⟨o', heq, -⟩
    cases heq

theorem Onward.letsStand {p : Program Cursor α} (h : Onward p) {s : Option ServerCursor}
    {since m : Moment} (hm : Stands s since m) : LetsStand (fun _ => True) s since p m :=
  Program.ensures_mono (fun _ _ hm' => ⟨trivial, hm'⟩) (h.harmless s since m hm)

theorem absorbing_bind (hp : Absorbing p) (hf : ∀ a, Onward (f a)) : Absorbing (p >>= f) := by
  refine afterAsks_bind (fun q x r h => ?_) hp fun a => (hf a).absorbing
  exact h.bind (fun a => (hf a).careless) (fun a s since m _ hm => (hf a).letsStand hm)
    fun _ _ => trivial

theorem Detached.absorbing (hp : Detached T isHousekeeping p) : Absorbing p :=
  hp.fetchless.afterFetches

theorem onward_pure (a : α) : Onward (pure a : Program Cursor α) :=
  ⟨fun _ _ c => .done c (.ok a), fun _ _ => keeps_pure a, trivial⟩

theorem Onward.bind_pure (hp : Onward p) (g : α → β) : Onward (p >>= fun a => pure (g a)) where
  careless := hp.careless.bind fun a => (onward_pure (g a)).careless
  harmless s since := keeps_bind (hp.harmless s since) fun _ => keeps_pure _
  absorbing := absorbing_bind hp.absorbing fun a => onward_pure (g a)

end

/-! ## Fetching -/

theorem fetchless_absorb (result : QueryResult) : Fetchless (absorb result) := by
  rw [absorb_eq]
  refine afterAsks_get fun c => ?_
  generalize c.progress.advance c.limit c.batchSize result = after
  obtain ⟨progress, verdict⟩ := after
  cases verdict <;> trivial

theorem fetchless_follow (connection : Connection) (result : QueryResult) :
    Fetchless (follow connection result) := by
  refine afterAsks_get fun c => ?_
  split
  · trivial
  · exact (fetchless_absorb result).bind fun verdict =>
      (sizeless_followUp connection verdict).fetchless

/-- The server cursor is not to be killed. -/
def Spared (o : Outcome Verdict) : Prop := ∃ verdict, o = .ok verdict ∧ verdict.followUp ≠ .kill

theorem letsStand_follow {m since : Moment} {s₀ : Option ServerCursor} {s : ServerCursor}
    {result : QueryResult} (h : Stands s₀ since m) (hs : result.cursor = some s)
    (hroom : limitReached m.cursor.limit (m.cursor.progress.delivered + result.results.length)
      = false) (connection : Connection) :
    LetsStand Spared (m.cursor.heldAfter s) since (follow connection result) m := by
  refine Program.ensures_bind.2 ?_
  simp only [Program.ensures_get, Program.continues_ok, Moment.cell_load]
  rw [if_neg (by simp [h.opened])]
  refine Program.ensures_bind.2 (ensures_absorb_of fun progress verdict m₁ hadvances hm₁ => ?_)
  have hkillRequests : m₁.killRequests = since.killRequests := by
    rcases hm₁ with rfl | ⟨message, rfl⟩
    · exact h.killRequests
    · exact (h.record (i := .noticed (.log .info message)) rfl).killRequests
  simp only [Moment.cell_load] at hadvances
  rw [Program.continues_ok, Moment.cell_store]
  cases hadvances.fate with
  | ended h _ => simp [hs] at h
  | limitReached _ hreached _ => simp [hadvances.delivered, hroom] at hreached
  | @dropped cursor _ _ hfinal hgone =>
    rw [heldAfter, if_pos hfinal]
    refine ⟨⟨_, rfl, ?_⟩, h.opened, hgone, h.cleanups, hkillRequests⟩
    simp [Verdict.followUp]
  | @kept cursor hcursor _ hfinal hheld =>
    rw [heldAfter, if_neg (by simp [hfinal]), ← hs, hcursor]
    refine ⟨⟨_, rfl, ?_⟩, h.opened, hheld, h.cleanups, hkillRequests⟩
    simp [Verdict.followUp]

theorem absorbs_fetchOver (target : ServerCursor) (connection : Connection) :
    AfterFetches (Absorbs Spared) (fetchOver target connection) := by
  rw [fetchOver_eq, requestBatch_eq]
  refine fun c => ⟨fun _ x => ⟨fun b c' h => ?_, fun m s hopen h => ?_⟩, fun x => ?_⟩
  · dsimp only
    rcases hx : fetched target (fetchExchange c connection target) x with e | result
    · exact .done c' (.error e)
    · exact .note _ (parallel_follow connection (h target result hx))
  · obtain ⟨target', result, hresult, hs, hroom⟩ := h
    dsimp only
    rw [fetched_ok hresult]
    have hstands : Stands m.cursor.progress.serverCursor m m := ⟨hopen, rfl, rfl, rfl⟩
    exact letsStand_follow (hstands.record (i := .noticed _) rfl) hs hroom connection
  · dsimp only
    rcases fetched target (fetchExchange c connection target) x with e | result
    · trivial
    · exact (fetchless_follow connection result).afterFetches

theorem absorbs_withConnection {O : Outcome α → Prop} {use : Connection → Program Cursor α}
    (huse : ∀ connection, AfterFetches (Absorbs O) (use connection)) :
    AfterFetches (Absorbs O) (withConnection use) := by
  exact afterFetches_withConnection huse fun connection => absorbs_always (huse connection) _

theorem harmless_conclude {verdict : Verdict} (h : verdict.followUp ≠ .kill) :
    Harmless (conclude (.ok verdict)) := by
  intro s since
  cases verdict with
  | kept => exact keeps_pure ()
  | limitReached => exact absurd rfl h
  | _ => exact harmless_releaseResources s since

theorem absorbing_fetch : Absorbing fetch := by
  refine afterAsks_get fun c => ?_
  rcases c.progress.serverCursor with _ | target
  · trivial
  have hattempt := afterAsks_attempt (fun q x r h => Absorbs.attempt h)
    (absorbs_withConnection (absorbs_fetchOver target))
  change Absorbing ((withConnection (fetchOver target)).attempt >>= conclude)
  refine afterAsks_bind (fun q x r h => ?_) hattempt
    fun outcome => (sizeless_conclude outcome).absorbing
  refine h.bind (fun outcome => (sizeless_conclude outcome).careless) ?_ fun _ _ => trivial
  rintro outcome s since m ⟨_, hok, verdict, rfl, hverdict⟩ hm
  cases hok
  exact Program.ensures_mono (fun _ _ hm' => ⟨trivial, hm'⟩)
    (harmless_conclude hverdict s since m hm)

/-! ## Retrieving -/

theorem absorbing_ensureOpen {f : Unit → Program Cursor α} (hf : Absorbing (f ())) :
    Absorbing (ensureOpen >>= f) := by
  refine fun c => ?_
  change Absorbing ((if c.closed then _ else _) >>= f)
  split
  · trivial
  · exact hf

/-- It pauses, and looks at the cursor again. -/
theorem absorbing_waitBeforeRetry {f : Unit → Program Cursor α} (hf : Absorbing (f ())) :
    Absorbing (waitBeforeRetry >>= f) := by
  intro c
  change Absorbing ((Program.ofOutcome (Duration.ofInterval c.settings.pollInterval) >>= _) >>= f)
  rcases Duration.ofInterval c.settings.pollInterval with e | length
  · trivial
  refine ⟨fun hfetch => by simp [isFetch] at hfetch, fun x => ?_⟩
  rcases x with e | _
  · trivial
  intro c'
  change Absorbing ((if c'.interrupted then _ else if c'.closed then _ else _) >>= f)
  split
  · trivial
  split
  · trivial
  · exact hf

theorem parallel_waitBeforeRetry (f : Unit → Program Cursor α) :
    Parallel t c (waitBeforeRetry >>= f) (waitBeforeRetry >>= f) := by
  refine .read ?_
  change Parallel t c
    ((Program.ofOutcome (Duration.ofInterval c.settings.pollInterval) >>= _) >>= f)
    ((Program.ofOutcome (Duration.ofInterval c.settings.pollInterval) >>= _) >>= f)
  rcases Duration.ofInterval c.settings.pollInterval with e | length
  · exact .done c (.error e)
  · exact .ask c _ _

/-- Where it is settled what comes, nothing is fetched. -/
theorem parallel_awaitBatch (hsettled : c.isSettled) (rounds : Nat) :
    Parallel t c (awaitBatch rounds) (awaitBatch rounds) := by
  cases rounds with
  | zero => exact .done c (.ok Availability.pending)
  | succ rounds =>
    rw [awaitBatch_succ]
    refine parallel_get ?_
    change Parallel t c (if c.hasBatch then _ else if c.isExhausted then _ else _)
      (if c.hasBatch then _ else if c.isExhausted then _ else _)
    split
    · exact .done c (.ok Availability.ready)
    split
    · exact .done c (.ok Availability.ended)
    · rename_i hbatch hexhausted
      simp [isSettled, hbatch, hexhausted] at hsettled

/-- After a fetch that settles nothing, there is a pause before the next. -/
theorem onward_retry (rounds : Nat) (hrest : Absorbing (awaitBatch rounds)) :
    Onward (pauseUnlessSettled >>= fun _ => awaitBatch rounds) := by
  refine ⟨fun t _ c => .read ?_, harmless_retry rounds, fun c => ?_⟩
  · change Parallel t c ((if c.isSettled then _ else _) >>= fun _ => awaitBatch rounds)
      ((if c.isSettled then _ else _) >>= fun _ => awaitBatch rounds)
    split
    · rename_i hsettled
      exact parallel_awaitBatch hsettled rounds
    · exact parallel_waitBeforeRetry _
  · change Absorbing ((if c.isSettled then _ else _) >>= fun _ => awaitBatch rounds)
    split
    · exact hrest
    · exact absorbing_waitBeforeRetry hrest

theorem absorbing_awaitBatch (rounds : Nat) : Absorbing (awaitBatch rounds) := by
  induction rounds with
  | zero => trivial
  | succ rounds ih =>
    rw [awaitBatch_succ]
    refine afterAsks_get fun c => ?_
    split
    · trivial
    split
    · trivial
    · exact absorbing_bind absorbing_fetch fun _ => onward_retry rounds ih

theorem absorbing_hasNext (rounds : Nat) : Absorbing (hasNext rounds) :=
  absorbing_ensureOpen (absorbing_awaitBatch rounds)

theorem absorbing_next (rounds : Nat) : Absorbing (next rounds) := by
  have htake : Onward takeBatch :=
    ⟨sizeless_takeBatch.careless, harmless_takeBatch, sizeless_takeBatch.absorbing⟩
  refine absorbing_bind (absorbing_hasNext rounds) fun availability => ?_
  cases availability with
  | ready => exact htake.bind_pure _
  | _ => exact onward_pure _

theorem absorbing_tryNext : Absorbing tryNext := by
  have hfetch : Absorbing fetchUnlessSettled := by
    refine afterAsks_get fun c => ?_
    split
    · trivial
    · exact absorbing_fetch
  have hhandOut : Onward handOut :=
    ⟨sizeless_handOut.careless, harmless_handOut, sizeless_handOut.absorbing⟩
  rw [tryNext_eq]
  exact absorbing_ensureOpen (absorbing_bind hfetch fun _ => hhandOut)

/-! ## Lives -/

theorem fetchless_start (first : QueryResult) (loopRuns : Bool) :
    Fetchless (start first loopRuns) := by
  refine (fetchless_absorb first).bind fun verdict => afterAsks_get fun c => ?_
  split
  · trivial
  · exact sizeless_releaseResources.fetchless
  · exact ((sizeless_killHeld none).bind fun _ => sizeless_releaseResources).fetchless
  · exact (sizeless_scheduleCleanup loopRuns).fetchless

/-- After each of its fetches, an activity takes notice of the batch size for absorbing only. -/
theorem absorbing_program (a : Activity) : Absorbing a.program := by
  cases a with
  | opening first loopRuns =>
    have hopening : Fetchless (start first loopRuns >>= fun _ => pure Yield.nothing) :=
      (fetchless_start first loopRuns).bind fun _ => trivial
    exact hopening.afterFetches
  | hasNext rounds => exact absorbing_bind (absorbing_hasNext rounds) fun _ => onward_pure _
  | next rounds => exact absorbing_bind (absorbing_next rounds) fun _ => onward_pure _
  | tryNext => exact absorbing_bind absorbing_tryNext fun _ => onward_pure _
  | close loopRuns =>
    exact ((sizeless_close loopRuns).bind fun _ => detached_pure _).absorbing
  | interrupt => exact fun _ => trivial
  | setBatchSize n => exact fun _ => trivial
  | cleanup target =>
    exact ((sizeless_cleanup target).bind fun _ => detached_pure _).absorbing

/-- What a program leaves alone up to its next pause, it leaves alone. -/
theorem stands_proceed {O : Outcome Yield → Prop} {s : Option ServerCursor} {since : Moment}
    (a : Activity) (ts : List Thread) {p : Program Cursor Yield} :
    ∀ {m : Moment}, LetsStand O s since p m → Stands s since (Life.proceed a ts p m).moment := by
  induction p with
  | done outcome => exact fun h => h.2.record rfl
  | read next ih => exact fun h => ih _ h
  | write c next ih => exact fun h => ih h
  | note n next ih => exact fun h => ih h
  | ask q next ih =>
    rintro m ⟨⟨⟨length, rfl⟩, hm⟩, -⟩
    exact hm.record rfl

theorem absorbing_of_reaches {r : Regime} {first : QueryResult} {loopRuns : Bool} {l : Life}
    (hl : Life.Reaches r (Life.opening c first loopRuns) l) :
    ∀ t ∈ l.threads, Absorbing t.rest :=
  afterAsks_of_reaches (P := fun _ => Absorbs fun _ => True) absorbing_program hl

/-! ## Batch sizes set in flight -/

variable {mode : Mode} {plan : Plan} {loopRuns : Bool} {sent : Life} {q : Exchange}
  {earlier : List Incident} {m : Moment} {before after : List Thread} {a : Activity}
  {next : Outcome q.Answer → Program Cursor Yield}

/-- **What a fetch brings is absorbed under the batch size at its arrival.**  A fetch is sized by
    the batch size at its sending.  Had that size stayed, all would go on the same, unless the size
    at the arrival has another sign and thereby decides about a server cursor that is still alive:
    it is dropped without a kill if the limit or the size at the arrival is negative, and kept if
    they are not. -/
theorem resumes_alike_iff (hc : ofPlan mode plan = .ok c)
    (hsent : Life.Reaches ⟨false, fun _ => True, fun _ _ => True⟩
      (Life.opening c plan.first loopRuns) sent)
    (hasked : sent.moment.history = .asked q :: earlier) (hfetch : isFetch q)
    (hflight : Life.Reaches ⟨false, fun _ => True, fun _ _ => True⟩ sent
      ⟨m, before ++ ⟨a, .ask q next⟩ :: after⟩) (x : Outcome q.Answer) :
    Sized plan.limit sent.moment.cursor q ∧
    (Life.proceed a (before ++ after) (next x)
          ((m.resized sent.moment.cursor.batchSize).answer q x)
        = (Life.proceed a (before ++ after) (next x) (m.answer q x)).resized
          sent.moment.cursor.batchSize
      ↔ ¬ SignDecides sent.moment.cursor.batchSize m.cursor q x) ∧
    ∀ s, m.cursor.closed = false → BringsAlive m.cursor q x s →
      Stands (if plan.limit < 0 ∨ m.cursor.batchSize < 0 then none else some s) m
        (Life.proceed a (before ++ after) (next x) (m.answer q x)).moment := by
  have hlimit : m.cursor.limit = plan.limit := (sizes_of_reaches hc (hsent.trans hflight)).limit
  have habsorbing : Absorbing (.ask q next) :=
    absorbing_of_reaches (hsent.trans hflight) ⟨a, .ask q next⟩ (by simp)
  have habsorbs : Absorbs (fun _ => True) q x (next x) := habsorbing.1 hfetch x
  have hstands : ∀ m₁ s, m₁.cursor.closed = false → BringsAlive m₁.cursor q x s →
      Stands (m₁.cursor.heldAfter s) m₁
        (Life.proceed a (before ++ after) (next x) (m₁.answer q x)).moment := by
    intro m₁ s hopen hs
    have h := stands_proceed a (before ++ after) (habsorbs.letsStand (m₁.answer q x) s hopen hs)
    exact ⟨h.opened, h.serverCursor, h.cleanups, h.killRequests.trans (killRequests_record m₁ rfl)⟩
  refine ⟨(sizes_of_reaches hc hsent).sized q earlier hasked hfetch, ⟨?_, ?_⟩, ?_⟩
  · intro heq hdecides
    -- the two lives hold different server cursors: the one kept it, the other dropped it
    obtain ⟨s, hs⟩ := hdecides.alive
    have hstayed := hstands (m.resized sent.moment.cursor.batchSize) s hdecides.opened hs
    rw [heq] at hstayed
    refine heldAfter_ne_of_signDecides hdecides s (hstayed.serverCursor.symm.trans ?_)
    exact (hstands m s hdecides.opened hs).serverCursor
  · intro h
    exact (habsorbs.alike _ _ (absorbsAlike_of_not_signDecides h)).proceed _ _
      (m.answer q x) rfl
  · intro s hopen hs
    have h := hstands m s hopen hs
    simpa [heldAfter, isFinalBatch, hlimit, or_comm] using h

/-- A cursor that asks for its second batch, under no limit and no batch size. -/
def asking : Life :=
  (((Life.opening (sample .async 0) (Plan.sample 0).first true).begin (.next 1)).begin
    (.next 1)).respond lively

/-- Meanwhile a batch size is set. -/
def resizing (n : Int) : Life := asking.begin (.setBatchSize n)

theorem resumes_alike_iff_resizing :
    ((resizing 3).resized 0).respond lively = ((resizing 3).respond lively).resized 0 ∧
    Stands none (resizing (-1)).moment ((resizing (-1)).respond lively).moment := by
  have hopened : Life.Reaches ⟨false, fun _ => True, fun _ _ => True⟩
      (Life.opening (sample .async 0) (Plan.sample 0).first true)
      (Life.opening (sample .async 0) (Plan.sample 0).first true) := .refl
  have htaken := hopened.begin (a := .next 1)
    ⟨trivial, rfl, by decide +kernel, fun _ => by decide +kernel⟩
  have hwaiting := htaken.begin (a := .next 1)
    ⟨trivial, rfl, by decide +kernel, fun _ => by decide +kernel⟩
  have hasking : Life.Reaches _ _ asking := hwaiting.respond lively fun _ => trivial
  have hset : ∀ n, Life.Reaches ⟨false, fun _ => True, fun _ _ => True⟩ asking (resizing n) :=
    fun n => Life.Reaches.begin .refl (a := .setBatchSize n)
      ⟨trivial, rfl, by decide +kernel, by simp [Activity.isRetrieval]⟩
  constructor
  · have hflight : Life.Reaches _ asking
      ⟨(resizing 3).moment, [] ++ ⟨.next 1, .ask _ _⟩ :: []⟩ := hset 3
    have halike :=
      (resumes_alike_iff (ofPlan_sample .async 0) hasking rfl rfl hflight (lively _)).2.1
    exact halike.2 fun hdecides => hdecides.sign (by decide)
  · have hflight : Life.Reaches _ asking
      ⟨(resizing (-1)).moment, [] ++ ⟨.next 1, .ask _ _⟩ :: []⟩ := hset (-1)
    have hstands :=
      (resumes_alike_iff (ofPlan_sample .async 0) hasking rfl rfl hflight (lively _)).2.2
    exact hstands ⟨7, {}, by decide⟩ rfl ⟨⟨7, {}, by decide⟩, _, rfl, rfl, rfl⟩

/-- **A batch size that is set in flight may drop the server cursor.**  The fetch was sent under no
    limit and no batch size, so what it brings was not to be the final batch. -/
theorem not_alike_resizing :
    ((resizing (-1)).resized asking.moment.cursor.batchSize).respond lively
        ≠ ((resizing (-1)).respond lively).resized asking.moment.cursor.batchSize ∧
    ¬ (((resizing (-1)).respond lively).moment.cursor.progress.serverCursor = none ↔
      asking.moment.cursor.limit < 0 ∨ asking.moment.cursor.batchSize < 0) := by
  constructor
  · intro heq
    have hdropped := congrArg (fun l => l.moment.cursor.progress.serverCursor.isSome) heq
    exact absurd hdropped (by decide)
  · decide

end DocumentClient.Cursor
