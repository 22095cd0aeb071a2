/-
  Whole runs of a blocking cursor.

  Between the operations of its callers a blocking cursor is at rest: it holds a server
  cursor and all of its resources, or it has no server cursor any more and has released
  what it owns.  Each step of a retrieval is shown to come back to rest, whatever the
  answers are and whatever runs to its end while it waits.

  `accounted_of_reaches`: at rest every resource is accounted for.
-/
import DocumentClient.Proofs.Cursor.Custody
import DocumentClient.Proofs.Cursor.Keeping

namespace DocumentClient.Cursor.Custody

open Program (Ensures Environment)

/-! ## Rest -/

/-- What holds between operations. -/
structure AtRest (m : Moment) : Prop extends Kept m where
  spent : m.cursor.progress.serverCursor = none → m.cursor.released
  within : m.cursor.progress.serverCursor.isSome →
    DocumentClient.limitReached m.cursor.limit m.cursor.progress.delivered = false

/-- An operation has come to rest, and has paid its debts. -/
structure Rested (m m' : Moment) : Prop where
  atRest : AtRest m'
  setup : m'.cursor.setup = m.cursor.setup
  debt : ∀ id, m'.debt id = m.debt id

theorem Rested.refl {m : Moment} (h : AtRest m) : Rested m m := ⟨h, rfl, fun _ => rfl⟩

theorem Rested.trans {m₁ m₂ m₃ : Moment} (h : Rested m₁ m₂) (h' : Rested m₂ m₃) : Rested m₁ m₃ :=
  ⟨h'.atRest, h'.setup.trans h.setup, fun id => (h'.debt id).trans (h.debt id)⟩

/-- What others may do leaves a cursor at rest. -/
theorem Tolerable.rested {m m' : Moment} (h : Tolerable m m') (hr : AtRest m) : Rested m m' where
  atRest := {
    h.kept hr.toKept with
    spent := fun hs => by
      rcases hc : m'.cursor.closed with _ | _
      · obtain ⟨-, hs', hr'⟩ := h.open_ hc
        rw [hr']
        exact hr.spent (hs'.symm.trans hs)
      · exact (h.kept hr.toKept).shut hc
    within := fun hs => by
      have hc := ((h.kept hr.toKept).held hs).1
      have hl := congrArg Setup.limit h.setup
      simp only [Cursor.setup] at hl
      rw [hl, h.delivered]
      exact hr.within ((h.open_ hc).2.1 ▸ hs) }
  setup := h.setup
  debt := h.debt

/-- A closed cursor is at rest. -/
theorem Kept.rested_of_closed {m m' : Moment} (hk : Kept m) (h : Tolerable m m')
    (hc : m'.cursor.closed) : Rested m m' where
  atRest := {
    h.kept hk with
    spent := fun _ => (h.kept hk).shut hc
    within := fun hs => by
      have := ((h.kept hk).held hs).1
      simp [hc] at this }
  setup := h.setup
  debt := h.debt

/-- An operation that comes back to rest. -/
abbrev Rests {α : Type} (m : Moment) (p : Program Cursor α) (m' : Moment) : Prop :=
  discipline.Holds (fun _ m'' => Rested m m'') p m'

theorem rests_bind {α β : Type} {m m' : Moment} {p : Program Cursor α} {f : α → Program Cursor β}
    (hp : Rests m p m') (hf : ∀ a m'', Rested m m'' → Rests m (f a) m'') :
    Rests m (p >>= f) m' := by
  refine Program.ensures_bind.2 (Program.ensures_mono ?_ hp)
  rintro (e | a) m'' h
  · exact h
  · exact hf a m'' h

/-! ## Fetching -/

theorem holds_requestBatch {m : Moment} (hk : Kept m) (connection : Connection)
    (target : ServerCursor) :
    discipline.Holds (fun _ m' => Tolerable m m') (requestBatch connection target) m := by
  have hbegins : Tolerable m (m.record (.noticed (fetchBegins m.cursor target))) :=
    tolerable_record rfl
  refine ensures_requestBatch.2 (holds_ask (hbegins.kept hk)
    (Incident.isNeutral_of_isFetch (isFetch_fetchExchange _ _ _)) fun x m' _ _ ht => ?_)
  rcases fetched target _ x with e | result
  · exact hbegins.trans ht
  · exact (hbegins.trans ht).trans (tolerable_record rfl)

/-- A batch was absorbed, and perhaps more was done about the server cursor. -/
structure Absorbed (m : Moment) (v : Verdict) (m' : Moment) : Prop where
  kept : Kept m'
  setup : m'.cursor.setup = m.cursor.setup
  debt : ∀ id, m'.debt id = m.debt id
  going : v.followUp = .nothing → m'.cursor.progress.serverCursor.isSome ∧
    DocumentClient.limitReached m'.cursor.limit m'.cursor.progress.delivered = false
  gone : v.followUp = .release → m'.cursor.progress.serverCursor = none

theorem holds_absorb {m : Moment} (hk : Kept m) (hc : m.cursor.closed = false)
    (hr : m.cursor.released = false) (result : QueryResult) :
    discipline.Holds (fun o m' => ∃ v, o = .ok v ∧ Absorbed m v m') (absorb result) m := by
  refine ensures_absorb_of fun p v m₁ hadvances hm₁ => ⟨_, rfl, ?_⟩
  obtain ⟨hlog, hcursor⟩ : Tolerable m m₁ ∧ m₁.cursor = m.cursor := by
    rcases hm₁ with rfl | ⟨message, rfl⟩
    · exact ⟨.refl m₁, rfl⟩
    · exact ⟨tolerable_record rfl, rfl⟩
  obtain ⟨c, history⟩ := m₁
  obtain rfl : c = m.cursor := hcursor
  have hk' := hlog.kept hk
  refine ⟨{ hk' with held := fun _ => ⟨hc, hr⟩, filled := hadvances.filled }, rfl, hlog.debt,
    fun hv => ?_, hadvances.fate.gone⟩
  cases hadvances.fate with
  | kept _ hl _ hs => exact ⟨Option.isSome_of_eq_some hs, hl⟩
  | _ => simp [Verdict.followUp] at hv

/-- After a batch was absorbed, the server cursor that is not needed is killed. -/
structure Followed (m : Moment) (v : Verdict) (m' : Moment) : Prop where
  kept : Kept m'
  setup : m'.cursor.setup = m.cursor.setup
  debt : ∀ id, m'.debt id = m.debt id
  going : v.followUp = .nothing → m'.cursor.progress.serverCursor.isSome ∧
    DocumentClient.limitReached m'.cursor.limit m'.cursor.progress.delivered = false
  gone : v.followUp ≠ .nothing → m'.cursor.progress.serverCursor = none

theorem Followed.rested_of_going {m m' : Moment} {v : Verdict} (h : Followed m v m')
    (hv : v.followUp = .nothing) : Rested m m' := by
  obtain ⟨hsome, hl⟩ := h.going hv
  exact ⟨⟨h.kept, fun hn => by simp [hn] at hsome, fun _ => hl⟩, h.setup, h.debt⟩

/-- Without a server cursor the resources go, and the cursor comes to rest. -/
theorem Followed.rested_of_gone {m m' : Moment} {v : Verdict} (h : Followed m v m')
    (hv : v.followUp ≠ .nothing) : Rested m m'.settled where
  atRest := {
    h.kept.settled (h.gone hv) m'.cursor.closed with
    spent := fun _ => by rw [Moment.settled_cursor]
    within := fun hs => by simp [Moment.settled_cursor, h.gone hv] at hs }
  setup := by rw [Moment.settled_cursor]; exact h.setup
  debt id := (m'.settled_debt id).trans (h.debt id)

theorem Absorbed.followed {m m' : Moment} {v : Verdict} (h : Absorbed m v m')
    (hv : v.followUp ≠ .kill) : Followed m v m' where
  kept := h.kept
  setup := h.setup
  debt := h.debt
  going := h.going
  gone hn := h.gone (FollowUp.eq_release hn hv)

theorem Absorbed.killed {m m₁ m' : Moment} {v : Verdict} (h : Absorbed m v m₁)
    (hv : v.followUp = .kill) (ht : Tolerable (m₁.put m₁.cursor.forget) m') : Followed m v m' where
  kept := ht.kept h.kept.forgotten
  setup := ht.setup.trans h.setup
  debt id := (ht.debt id).trans (h.debt id)
  going hn := by simp [hv] at hn
  gone _ := ht.serverCursor_of_forget h.kept

/-- At the end of a fetch a batch was followed up, or it has failed. -/
def Over (m : Moment) : Outcome Verdict → Moment → Prop
  | .ok v, m' => Followed m v m'
  | .error _, m' => Tolerable m m'

theorem Over.after {m m₁ m' : Moment} {o : Outcome Verdict} (h₁ : Tolerable m m₁)
    (h : Over m₁ o m') : Over m o m' := by
  rcases o with e | v
  · exact h₁.trans h
  · exact ⟨h.kept, h.setup.trans h₁.setup, fun id => (h.debt id).trans (h₁.debt id), h.going,
      h.gone⟩

theorem holds_fetchOver {m : Moment} (hk : Kept m)
    (hr : m.cursor.closed = false → m.cursor.released = false) (target : ServerCursor)
    (connection : Connection) : discipline.Holds (Over m) (fetchOver target connection) m := by
  simp only [fetchOver, Program.ensures_bind]
  refine Program.ensures_mono ?_ (holds_requestBatch hk connection target)
  rintro (e | result) m₁ h₁
  · exact h₁
  simp only [Program.continues_ok, Program.ensures_bind, Program.ensures_get, Moment.cell_load]
  split
  · exact h₁
  rename_i hc
  have hc := eq_false_of_ne_true hc
  have hr₁ : m₁.cursor.released = false := by
    obtain ⟨hc', -, h⟩ := h₁.open_ hc
    rw [h, hr hc']
  refine Program.ensures_bind.2 (Program.ensures_mono ?_ (holds_absorb (h₁.kept hk) hc hr₁ result))
  rintro _ m₂ ⟨v, rfl, h₂⟩
  rw [Program.continues_ok]
  split
  · rename_i hv
    refine Program.ensures_bind.2 (Program.ensures_mono ?_
      (holds_killHeld h₂.kept (some connection)))
    rintro _ m₃ ⟨rfl, h₃⟩
    exact Over.after (o := .ok v) h₁ (h₂.killed hv h₃)
  · rename_i hv
    exact Over.after (o := .ok v) h₁ (h₂.followed hv)

theorem Over.loan {m m' : Moment} {o : Outcome Verdict} {s : Source} {x : Connection}
    (hc : m.cursor.connection = none) (h : Over (m.answer (.lease s) (.ok x)) o m') :
    Over m o (m'.record (.noticed (.releaseConnection x))) := by
  rcases o with e | v
  · exact Tolerable.loan hc h
  · exact ⟨h.kept.returned, h.setup, debt_of_loan h.debt, h.going, h.gone⟩

theorem holds_fetching {m : Moment} (hk : Kept m) (hr : m.cursor.released = false)
    (target : ServerCursor) :
    discipline.Holds (Over m) (withConnection (fetchOver target)) m := by
  refine holds_withConnection hk (holds_fetchOver hk (fun _ => hr) target)
    (fun s x m' ht hc => ?_) fun e m' _ _ ht => ht
  have hr' : m'.cursor.closed = false → m'.cursor.released = false := fun h => by
    rw [(ht.open_ h).2.2, hr]
  refine Program.ensures_mono ?_ (holds_fetchOver ((ht.kept hk).leased hc) hr' target x)
  intro o m'' h
  exact (Over.loan hc h).after ht

/-- After a failure the cursor is closed, or as it was. -/
theorem holds_giveUp {m m' : Moment} (h : AtRest m) (ht : Tolerable m m') (e : Failure) :
    discipline.Holds (fun o m'' => o = .ok () ∧ Rested m m'') (giveUp e) m' := by
  have hk := ht.kept h.toKept
  have hclose : discipline.Holds (fun o m'' => o = .ok () ∧ Rested m m'') (close true) m' := by
    refine Program.ensures_mono ?_ (holds_close hk true)
    rintro _ m'' ⟨rfl, ht', hc⟩
    exact ⟨rfl, h.toKept.rested_of_closed (ht.trans ht') hc⟩
  cases e with
  | cursorMissing id address =>
    simp only [giveUp, Program.ensures_bind, Program.ensures_modify, Program.continues_ok,
      Moment.cell_load, Moment.cell_store]
    refine Program.ensures_mono ?_ (holds_close hk.forgotten true)
    rintro _ m'' ⟨rfl, ht', hc⟩
    have hrest := hk.forgotten.rested_of_closed ht' hc
    exact ⟨rfl, hrest.atRest, hrest.setup.trans ht.setup,
      fun id => (hrest.debt id).trans (ht.debt id)⟩
  | cancelled => exact ⟨rfl, ht.rested h⟩
  | _ => exact hclose

/-- A fetch comes back to rest. -/
theorem rests_fetch {m : Moment} (h : AtRest m) : Rests m fetch m := by
  simp only [fetch, Program.ensures_bind, Program.ensures_get, Program.continues_ok,
    Moment.cell_load]
  rcases hs : m.cursor.progress.serverCursor with _ | target
  · exact Rested.refl h
  have hr := (h.held (Option.isSome_of_eq_some hs)).2
  refine Program.ensures_bind.2 (Program.ensures_attempt.2
    (Program.ensures_mono ?_ (holds_fetching h.toKept hr target)))
  rintro (e | v) m₁ h₁
  · simp only [Program.continues_ok]
    refine Program.ensures_bind.2 (Program.ensures_mono ?_ (holds_giveUp h h₁ e))
    rintro _ m₂ ⟨rfl, h₂⟩
    exact h₂
  · simp only [Program.continues_ok]
    split
    · rename_i hv
      exact h₁.rested_of_going hv
    · rename_i hv
      exact holds_releaseResources.2 (h₁.rested_of_gone hv)

/-! ## Retrieving -/

/-- What is set besides the resources does not disturb. -/
theorem AtRest.changed {m : Moment} (h : AtRest m) (batchSize : Int) (interrupted : Bool) :
    Rested m (m.put { m.cursor with batchSize := batchSize, interrupted := interrupted }) :=
  ⟨{ h with }, rfl, fun _ => rfl⟩

theorem rests_waitBeforeRetry {m : Moment} (h : AtRest m) : Rests m waitBeforeRetry m := by
  refine rests_bind (.refl h) fun c m₁ h₁ => rests_bind h₁ fun length m₂ h₂ => ?_
  refine rests_bind ?_ fun _ m₃ h₃ => ?_
  · refine holds_ask h₂.atRest.toKept (fun _ _ => rfl) fun _ m₃ _ _ ht => ?_
    exact h₂.trans (ht.rested h₂.atRest)
  · simp only [Program.ensures_bind, Program.ensures_get, Program.continues_ok, Moment.cell_load]
    split
    · exact h₃.trans (h₃.atRest.changed _ false)
    · split <;> exact h₃

theorem rests_takeBatch {m : Moment} (h : AtRest m) : Rests m takeBatch m := by
  refine ensures_takeBatch.2 ?_
  split
  · exact .refl h
  · exact ⟨{ h with filled := by simp }, rfl, fun _ => rfl⟩

/-- What comes back to rest from any rest comes back from where it is. -/
theorem keeps_of_rests {α : Type} {p : Program Cursor α} (hp : ∀ m, AtRest m → Rests m p m)
    (m : Moment) : Keeps discipline.environment Moment.cell (Rested m) p :=
  fun m' h => Program.ensures_mono (fun _ _ h' => h.trans h') (hp m' h.atRest)

theorem rests_close {m : Moment} (h : AtRest m) (loopRuns : Bool) :
    Rests m (close loopRuns) m := by
  refine Program.ensures_mono ?_ (holds_close h.toKept loopRuns)
  rintro _ m' ⟨-, ht, -⟩
  exact ht.rested h

theorem operable_rested (a : Activity) (m : Moment) :
    Operable discipline.environment Moment.cell (Rested m) a where
  retrieve _ := {
    fetch m' h _ := keeps_of_rests (fun _ => rests_fetch) m m' h
    wait m' h _ := keeps_of_rests (fun _ => rests_waitBeforeRetry) m m' h }
  take _ := keeps_of_rests (fun _ => rests_takeBatch) m
  close loopRuns _ := keeps_of_rests (fun _ h => rests_close h loopRuns) m
  interrupt _ h := h.trans (h.atRest.changed _ true)
  resize n _ h := h.trans (h.atRest.changed n _)

/-! ## Making -/

/-- A cursor that is made comes to rest. -/
theorem rests_start {m : Moment} (hk : Kept m) (hc : m.cursor.closed = false)
    (hr : m.cursor.released = false) (first : QueryResult) (loopRuns : Bool) :
    Rests m (start first loopRuns) m := by
  refine Program.ensures_bind.2 (Program.ensures_mono ?_ (holds_absorb hk hc hr first))
  rintro _ m₁ ⟨v, rfl, h₁⟩
  simp only [Program.continues_ok, Program.ensures_bind, Program.ensures_get, Moment.cell_load,
    h₁.kept.blocking]
  rcases hv : v.followUp with _ | _ | _
  · exact (h₁.followed (by simp [hv])).rested_of_going hv
  · refine Program.ensures_bind.2 (Program.ensures_mono ?_ (holds_killHeld h₁.kept none))
    rintro _ m₂ ⟨rfl, h₂⟩
    exact holds_releaseResources.2 ((h₁.killed hv h₂).rested_of_gone (by simp [hv]))
  · exact holds_releaseResources.2
      ((h₁.followed (by simp [hv])).rested_of_gone (by simp [hv]))

/-! ## Whole runs -/

/-- A moment at rest at which nothing is owed. -/
structure Even (s : Setup) (m : Moment) : Prop where
  atRest : AtRest m
  setup : m.cursor.setup = s
  debt : ∀ id, m.debt id = 0

theorem Even.rested {s : Setup} {m m' : Moment} (h : Even s m) (hr : Rested m m') : Even s m' :=
  ⟨hr.atRest, hr.setup.trans h.setup, fun id => (hr.debt id).trans (h.debt id)⟩

/-- Every operation comes back to rest. -/
theorem rests_program {a : Activity} (ha : a.isOperation) {m : Moment} (h : AtRest m) :
    Rests m a.program m :=
  (operable_rested a m).keeps_program ha m (.refl h)

/-- What runs while another waits stays within what is tolerable. -/
theorem holds_program {a : Activity} (ha : a.isOperation) (hr : a.isRetrieval = false) {m : Moment}
    (hk : Kept m) : discipline.Holds (fun _ m' => Tolerable m m') a.program m := by
  have hchange : ∀ batchSize interrupted,
      Tolerable m (m.put { m.cursor with batchSize := batchSize, interrupted := interrupted }) :=
    fun _ _ => ⟨fun _ => { hk with }, rfl, rfl, rfl, fun _ => rfl, fun h => ⟨h, rfl, rfl⟩⟩
  cases a, ha using Activity.operation_cases with
  | close loopRuns =>
    refine Program.ensures_bind.2 (Program.ensures_mono ?_ (holds_close hk loopRuns))
    rintro _ m' ⟨rfl, ht, -⟩
    exact ht
  | interrupt => exact hchange _ true
  | setBatchSize n => exact hchange n _
  | _ => cases hr

theorem sound_discipline (s : Setup) (offers : Activity → Prop) :
    discipline.Sound offers (Even s) where
  refl := .refl
  trans _ _ _ := .trans
  keeps _ _ hk ht := ht.kept hk
  idle _ hk := hk.idle
  resting _ h := h.atRest.toKept
  alone a m _ ha h := by
    have hbegun := h.rested ((tolerable_record (i := .begun a) rfl).rested h.atRest)
    refine Program.ensures_mono (fun o m' h' => ?_) (rests_program ha hbegun.atRest)
    have hend := hbegun.rested h'
    exact hend.rested ((tolerable_record rfl).rested hend.atRest)
  inside a m _ ha hr hk := by
    have hbegun : Tolerable m (m.record (.begun a)) := tolerable_record rfl
    refine Program.ensures_mono (fun o m' h' => ?_) (holds_program ha hr (hbegun.kept hk))
    exact (hbegun.trans h').trans (tolerable_record rfl)

/-- Every resource is accounted for. -/
structure Accounted (plan : Plan) (m : Moment) : Prop where
  /-- A cursor that holds a server cursor is open, needs more, and has released nothing. -/
  live : m.cursor.progress.serverCursor.isSome → m.cursor.closed = false ∧
    DocumentClient.limitReached plan.limit m.cursor.progress.delivered = false ∧
    (∀ s, m.sourceReleases s = 0) ∧ (plan.connection.isSome → ∀ id, m.releases id = 0)
  /-- A cursor that holds none has released once what it owns. -/
  spent : m.cursor.progress.serverCursor = none →
    (∀ s, plan.source = some ⟨.owned, s⟩ → m.sourceReleases s = 1) ∧
    ∀ x, plan.connection = some ⟨.owned, x⟩ → m.releases x.id = 1
  /-- So it is for a cursor that is exhausted or closed. -/
  finished : m.cursor.state = .exhausted ∨ m.cursor.state = .closed →
    m.cursor.progress.serverCursor = none
  /-- What is borrowed is not released. -/
  lent : (∀ s, plan.source = some ⟨.borrowed, s⟩ → ∀ s', m.sourceReleases s' = 0) ∧
    ∀ x, plan.connection = some ⟨.borrowed, x⟩ → ∀ id, m.releases id = 0
  /-- A connection that was leased is released as often. -/
  leased : ∀ id, (plan.connection.isNone → m.releases id = m.leases id) ∧
    (plan.connection.isSome → m.leases id = 0)
  filled : m.cursor.progress.nextBatch ≠ some []

theorem Even.accounted {plan : Plan} {c : Cursor} {m : Moment} (hc : ofPlan .blocking plan = .ok c)
    (h : Even c.setup m) : Accounted plan m := by
  obtain ⟨-, hlimit, hsource, hconnection⟩ := (planned_of_ofPlan hc).kept h.setup
  have hr := h.atRest
  have hsources : ∀ s, m.sourceReleases s =
      if m.cursor.released && owns (· == s) plan.source then 1 else 0 := fun s => by
    rw [hr.sources s, Moment.sourceDue, hsource]
  have hreleases : ∀ id, m.releases id =
      m.leases id + if m.cursor.released && owns (·.id == id) plan.connection then 1 else 0 :=
    fun id => by
      have := h.debt id
      simp only [Moment.debt, Moment.due, hconnection] at this
      omega
  have hgiven : plan.connection.isSome → ∀ id, m.leases id = 0 := by
    rw [← hconnection]
    exact hr.given
  refine ⟨fun hs => ?_, fun hs => ?_, ?_, ⟨?_, ?_⟩,
    fun id => ⟨fun hn => ?_, fun hg => hgiven hg id⟩, hr.filled⟩
  · obtain ⟨hclosed, hreleased⟩ := hr.held hs
    refine ⟨hclosed, hlimit ▸ hr.within hs, fun s => ?_, fun hg id => ?_⟩
    · simp [hsources, hreleased]
    · simp [hreleases, hgiven hg id, hreleased]
  · have hreleased := hr.spent hs
    refine ⟨fun s hs => ?_, fun x hx => ?_⟩
    · simp [hsources, hreleased, hs, owns]
    · simp [hreleases, hgiven (by simp [hx]), hreleased, hx, owns]
  · intro hstate
    by_cases hs : m.cursor.progress.serverCursor.isSome
    · have hexhausted : m.cursor.isExhausted = false := by
        simpa [isExhausted, hr.within hs] using hs
      rcases hb : m.cursor.hasBatch with _ | _ <;>
        simp [state, (hr.held hs).1, hexhausted, hb] at hstate
    · simpa using hs
  · intro s hs s'
    simp [hsources, hs, owns]
  · intro x hx id
    simp [hreleases, hgiven (by simp [hx]), hx, owns]
  · rw [Option.isNone_iff_eq_none] at hn
    simp [hreleases, hn, owns]

/-- Before its first batch a cursor has done nothing. -/
theorem kept_of_ofPlan {plan : Plan} {c : Cursor} (hc : ofPlan .blocking plan = .ok c)
    (a : Activity) : Kept ⟨c, [.begun a]⟩ ∧ c.closed = false ∧ c.released = false ∧
      ∀ id, Moment.debt id ⟨c, [.begun a]⟩ = 0 := by
  obtain ⟨settings, rfl⟩ := exists_of_ofPlan hc
  exact ⟨⟨rfl, rfl, fun _ => rfl, fun _ _ => rfl, by simp, by simp, by simp⟩, rfl, rfl,
    fun _ => rfl⟩

/-- The making of a blocking cursor comes to rest. -/
theorem stacked_opening {plan : Plan} {c : Cursor} (hc : ofPlan .blocking plan = .ok c)
    (loopRuns : Bool) : discipline.Stacked (Even c.setup)
      (Life.opening c plan.first loopRuns).threads (Life.opening c plan.first loopRuns).moment := by
  obtain ⟨hk, hc, hr, hdebt⟩ := kept_of_ofPlan hc (.opening plan.first loopRuns)
  have hopening := rests_bind (rests_start hk hc hr plan.first loopRuns)
    (f := fun _ => pure Yield.nothing) fun _ _ h => h
  refine Discipline.stacked_proceed (Program.ensures_mono (fun o m' h => ?_) hopening)
  have heven : Even c.setup m' := ⟨h.atRest, h.setup, fun id => (h.debt id).trans (hdebt id)⟩
  exact heven.rested ((tolerable_record rfl).rested heven.atRest)

section
variable {plan : Plan} {c : Cursor} {loopRuns : Bool} {offers : Activity → Prop} {l : Life}

/-- Whenever a caller waits, and between operations, a blocking cursor is in order. -/
theorem kept_of_reaches (hc : ofPlan .blocking plan = .ok c)
    (hl : Life.Reaches ⟨true, offers, Ordinary⟩ (Life.opening c plan.first loopRuns) l) :
    Kept l.moment :=
  (sound_discipline c.setup offers).invariant_of_reaches hl (stacked_opening hc loopRuns)

/-- Between operations a blocking cursor is at rest, and owes nothing. -/
theorem even_of_reaches (hc : ofPlan .blocking plan = .ok c)
    (hl : Life.Reaches ⟨true, offers, Ordinary⟩ (Life.opening c plan.first loopRuns) l)
    (hrest : l.threads = []) : Even c.setup l.moment :=
  (sound_discipline c.setup offers).rest_of_reaches hl (stacked_opening hc loopRuns) hrest

end

/-- **A blocking cursor between operations.** Whatever its plan, and whatever is called, answered
    and run inside the calls, every resource is accounted for. -/
theorem accounted_of_reaches {plan : Plan} {c : Cursor} {loopRuns : Bool}
    {offers : Activity → Prop} {l : Life} (hc : ofPlan .blocking plan = .ok c)
    (hl : Life.Reaches ⟨true, offers, Ordinary⟩ (Life.opening c plan.first loopRuns) l)
    (hrest : l.threads = []) : Accounted plan l.moment :=
  Even.accounted hc (even_of_reaches hc hl hrest)

/-- A blocking cursor that has handed out its first batch and waits for the next one. -/
def fetching : Life :=
  (((Life.opening (sample .blocking 0) (Plan.sample 0).first true).begin (.next 2)).begin
    (.next 2)).respond obliging

/-- The same cursor, when another thread has closed it meanwhile and the batch has come. -/
def closedInside : Life :=
  (((fetching.begin (.close true)).respond obliging).respond obliging).respond obliging

theorem accounted_of_closedInside :
    (fetching.threads.map fun t => t.activity.isRetrieval) = [true] ∧
      closedInside.threads = [] ∧ closedInside.moment.cursor.state = .closed ∧
      Accounted (.sample 0) closedInside.moment := by
  have hordinary : ∀ q, Ordinary q (obliging q) := fun q e he => by
    obtain ⟨x, hx⟩ := obliging_ok q
    simp [hx] at he
  let opened := Life.opening (sample .blocking 0) (Plan.sample 0).first true
  have hopened : Life.Reaches ⟨true, fun _ => True, Ordinary⟩ opened opened := .refl
  have hread := hopened.begin (a := .next 2)
    ⟨trivial, rfl, by decide +kernel, fun _ => List.isEmpty_iff.1 (by decide +kernel)⟩
  have hfetching := (hread.begin (a := .next 2)
    ⟨trivial, rfl, by decide +kernel, fun _ => List.isEmpty_iff.1 (by decide +kernel)⟩).respond
    obliging hordinary
  have hclosing := hfetching.begin (a := .close true)
    ⟨trivial, rfl, by decide +kernel, by simp [Activity.isRetrieval]⟩
  have hover := ((hclosing.respond obliging hordinary).respond obliging hordinary).respond
    obliging hordinary
  have hrest : closedInside.threads = [] := List.isEmpty_iff.1 (by decide +kernel)
  exact ⟨by decide +kernel, hrest, by decide +kernel,
    accounted_of_reaches (ofPlan_sample _ _) hover hrest⟩

end DocumentClient.Cursor.Custody
