/-
  Asynchronous cursors on a running event loop.

  The activities of such a cursor keep `Guarded` in whatever order their exchanges are
  answered and the scheduled kills begin.  A retrieval that waits counts on two things: as
  long as the cursor is open its server cursor stays, and once its server cursor is gone no
  kill is scheduled any more.  A scheduled kill counts on the cursor staying closed.

  `released_iff_of_unfinished`: when the resources are released before a scheduled kill has
  ended.
-/
import DocumentClient.Proofs.Cursor.Interleaved
import DocumentClient.Proofs.Cursor.Keeping
import DocumentClient.Proofs.Cursor.Scheduling

namespace DocumentClient.Cursor

open Program (Ensures Environment)

/-! ## The protocol -/

/-- What others may change while a retrieval waits. -/
structure Permits (plan : Plan) (m m' : Moment) : Prop where
  closed : m.cursor.closed → m'.cursor.closed
  live : plan.stopsEarly = false → m'.cursor.closed = false →
    m'.cursor.progress.serverCursor = m.cursor.progress.serverCursor
  gone : m.cursor.progress.serverCursor = none → m.unfinished ≤ 0 →
    m'.cursor.progress.serverCursor = none ∧ m'.unfinished ≤ 0

/-- Activities on a running loop. -/
def scheduling (plan : Plan) : Protocol where
  invariant := Guarded plan
  respects m m' := m.cursor.closed → m'.cursor.closed
  spares := Permits plan
  admits _ _ := True

variable {plan : Plan} {m m' : Moment}

theorem Permits.refl (m : Moment) : Permits plan m m := ⟨id, fun _ _ => rfl, fun hs hu => ⟨hs, hu⟩⟩

theorem Permits.trans {m₁ m₂ m₃ : Moment} (h : Permits plan m₁ m₂) (h' : Permits plan m₂ m₃) :
    Permits plan m₁ m₃ where
  closed hc := h'.closed (h.closed hc)
  live he hc := by
    have hc₂ : m₂.cursor.closed = false := Moment.open_of_open h'.closed hc
    exact (h'.live he hc).trans (h.live he hc₂)
  gone hs hu := by
    obtain ⟨hs', hu'⟩ := h.gone hs hu
    exact h'.gone hs' hu'

/-- A change that leaves the server cursor alone or forgets it, and schedules nothing. -/
theorem permits_of_eq (hc : m'.cursor.closed = m.cursor.closed)
    (hs : m'.cursor.progress.serverCursor = m.cursor.progress.serverCursor)
    (hu : m'.unfinished = m.unfinished) : Permits plan m m' :=
  ⟨fun h => hc.trans h, fun _ _ => hs, fun h h' => ⟨hs.trans h, hu ▸ h'⟩⟩

/-- What holds of the cursor in a stretch, and what its activity counts on. -/
structure Minded (plan : Plan) (R : Moment → Prop) (absorbing : Bool) (w : Stretch) : Prop where
  guarded : Guarded plan w.now
  respects : w.since.cursor.closed → w.now.cursor.closed
  permits : absorbing = false → Permits plan w.since w.now
  kept : R w.now

/-- A fact that an activity can count on while it waits. -/
def Stable (plan : Plan) (R : Moment → Prop) (absorbing : Bool) : Prop :=
  ∀ m m', (m.cursor.closed → m'.cursor.closed) → (absorbing → Permits plan m m') → R m → R m'

variable {R : Moment → Prop} {absorbing : Bool} {w : Stretch}

/-- An activity that absorbs owes nothing to those that wait. -/
theorem minded_absorbing (hg : Guarded plan w.now)
    (hr : w.since.cursor.closed → w.now.cursor.closed) (hk : R w.now) : Minded plan R true w :=
  ⟨hg, hr, nofun, hk⟩

theorem Minded.moved (hR : Stable plan R absorbing) (h : Minded plan R absorbing w)
    (hg : Guarded plan m') (hp : Permits plan w.now m') : Minded plan R absorbing ⟨w.since, m'⟩ :=
  ⟨hg, fun hc => hp.closed (h.respects hc), fun ha => (h.permits ha).trans hp,
    hR _ _ hp.closed (fun _ => hp) h.kept⟩

/-- An incident that is no release, and neither begins nor ends a scheduled kill. -/
theorem Minded.record (hR : Stable plan R absorbing) (h : Minded plan R absorbing w) {i : Incident}
    (hr : plan.connection.isSome → ∀ id, i.releases id = false)
    (hs : ∀ s, i.releasesSource s = false) (hb : i.begins Activity.isCleanup = false)
    (he : i.ends Activity.isCleanup = false) :
    Minded plan R absorbing ⟨w.since, w.now.record i⟩ :=
  h.moved hR (h.guarded.record hr hs hb he)
    (permits_of_eq rfl rfl (Moment.record_unfinished hb he _))

/-- What an activity counts on survives any exchange. -/
theorem Minded.ask (hR : Stable plan R absorbing) (h : Minded plan R absorbing w) (q : Exchange) :
    ((scheduling plan).environment absorbing).demands q w ∧
      ∀ x w', ((scheduling plan).environment absorbing).resumes q w x w' →
        Minded plan R absorbing w' := by
  have hasked := h.record hR (i := .asked q) (fun _ _ => rfl) (fun _ => rfl) rfl rfl
  refine ⟨⟨hasked.guarded, hasked.respects, hasked.permits⟩, ?_⟩
  rintro x _ ⟨-, m₁, hg, hrespects, hspares, rfl⟩
  have hm₁ : Minded plan R absorbing ⟨m₁, m₁⟩ :=
    ⟨hg, id, fun _ => .refl m₁, hR _ _ hrespects hspares hasked.kept⟩
  exact hm₁.record hR (fun _ _ => rfl) (fun _ => rfl) rfl rfl

theorem undisturbed_minded (hR : Stable plan R absorbing) :
    Undisturbed ((scheduling plan).environment absorbing) Stretch.cell
      (Minded plan R absorbing) where
  ask q w _ h := h.ask hR q
  log _ _ w h := h.record hR (fun _ _ => rfl) (fun _ => rfl) rfl rfl
  giveBack connection w₀ w h₀ hc h := by
    refine h.record hR (fun hg => ?_) (fun _ => rfl) rfl rfl
    have hc : w₀.now.cursor.connection = none := hc
    rw [← h₀.guarded.connection, hc] at hg
    simp at hg

/-! ## Closing -/

theorem settle_stretch (p : Protocol) (absorbing : Bool) (w : Stretch) :
    settle (p.environment absorbing) Stretch.cell w = ⟨w.since, w.now.settled⟩ := by
  have hfold : ∀ (ns : List Notice) (w : Stretch),
      ns.foldl (fun w n => (p.environment absorbing).take n w) w
        = ⟨w.since, ns.foldl (fun m n => m.record (.noticed n)) w.now⟩ := by
    intro ns
    induction ns with
    | nil => exact fun _ => rfl
    | cons n ns ih => exact fun w => ih _
  simp only [settle, Moment.settled, Stretch.cell_load, Stretch.cell_store, hfold,
    Moment.foldl_record]
  split <;> rfl

/-- On a running loop the kill of a server cursor is scheduled without an exchange. -/
theorem holds_schedule {p : Protocol} {Q : Outcome Unit → Stretch → Prop} {target : ServerCursor}
    (hs : w.now.cursor.progress.serverCursor = some target)
    (hQ : Q (.ok ()) ⟨w.since, w.now.put { w.now.cursor.forget with
      cleanups := w.now.cursor.cleanups ++ [target] }⟩) :
    p.Holds absorbing Q (scheduleCleanup true) w := by
  simp only [scheduleCleanup, Program.ensures_bind, Program.ensures_get, Program.continues_ok,
    Stretch.cell_load, hs, Program.ensures_modify, Stretch.cell_store]
  exact hQ

/-- The moment after an open cursor was closed. -/
def Moment.shut (m : Moment) : Moment :=
  match m.cursor.progress.serverCursor with
  | none => (m.put { m.cursor with closed := true }).settled
  | some target => m.put { m.cursor.forget with
      closed := true, cleanups := m.cursor.cleanups ++ [target] }

/-- On a running loop a cursor is closed without an exchange. -/
theorem holds_close_async {p : Protocol} {Q : Outcome Unit → Stretch → Prop}
    (hmode : w.now.cursor.mode = .async) (hopen : w.now.cursor.closed = false →
      Q (.ok ()) ⟨w.since, w.now.shut⟩) (hclosed : w.now.cursor.closed → Q (.ok ()) w) :
    p.Holds absorbing Q (close true) w := by
  simp only [close, Program.ensures_bind, Program.ensures_get, Program.continues_ok,
    Stretch.cell_load, hmode]
  split
  · rename_i hc
    exact hclosed hc
  rename_i hc
  have hshut := hopen (eq_false_of_ne_true hc)
  simp only [Program.ensures_bind, Program.ensures_modify, Program.continues_ok,
    Stretch.cell_load, Stretch.cell_store]
  unfold Moment.shut at hshut
  rcases hs : w.now.cursor.progress.serverCursor with _ | target
  · rw [hs] at hshut
    simp only [scheduleCleanup, Program.ensures_bind, Program.ensures_get, Program.continues_ok,
      Stretch.cell_load, Moment.put_cursor, hs]
    rw [ensures_releaseResources, settle_stretch]
    exact hshut
  · rw [hs] at hshut
    exact holds_schedule hs hshut

theorem Guarded.shut_now (h : Guarded plan m) (hc : m.cursor.closed = false) :
    Guarded plan m.shut ∧ Permits plan m m.shut := by
  unfold Moment.shut
  rcases hs : m.cursor.progress.serverCursor with _ | target
  · have hcursor := Moment.settled_cursor (m.put { m.cursor with closed := true })
    refine ⟨h.settled true (fun _ => rfl) hs fun hpos => ?_, fun _ => ?_, fun _ hc => ?_,
      fun _ hu => ⟨?_, ?_⟩⟩
    · rcases he : plan.stopsEarly with _ | _
      · have := (h.going he hc).2
        omega
      · rfl
    · rw [hcursor]; rfl
    · rw [hcursor] at hc
      simp at hc
    · rw [hcursor]; exact hs
    · rw [Moment.settled_unfinished]; exact hu
  · refine ⟨h.scheduled (by simp [hs]) target, fun _ => rfl, fun _ hc => ?_, fun hnone => ?_⟩
    · simp at hc
    · simp [hs] at hnone

/-- An activity that counts on nothing minds the others. -/
abbrev Minds {α : Type} (plan : Plan) (absorbing : Bool) (p : Program Cursor α) : Prop :=
  Keeps ((scheduling plan).environment absorbing) Stretch.cell
    (Minded plan (fun _ => True) absorbing) p

theorem stable_true : Stable plan (fun _ => True) absorbing := fun _ _ _ _ _ => trivial

theorem minds_close : Minds plan absorbing (close true) := by
  intro w h
  refine holds_close_async h.guarded.async (fun hc => ?_) fun _ => h
  obtain ⟨hguarded, hpermits⟩ := h.guarded.shut_now hc
  exact h.moved stable_true hguarded hpermits

/-! ## Fetching -/

/-- While a cursor fetches, it has a server cursor as long as it is open. -/
def Fetching (plan : Plan) (m : Moment) : Prop :=
  plan.stopsEarly = false ∧ (m.cursor.closed = false → m.cursor.progress.serverCursor.isSome)

/-- No server cursor is held, and no kill is unfinished. -/
def Spent (m : Moment) : Prop := m.cursor.progress.serverCursor = none ∧ m.unfinished ≤ 0

theorem stable_fetching : Stable plan (Fetching plan) true := by
  rintro m m' hclosed hpermits ⟨he, hlive⟩
  refine ⟨he, fun hc => ?_⟩
  rw [(hpermits rfl).live he hc]
  exact hlive (Moment.open_of_open hclosed hc)

theorem stable_spent : Stable plan Spent true :=
  fun _ _ _ hpermits hs => (hpermits rfl).gone hs.1 hs.2

/-- At the end of a fetch no kill is unfinished, if the resources are to go. -/
def Over (o : Outcome Verdict) (m : Moment) : Prop :=
  ∀ v, o = .ok v → v.followUp ≠ .nothing → Spent m

theorem over_error (e : Failure) (m : Moment) : Over (.error e) m := nofun

theorem holds_absorb (h : Minded plan (Fetching plan) true w) (hc : w.now.cursor.closed = false)
    (result : QueryResult) :
    (scheduling plan).Holds true (fun o w' => ∃ v, o = .ok v ∧ Minded plan (fun _ => True) true w' ∧
      w'.now.unfinished ≤ 0 ∧ (v.followUp = .release → w'.now.cursor.progress.serverCursor = none))
      (absorb result) w := by
  refine ensures_absorb_of fun p v w₁ hadvances hw₁ => ⟨_, rfl, ?_⟩
  obtain ⟨h₁, hcursor⟩ : Minded plan (Fetching plan) true w₁ ∧ w₁.now.cursor = w.now.cursor := by
    rcases hw₁ with rfl | ⟨message, rfl⟩
    · exact ⟨h, rfl⟩
    · exact ⟨h.record stable_fetching (fun _ _ => rfl) (fun _ => rfl) rfl rfl, rfl⟩
  obtain ⟨since, ⟨c, history⟩⟩ := w₁
  obtain rfl : c = w.now.cursor := hcursor
  have hlive := h₁.guarded.live (h₁.kept.2 hc)
  have hu := (h₁.guarded.going hlive.2.2 hc).2
  exact ⟨minded_absorbing (h₁.guarded.put rfl rfl rfl rfl fun _ => hlive) h₁.respects trivial, hu,
    hadvances.fate.gone⟩

theorem holds_follow (h : Minded plan (Fetching plan) true w) (result : QueryResult)
    (connection : Connection) :
    (scheduling plan).Holds true (fun o w' => Minded plan (Over o) true w')
      (follow connection result) w := by
  refine Program.ensures_bind.2 ?_
  simp only [Program.ensures_get, Program.continues_ok, Stretch.cell_load]
  split
  · exact minded_absorbing h.guarded h.respects (over_error _ _)
  rename_i hc
  refine Program.ensures_bind.2 (Program.ensures_mono ?_
    (holds_absorb h (eq_false_of_ne_true hc) result))
  rintro _ w₁ ⟨v, rfl, h₁, hu, hgone⟩
  rw [Program.continues_ok]
  split
  · refine Program.ensures_bind.2 (Program.ensures_mono ?_
      ((undisturbed_minded stable_spent).ensures_killHeld (w := w₁) ?_ ?_ (some connection)))
    · rintro (e | _) w₂ h₂
      · exact minded_absorbing h₂.guarded h₂.respects (over_error _ _)
      · exact minded_absorbing h₂.guarded h₂.respects fun _ _ _ => h₂.kept
    · exact minded_absorbing h₁.guarded.forgotten h₁.respects ⟨rfl, hu⟩
    · exact fun hs => minded_absorbing h₁.guarded h₁.respects ⟨hs, hu⟩
  · rename_i hkill
    refine minded_absorbing h₁.guarded h₁.respects ?_
    intro v' hv' hv
    cases hv'
    exact ⟨hgone (FollowUp.eq_release hv hkill), hu⟩

theorem holds_fetchOver (h : Minded plan (Fetching plan) true w) (target : ServerCursor)
    (connection : Connection) :
    (scheduling plan).Holds true (fun o w' => Minded plan (Over o) true w')
      (fetchOver target connection) w := by
  have hbegins : Minded plan (Fetching plan) true
      ⟨w.since, w.now.record (.noticed (fetchBegins w.now.cursor target))⟩ :=
    h.record stable_fetching (fun _ _ => rfl) (fun _ => rfl) rfl rfl
  obtain ⟨hasked, hresumes⟩ :=
    hbegins.ask stable_fetching (fetchExchange w.now.cursor connection target)
  rw [fetchOver_eq]
  refine Program.ensures_bind.2 (ensures_requestBatch.2 ⟨hasked, fun x w' hw' => ?_⟩)
  have h' := hresumes x w' hw'
  rcases fetched target _ x with e | result
  · exact minded_absorbing h'.guarded h'.respects (over_error _ _)
  · exact holds_follow (h'.record stable_fetching (fun _ _ => rfl) (fun _ => rfl) rfl rfl) result
      connection

theorem holds_fetching (h : Minded plan (Fetching plan) true w) (target : ServerCursor) :
    (scheduling plan).Holds true (fun o w' => Minded plan (Over o) true w')
      (withConnection (fetchOver target)) w := by
  refine ensures_withConnection.2 ?_
  simp only [Stretch.cell_load]
  split
  · exact holds_fetchOver h target _
  · exact minded_absorbing h.guarded h.respects (over_error _ _)
  · rename_i handle hc _
    obtain ⟨hasked, hresumes⟩ := h.ask stable_fetching (.lease handle.resource)
    refine ⟨hasked, fun x w' hw' => ?_⟩
    have h' := hresumes x w' hw'
    rcases x with e | connection
    · exact minded_absorbing h'.guarded h'.respects (over_error _ _)
    · refine Program.ensures_mono (fun o w'' h'' => ?_) (holds_fetchOver h' target connection)
      have hnone : plan.connection.isSome → ∀ id,
          (Incident.noticed (.releaseConnection connection)).releases id = false := fun hg => by
        rw [← h.guarded.connection, hc] at hg
        simp at hg
      have hu := Moment.record_unfinished (i := .noticed (.releaseConnection connection)) rfl rfl
        w''.now
      refine minded_absorbing (h''.guarded.record hnone (fun _ => rfl) rfl rfl) h''.respects ?_
      exact fun v ho hv => ⟨(h''.kept v ho hv).1, hu ▸ (h''.kept v ho hv).2⟩

theorem minds_giveUp (e : Failure) : Minds plan true (giveUp e) := by
  cases e with
  | cursorMissing id address =>
    refine keeps_bind (fun w h => ?_) fun _ => minds_close
    exact minded_absorbing h.guarded.forgotten h.respects trivial
  | cancelled => exact keeps_pure ()
  | _ => exact minds_close

theorem minds_fetch : Minds plan true fetch := by
  intro w h
  simp only [fetch, Program.ensures_bind, Program.ensures_get, Program.continues_ok,
    Stretch.cell_load]
  rcases hs : w.now.cursor.progress.serverCursor with _ | target
  · exact h
  have hsome : w.now.cursor.progress.serverCursor.isSome := by simp [hs]
  have hfetching : Minded plan (Fetching plan) true w :=
    minded_absorbing h.guarded h.respects ⟨(h.guarded.live hsome).2.2, fun _ => hsome⟩
  refine Program.ensures_bind.2 (Program.ensures_attempt.2
    (Program.ensures_mono ?_ (holds_fetching hfetching target)))
  rintro (e | v) w' h'
  · exact keeps_bind (minds_giveUp e) (fun _ => keeps_fail e) w'
      (minded_absorbing h'.guarded h'.respects trivial)
  · simp only [Program.continues_ok]
    split
    · exact minded_absorbing h'.guarded h'.respects trivial
    · rename_i hv
      obtain ⟨hgone, hu⟩ := h'.kept v rfl hv
      rw [ensures_releaseResources, settle_stretch]
      have hsettled := h'.guarded.settled w'.now.cursor.closed id hgone
        fun hpos => by omega
      refine minded_absorbing hsettled (fun hc => ?_) trivial
      rw [Moment.settled_cursor]
      exact h'.respects hc

/-! ## Activities -/

theorem retrievable_minded : Retrievable ((scheduling plan).environment true) Stretch.cell
    (Minded plan (fun _ => True) true) where
  fetch w h _ := minds_fetch w h
  wait w h _ := (undisturbed_minded stable_true).keeps_waitBeforeRetry
    (fun _ _ h => minded_absorbing (h.guarded.put rfl rfl rfl rfl h.guarded.live) h.respects trivial)
    w h

theorem minds_takeBatch : Minds plan true takeBatch := by
  intro w h
  refine ensures_takeBatch.2 ?_
  split
  · exact h
  · exact minded_absorbing (h.guarded.put rfl rfl rfl rfl h.guarded.live) h.respects trivial

/-- An activity that minds the others behaves, if it is no scheduled kill. -/
theorem behaves_of_minds {a : Activity} (ha : a.isCleanup = false)
    (hp : Minds plan a.absorbs a.program) (h : Minded plan (fun _ => True) a.absorbs w) :
    (scheduling plan).Behaves a w a.program := by
  refine Program.ensures_mono (fun o w' h' => ?_) (hp w h)
  have hended := h'.record stable_true (i := .ended a o) (fun _ _ => rfl) (fun _ => rfl) rfl ha
  exact ⟨hended.guarded, hended.respects, hended.permits⟩

/-- A scheduled kill counts on this. -/
def Doomed (plan : Plan) (m : Moment) : Prop :=
  plan.stopsEarly = true ∨ m.cursor.closed = true

theorem stable_doomed : Stable plan (Doomed plan) absorbing :=
  fun _ _ hclosed _ h => h.imp_right hclosed

theorem behaves_cleanup {target : ServerCursor} (h : Minded plan (Doomed plan) false w) :
    (scheduling plan).Behaves (.cleanup target) w (Activity.cleanup target).program := by
  refine Program.ensures_bind.2 (Program.ensures_always.2 (Program.ensures_mono ?_
    ((undisturbed_minded stable_doomed).keeps_killCursor target none w h)))
  intro o w' h'
  have hends : ∀ outcome, (scheduling plan).Ends false w'.since
      (w'.now.settled.record (.ended (.cleanup target) outcome)) := by
    intro outcome
    have hcursor := Moment.settled_cursor w'.now
    have hu : (w'.now.settled.record (.ended (.cleanup target) outcome)).unfinished
        = w'.now.unfinished - 1 := w'.now.finished_unfinished target outcome
    have hpermits :
        Permits plan w'.now (w'.now.settled.record (.ended (.cleanup target) outcome)) :=
      ⟨fun hc => by rw [Moment.record_cursor, hcursor]; exact hc,
        fun _ _ => by rw [Moment.record_cursor, hcursor],
        fun hs hle => ⟨by rw [Moment.record_cursor, hcursor]; exact hs, by omega⟩⟩
    exact ⟨h'.guarded.finished h'.kept target outcome, fun hc => hpermits.closed (h'.respects hc),
      fun _ => (h'.permits rfl).trans hpermits⟩
  rw [ensures_releaseResources]
  change Ensures _ _ _ _ (settle ((scheduling plan).environment false) Stretch.cell w')
  rw [settle_stretch]
  rcases o with e | _
  · exact hends (.error e)
  · exact hends (.ok .nothing)

/-! ## Whole lives -/

/-- Whether an operation is called on the running loop. -/
def Activity.onLoop : Activity → Prop
  | close loopRuns => loopRuns = true
  | _ => True

theorem operable_minded {a : Activity} (ha : a.onLoop) :
    Operable ((scheduling plan).environment a.absorbs) Stretch.cell
      (Minded plan (fun _ => True) a.absorbs) a where
  retrieve hr := Activity.absorbs_of_isRetrieval hr ▸ retrievable_minded
  take hr := Activity.absorbs_of_isRetrieval hr ▸ minds_takeBatch
  close loopRuns := by
    rintro rfl
    obtain rfl : loopRuns = true := ha
    exact minds_close
  interrupt _ h := h.moved stable_true (h.guarded.put rfl rfl rfl rfl h.guarded.live)
    (permits_of_eq rfl rfl rfl)
  resize _ _ h := h.moved stable_true (h.guarded.put rfl rfl rfl rfl h.guarded.live)
    (permits_of_eq rfl rfl rfl)

theorem sound_scheduling (plan : Plan) : (scheduling plan).Sound Activity.onLoop where
  refl m := ⟨id, .refl m⟩
  respects_trans _ _ _ h h' hc := h' (h hc)
  spares_trans _ _ _ := .trans
  call a m hoffered ha h := by
    have hcleanup := Activity.isCleanup_of_isOperation ha
    have hstart : Minded plan (fun _ => True) a.absorbs ⟨m, m⟩ :=
      ⟨h, id, fun _ => .refl m, trivial⟩
    exact behaves_of_minds hcleanup ((operable_minded hoffered).keeps_program ha)
      (hstart.record stable_true (i := .begun a) (fun _ _ => rfl) (fun _ => rfl) hcleanup rfl)
  run m before target after hc h := by
    obtain ⟨hbegun, hu⟩ := h.begun hc
    exact behaves_cleanup ⟨hbegun, id, fun _ => permits_of_eq rfl rfl hu, h.doomed hc⟩

/-- Before its first batch a cursor has done nothing. -/
theorem fresh_of_ofPlan {c : Cursor} (hc : ofPlan .async plan = .ok c) (first : QueryResult)
    (loopRuns : Bool) : Fresh plan ⟨c, [.begun (.opening first loopRuns)]⟩ := by
  have hidle : (⟨c, [.begun (.opening first loopRuns)]⟩ : Moment).unfinished ≤ 0 := by
    obtain ⟨settings, rfl⟩ := exists_of_ofPlan hc
    exact Int.le_refl 0
  obtain ⟨settings, rfl⟩ := exists_of_ofPlan hc
  refine ⟨?_, rfl, rfl, hidle, rfl, rfl⟩
  constructor
  case async => rfl
  case source => rfl
  case connection => rfl
  case sources =>
    intro s
    simp [Moment.sourceReleases, Moment.sourceDue, Incident.releasesSource]
  case given =>
    intro _ id
    simp [Moment.releases, Moment.due, Incident.releases]
  case single => omega
  case shut => simp
  case early => exact fun _ => rfl
  case held => simp
  case going => exact fun _ _ => ⟨rfl, hidle⟩
  case pending => simp

/-- The making of a cursor ends without an exchange; if its first batch stops it early, a kill is
    scheduled. -/
theorem guarded_start (h : Fresh plan w.now) :
    (scheduling plan).Holds true (fun _ w' => w'.since = w.since ∧ Guarded plan w'.now)
      (start plan.first true) w := by
  refine Program.ensures_bind.2 (ensures_absorb fun w₁ hw₁ => ?_)
  obtain ⟨h₁, hcursor, hsince⟩ : Fresh plan w₁.now ∧ w₁.now.cursor = w.now.cursor ∧
      w₁.since = w.since := by
    rcases hw₁ with rfl | ⟨message, rfl⟩
    · exact ⟨h, rfl, rfl⟩
    · refine ⟨⟨h.record (fun _ _ => rfl) (fun _ => rfl) rfl rfl, h.open_, h.unreleased, ?_,
        h.undelivered, h.limit⟩, rfl, rfl⟩
      exact h.idle
  simp only [Stretch.cell_load, Stretch.cell_store, Program.continues_ok, Program.ensures_bind,
    Program.ensures_get, Moment.put_cursor, ← hcursor, ← hsince]
  have habsorbed := h₁.absorbed
  have hstopped := h₁.stopped
  have hfate : Progress.Fate w₁.now.cursor.limit w₁.now.cursor.batchSize plan.first
    (w₁.now.firstAdvance plan).1 (w₁.now.firstAdvance plan).2 := Progress.advance_fate _ _ _ _
  unfold Moment.firstAdvance at habsorbed hstopped hfate
  generalize w₁.now.cursor.progress.advance w₁.now.cursor.limit w₁.now.cursor.batchSize plan.first
    = after at habsorbed hstopped hfate ⊢
  obtain ⟨p, v⟩ := after
  split
  · rename_i hv
    exact ⟨rfl, habsorbed (by simp [hv])⟩
  · rename_i hv
    have hidle := h₁.idle
    rw [ensures_releaseResources, settle_stretch]
    refine ⟨rfl, (habsorbed (by simp [hv])).settled w₁.now.cursor.closed id (hfate.gone hv)
      fun hpos => ?_⟩
    have hunfinished := Moment.put_unfinished (m := w₁.now) rfl ▸ hpos
    omega
  · rename_i hmode
    simp [h₁.async] at hmode
  · rename_i hv _
    obtain ⟨target, hs, hguarded⟩ := hstopped hv
    exact holds_schedule hs ⟨rfl, hguarded⟩

theorem orderly_guarded {c : Cursor} (hc : ofPlan .async plan = .ok c) :
    (scheduling plan).Orderly (Life.opening c plan.first true) := by
  have hfresh := fresh_of_ofPlan hc plan.first true
  refine Protocol.orderly_opening (Program.ensures_bind.2 (Program.ensures_mono ?_
    (guarded_start (w := ⟨_, _⟩) hfresh)))
  rintro o w' ⟨hsince, hguarded⟩
  have hends : ∀ outcome, (scheduling plan).Ends true w'.since
      (w'.now.record (.ended (.opening plan.first true) outcome)) := fun outcome => by
    refine .absorbing (hguarded.record (fun _ _ => rfl) (fun _ => rfl) rfl rfl) fun hclosed => ?_
    rw [hsince] at hclosed
    exact absurd (hfresh.open_.symm.trans hclosed) Bool.false_ne_true
  rcases o with e | _
  · exact hends (.error e)
  · exact hends (.ok .nothing)

/-- **When the resources of a cursor on a running loop go before a scheduled kill has ended.**
    While a kill is unfinished, what the cursor owns is released exactly if the first batch has
    stopped the cursor early and it was closed since. -/
theorem released_iff_of_unfinished {c : Cursor} {l : Life} (hc : ofPlan .async plan = .ok c)
    (hl : Life.Reaches ⟨false, Activity.onLoop, fun _ _ => True⟩
      (Life.opening c plan.first true) l) (hu : l.Unfinished) :
    (∀ s, plan.source = some ⟨.owned, s⟩ →
      (0 < l.moment.sourceReleases s ↔ plan.stopsEarly = true ∧ l.moment.cursor.closed = true)) ∧
    ∀ x, plan.connection = some ⟨.owned, x⟩ →
      (0 < l.moment.releases x.id ↔ plan.stopsEarly = true ∧ l.moment.cursor.closed = true) := by
  have hg : Guarded plan l.moment :=
    (sound_scheduling plan).invariant_of_reaches hl (orderly_guarded hc)
  have hreleased := hg.pending (Life.unfinished_pos (Life.counted_of_reaches hl) hu)
  refine ⟨fun s hs => ?_, fun x hx => ?_⟩
  · rw [hg.sources s, Moment.sourceDue, hg.source, hs, hreleased]
    rcases plan.stopsEarly with _ | _ <;> rcases l.moment.cursor.closed with _ | _ <;> simp [owns]
  · rw [hg.given (by simp [hx]) x.id, Moment.due, hg.connection, hx, hreleased]
    rcases plan.stopsEarly with _ | _ <;> rcases l.moment.cursor.closed with _ | _ <;> simp [owns]

/-- A cursor of the sample plan, closed on the running loop before any scheduled kill begins. -/
def closedAtOnce (limit : Int) : Life :=
  (Life.opening (sample .async limit) (Plan.sample limit).first true).begin (.close true)

theorem reaches_closedAtOnce (limit : Int) (h : Life.MayCall
      ⟨false, Activity.onLoop, fun _ _ => True⟩ (.close true)
      (Life.opening (sample .async limit) (Plan.sample limit).first true)) :
    Life.Reaches ⟨false, Activity.onLoop, fun _ _ => True⟩
      (Life.opening (sample .async limit) (Plan.sample limit).first true) (closedAtOnce limit) :=
  Life.Reaches.begin .refl h

/-- Without a limit the source is kept for the kill. -/
theorem released_iff_closedAtOnce : (closedAtOnce 0).Unfinished ∧
    (0 < (closedAtOnce 0).moment.sourceReleases ⟨0⟩ ↔
      (Plan.sample 0).stopsEarly = true ∧ (closedAtOnce 0).moment.cursor.closed = true) ∧
    (closedAtOnce 0).moment.sourceReleases ⟨0⟩ = 0 := by
  have hreaches := reaches_closedAtOnce 0
    ⟨rfl, rfl, by decide +kernel, by simp [Activity.isRetrieval]⟩
  have hunfinished : (closedAtOnce 0).Unfinished := .inl (by decide +kernel)
  exact ⟨hunfinished,
    (released_iff_of_unfinished (ofPlan_sample _ _) hreaches hunfinished).1 ⟨0⟩ rfl,
    by decide +kernel⟩

/-- With a limit that the first batch reaches, closing releases the source at once, although the
    kill of the server cursor is still scheduled. -/
theorem not_kept_for_scheduled_kill :
    ¬ ∀ {plan : Plan} {c : Cursor} {l : Life}, ofPlan .async plan = .ok c →
      Life.Reaches ⟨false, Activity.onLoop, fun _ _ => True⟩ (Life.opening c plan.first true) l →
      l.Unfinished → ∀ s, plan.source = some ⟨.owned, s⟩ → l.moment.sourceReleases s = 0 := by
  intro h
  have hreaches := reaches_closedAtOnce 1
    ⟨rfl, rfl, by decide +kernel, by simp [Activity.isRetrieval]⟩
  have hunfinished : (closedAtOnce 1).Unfinished := .inl (by decide +kernel)
  have hkept := h (ofPlan_sample _ _) hreaches hunfinished ⟨0⟩ rfl
  exact absurd hkept (by decide +kernel)

end DocumentClient.Cursor
