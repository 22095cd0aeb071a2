/-
  Kills that an asynchronous cursor has scheduled, and the resources they need.

  On a running event loop a cursor that is given up schedules the kill of its server
  cursor, and the kill releases the resources when it is done.  `unfinished` counts the
  kills that are scheduled or under way.  `Guarded` says that, while there is one, the
  resources are not released, unless the first batch of the cursor has stopped it early
  and it was closed since: then its closing finds no server cursor and releases at once.
  The lemmas say which changes keep this.
-/
import DocumentClient.Proofs.Cursor.Account

namespace DocumentClient.Cursor

/-- Whether the first batch of a plan reaches the limit while its server cursor is alive. -/
def Plan.stopsEarly (plan : Plan) : Bool :=
  plan.first.cursor.isSome &&
    DocumentClient.limitReached plan.limit plan.first.results.length

/-! ## Unfinished kills -/

namespace Moment

/-- How many kills were scheduled and have not ended. -/
def unfinished (m : Moment) : Int :=
  m.cursor.cleanups.length + m.begun Activity.isCleanup - m.ended Activity.isCleanup

theorem record_unfinished {i : Incident} (hb : i.begins Activity.isCleanup = false)
    (he : i.ends Activity.isCleanup = false) (m : Moment) :
    (m.record i).unfinished = m.unfinished := by
  simp [unfinished, record_begun, record_ended, hb, he]

theorem settled_begun (m : Moment) (p : Activity → Bool) : m.settled.begun p = m.begun p := by
  have : (dues m.cursor).countP (fun n => (Incident.noticed n).begins p) = 0 :=
    List.countP_eq_zero.2 fun _ _ => by simp [Incident.begins]
  rw [begun, settled_countP, this]
  simp [begun]

theorem settled_ended (m : Moment) (p : Activity → Bool) : m.settled.ended p = m.ended p := by
  have : (dues m.cursor).countP (fun n => (Incident.noticed n).ends p) = 0 :=
    List.countP_eq_zero.2 fun _ _ => by simp [Incident.ends]
  rw [ended, settled_countP, this]
  simp [ended]

theorem settled_unfinished (m : Moment) : m.settled.unfinished = m.unfinished := by
  rw [unfinished, settled_begun, settled_ended, settled_cursor]
  rfl

theorem finished_unfinished (m : Moment) (target : ServerCursor) (o : Outcome Yield) :
    (m.settled.record (.ended (.cleanup target) o)).unfinished = m.unfinished - 1 := by
  have : m.settled.unfinished = m.unfinished := m.settled_unfinished
  simp only [unfinished, record_begun, record_ended, Incident.begins, Incident.ends,
    Activity.isCleanup] at this ⊢
  simp at this ⊢; omega

theorem put_unfinished {c : Cursor} {m : Moment} (hc : c.cleanups = m.cursor.cleanups) :
    (m.put c).unfinished = m.unfinished := by
  simp only [unfinished, put_cursor, hc]
  rfl

theorem scheduled_unfinished {c : Cursor} (m : Moment) {target : ServerCursor}
    (hc : c.cleanups = m.cursor.cleanups ++ [target]) :
    (m.put c).unfinished = m.unfinished + 1 := by
  have hbegun : ∀ p, (m.put c).begun p = m.begun p := fun _ => rfl
  have hended : ∀ p, (m.put c).ended p = m.ended p := fun _ => rfl
  simp only [unfinished, hbegun, hended, put_cursor, hc]
  simp; omega

/-- A scheduled kill that begins stays unfinished. -/
theorem begun_unfinished (m : Moment) {before after : List ServerCursor} {target : ServerCursor}
    (hc : m.cursor.cleanups = before ++ target :: after) :
    ((m.put { m.cursor with cleanups := before ++ after }).record
      (.begun (.cleanup target))).unfinished = m.unfinished := by
  have hbegun : ∀ c p, (m.put c).begun p = m.begun p := fun _ _ => rfl
  have hended : ∀ c p, (m.put c).ended p = m.ended p := fun _ _ => rfl
  simp only [unfinished, record_begun, record_ended, Incident.begins, Incident.ends,
    Activity.isCleanup, hbegun, hended, hc]
  simp; omega

end Moment

/-- A kill is scheduled, or under way. -/
def Life.Unfinished (l : Life) : Prop :=
  l.moment.cursor.cleanups ≠ [] ∨ ∃ t ∈ l.threads, t.activity.isCleanup

theorem Life.unfinished_pos {l : Life} (hc : l.Counted Activity.isCleanup) (h : l.Unfinished) :
    0 < l.moment.unfinished := by
  have hcount : (l.moment.begun Activity.isCleanup : Int) =
      l.moment.ended Activity.isCleanup + l.threads.countP (·.activity.isCleanup) := by
    exact_mod_cast hc
  unfold Moment.unfinished
  rcases h with h | ⟨t, ht, ha⟩
  · have := List.length_pos_iff.2 h
    omega
  · have : 0 < l.threads.countP (·.activity.isCleanup) := List.countP_pos_iff.2 ⟨t, ht, ha⟩
    omega

/-! ## The invariant -/

/-- What holds of an asynchronous cursor on a running loop. -/
structure Guarded (plan : Plan) (m : Moment) : Prop where
  async : m.cursor.mode = .async
  source : m.cursor.source = plan.source
  connection : m.cursor.connection = plan.connection
  sources : ∀ s, m.sourceReleases s = m.sourceDue s
  given : plan.connection.isSome → ∀ id, m.releases id = m.due id
  single : m.unfinished ≤ 1
  shut : m.cursor.closed → m.cursor.progress.serverCursor = none
  early : plan.stopsEarly → m.cursor.progress.serverCursor = none
  held : m.cursor.progress.serverCursor.isSome → m.cursor.released = false
  going : plan.stopsEarly = false → m.cursor.closed = false →
    m.cursor.cleanups = [] ∧ m.unfinished ≤ 0
  pending : 0 < m.unfinished → m.cursor.released = (plan.stopsEarly && m.cursor.closed)

section
variable {plan : Plan} {m : Moment}

/-- A cursor that holds a server cursor is open, has its resources, and was not stopped early. -/
theorem Guarded.live (h : Guarded plan m) (hs : m.cursor.progress.serverCursor.isSome) :
    m.cursor.closed = false ∧ m.cursor.released = false ∧ plan.stopsEarly = false := by
  refine ⟨?_, h.held hs, ?_⟩
  · by_cases hc : m.cursor.closed
    · simp [h.shut hc] at hs
    · exact eq_false_of_ne_true hc
  · rcases he : plan.stopsEarly with _ | _
    · rfl
    · simp [h.early he] at hs

/-- What a cursor changes besides its resources and its schedule. -/
theorem Guarded.put (h : Guarded plan m) {c : Cursor} (hsetup : c.setup = m.cursor.setup)
    (hreleased : c.released = m.cursor.released) (hclosed : c.closed = m.cursor.closed)
    (hcleanups : c.cleanups = m.cursor.cleanups)
    (hlive : c.progress.serverCursor.isSome → m.cursor.closed = false ∧
      m.cursor.released = false ∧ plan.stopsEarly = false) : Guarded plan (m.put c) := by
  have hu := Moment.put_unfinished (m := m) hcleanups
  have hsource : c.source = m.cursor.source := congrArg Setup.source hsetup
  have hconnection : c.connection = m.cursor.connection := congrArg Setup.connection hsetup
  have hnone : (m.cursor.closed = true ∨ plan.stopsEarly = true) →
      c.progress.serverCursor = none := by
    intro hor
    rcases hs : c.progress.serverCursor with _ | target
    · rfl
    · obtain ⟨h₁, -, h₃⟩ := hlive (by simp [hs])
      simp [h₁, h₃] at hor
  constructor
  case async => exact (congrArg Setup.mode hsetup).trans h.async
  case source => exact hsource.trans h.source
  case connection => exact hconnection.trans h.connection
  case sources =>
    intro s
    rw [Moment.put_sourceReleases, h.sources s, Moment.sourceDue, Moment.sourceDue,
      Moment.put_cursor, hreleased, hsource]
  case given =>
    intro hg id
    rw [Moment.put_releases, h.given hg id, Moment.due, Moment.due, Moment.put_cursor, hreleased,
      hconnection]
  case single => exact hu ▸ h.single
  case shut => exact fun hc => hnone (.inl (hclosed ▸ hc))
  case early => exact fun he => hnone (.inr he)
  case held => exact fun hs => hreleased.trans (hlive hs).2.1
  case going =>
    intro he hc
    rw [Moment.put_cursor, hcleanups, hu]
    exact h.going he (hclosed ▸ hc)
  case pending =>
    intro hp
    rw [Moment.put_cursor, hreleased, hclosed]
    exact h.pending (hu ▸ hp)

/-- A server cursor that is forgotten. -/
theorem Guarded.forgotten (h : Guarded plan m) : Guarded plan (m.put m.cursor.forget) :=
  h.put rfl rfl rfl rfl nofun

/-- An incident that is no release, and neither begins nor ends a scheduled kill. -/
theorem Guarded.record (h : Guarded plan m) {i : Incident}
    (hr : plan.connection.isSome → ∀ id, i.releases id = false)
    (hs : ∀ s, i.releasesSource s = false) (hb : i.begins Activity.isCleanup = false)
    (he : i.ends Activity.isCleanup = false) : Guarded plan (m.record i) := by
  have hu := Moment.record_unfinished hb he m
  refine { h with
    sources := fun s => ?_, given := fun hg id => ?_, single := hu ▸ h.single,
    going := fun he hc => ?_, pending := fun hp => h.pending (hu ▸ hp) }
  · rw [Moment.record_sourceReleases, hs, h.sources s]
    rfl
  · rw [Moment.record_releases, hr hg, h.given hg id]
    rfl
  · rw [hu]
    exact h.going he hc

/-- Where no server cursor is held and no kill is unfinished, or the cursor was stopped early and
    is closed, the resources may go. -/
theorem Guarded.settled (h : Guarded plan m) (closed : Bool)
    (hclosed : m.cursor.closed → closed = true) (hs : m.cursor.progress.serverCursor = none)
    (hp : 0 < m.unfinished → (plan.stopsEarly && closed) = true) :
    Guarded plan (m.put { m.cursor with closed := closed }).settled := by
  have hc := Moment.settled_cursor (m.put { m.cursor with closed := closed })
  have hu : (m.put { m.cursor with closed := closed }).settled.unfinished = m.unfinished :=
    (Moment.settled_unfinished _).trans (Moment.put_unfinished rfl)
  constructor
  case async => rw [hc]; exact h.async
  case source => rw [hc]; exact h.source
  case connection => rw [hc]; exact h.connection
  case sources => exact Moment.settled_sources h.sources
  case given => exact fun hg id => Moment.settled_connections (h.given hg id)
  case single => exact hu ▸ h.single
  case shut => rw [hc]; exact fun _ => hs
  case early => rw [hc]; exact fun _ => hs
  case held =>
    rw [hc]
    intro hsome
    simp [hs] at hsome
  case going =>
    intro he hc'
    rw [hc] at hc' ⊢
    have hnow : (m.put { m.cursor with closed := closed }).cursor.closed = false := hc'
    have hopen : m.cursor.closed = false := Moment.open_of_open hclosed hnow
    rw [hu]
    exact h.going he hopen
  case pending =>
    intro hpos
    rw [hc]
    exact (hp (hu ▸ hpos)).symm

/-- A scheduled kill that ends leaves none unfinished, and has released the resources. -/
theorem Guarded.finished (h : Guarded plan m) (hc : plan.stopsEarly = true ∨ m.cursor.closed = true)
    (target : ServerCursor) (o : Outcome Yield) :
    Guarded plan (m.settled.record (.ended (.cleanup target) o)) := by
  have hcursor := Moment.settled_cursor m
  have hs : m.cursor.progress.serverCursor = none := hc.elim h.early h.shut
  have hu := m.finished_unfinished target o
  have hone := h.single
  constructor
  case async => rw [Moment.record_cursor, hcursor]; exact h.async
  case source => rw [Moment.record_cursor, hcursor]; exact h.source
  case connection => rw [Moment.record_cursor, hcursor]; exact h.connection
  case sources =>
    intro s
    rw [Moment.record_sourceReleases, Moment.settled_sources h.sources s]
    rfl
  case given =>
    intro hg id
    rw [Moment.record_releases, Moment.settled_connections (h.given hg id)]
    rfl
  case single => omega
  case shut => rw [Moment.record_cursor, hcursor]; exact fun _ => hs
  case early => rw [Moment.record_cursor, hcursor]; exact fun _ => hs
  case held =>
    rw [Moment.record_cursor, hcursor]
    intro hsome
    simp [hs] at hsome
  case going =>
    intro he hc'
    rw [Moment.record_cursor, hcursor] at hc'
    have : m.cursor.closed = false := hc'
    simp [he, this] at hc
  case pending =>
    intro hpos
    omega

/-- Closing a cursor that holds a server cursor schedules its kill. -/
theorem Guarded.scheduled (h : Guarded plan m) (hs : m.cursor.progress.serverCursor.isSome)
    (target : ServerCursor) : Guarded plan (m.put { m.cursor.forget with
      closed := true, cleanups := m.cursor.cleanups ++ [target] }) := by
  obtain ⟨hclosed, hreleased, hearly⟩ := h.live hs
  obtain ⟨hnone, hu⟩ := h.going hearly hclosed
  have hu' : (m.put { m.cursor.forget with
      closed := true, cleanups := m.cursor.cleanups ++ [target] }).unfinished = m.unfinished + 1 :=
    m.scheduled_unfinished rfl
  refine { h with
    single := by omega, shut := fun _ => rfl, early := fun _ => rfl,
    held := fun hsome => ?_, going := fun _ hc => ?_, pending := fun _ => ?_ }
  · simp [forget, Progress.withoutServerCursor] at hsome
  · simp at hc
  · simpa [hearly, forget] using hreleased

/-! ## The first batch -/

/-- A cursor that has done nothing yet. -/
structure Fresh (plan : Plan) (m : Moment) : Prop extends Guarded plan m where
  open_ : m.cursor.closed = false
  unreleased : m.cursor.released = false
  idle : m.unfinished ≤ 0
  undelivered : m.cursor.progress.delivered = 0
  limit : m.cursor.limit = plan.limit

/-- The progress of a cursor after its first batch. -/
def Moment.firstAdvance (plan : Plan) (m : Moment) : Progress × Verdict :=
  m.cursor.progress.advance m.cursor.limit m.cursor.batchSize plan.first

theorem Fresh.advanced (h : Fresh plan m) :
    Progress.Fate m.cursor.limit m.cursor.batchSize plan.first (m.firstAdvance plan).1
        (m.firstAdvance plan).2 ∧
      (m.firstAdvance plan).1.delivered = plan.first.results.length := by
  refine ⟨Progress.advance_fate .., ?_⟩
  rw [Moment.firstAdvance, Progress.advance_delivered, h.undelivered, Int.zero_add]

/-- A first batch that leaves nothing to be killed. -/
theorem Fresh.absorbed (h : Fresh plan m) (hv : (m.firstAdvance plan).2.followUp ≠ .kill) :
    Guarded plan (m.put { m.cursor with progress := (m.firstAdvance plan).1 }) := by
  obtain ⟨hfate, hdelivered⟩ := h.advanced
  refine h.put rfl rfl rfl rfl fun hs => ⟨h.open_, h.unreleased, ?_⟩
  generalize m.firstAdvance plan = after at hfate hdelivered hv hs
  obtain ⟨p, v⟩ := after
  cases hfate with
  | ended _ hnone => simp_all
  | limitReached => simp [Verdict.followUp] at hv
  | dropped _ _ _ hnone => simp_all
  | kept _ hl _ _ =>
    rw [hdelivered, h.limit] at hl
    simp [Plan.stopsEarly, hl]

/-- A first batch that stops the cursor early: the kill is scheduled. -/
theorem Fresh.stopped (h : Fresh plan m) (hv : (m.firstAdvance plan).2.followUp = .kill) :
    ∃ target, (m.firstAdvance plan).1.serverCursor = some target ∧
      Guarded plan (m.put { m.cursor with
        progress := (m.firstAdvance plan).1.withoutServerCursor,
        cleanups := m.cursor.cleanups ++ [target] }) := by
  obtain ⟨hfate, hdelivered⟩ := h.advanced
  generalize m.firstAdvance plan = after at hfate hdelivered hv ⊢
  obtain ⟨p, v⟩ := after
  cases hfate with
  | @limitReached target hfirst hl hs =>
    rw [hdelivered, h.limit] at hl
    have hearly : plan.stopsEarly = true := by simp [Plan.stopsEarly, hfirst, hl]
    have hone : (m.put { m.cursor with
        progress := p.withoutServerCursor,
        cleanups := m.cursor.cleanups ++ [target] }).unfinished ≤ 1 := by
      rw [m.scheduled_unfinished rfl]
      have := h.idle
      omega
    refine ⟨target, hs, { h.toGuarded with
      single := hone, shut := fun _ => rfl, early := fun _ => rfl,
      held := fun hsome => ?_, going := fun he => ?_, pending := fun _ => ?_ }⟩
    · simp [Progress.withoutServerCursor] at hsome
    · simp [hearly] at he
    · simp [h.unreleased, h.open_]
  | _ => simp [Verdict.followUp] at hv

/-! ## Kills that begin -/

section
variable {before after : List ServerCursor} {target : ServerCursor}

/-- A kill is scheduled only by a cursor that was stopped early, or closed. -/
theorem Guarded.doomed (h : Guarded plan m)
    (hc : m.cursor.cleanups = before ++ target :: after) :
    plan.stopsEarly = true ∨ m.cursor.closed = true := by
  rcases he : plan.stopsEarly with _ | _
  · rcases hclosed : m.cursor.closed with _ | _
    · have := (h.going he hclosed).1
      simp [hc] at this
    · exact .inr rfl
  · exact .inl rfl

/-- A scheduled kill that begins stays unfinished. -/
theorem Guarded.begun (h : Guarded plan m) (hc : m.cursor.cleanups = before ++ target :: after) :
    Guarded plan ((m.put { m.cursor with cleanups := before ++ after }).record
        (.begun (.cleanup target))) ∧
      ((m.put { m.cursor with cleanups := before ++ after }).record
        (.begun (.cleanup target))).unfinished = m.unfinished := by
  have hu := m.begun_unfinished hc
  refine ⟨{ h with
    single := hu ▸ h.single, going := fun he hclosed => ?_,
    pending := fun hpos => h.pending (hu ▸ hpos) }, hu⟩
  have hclosed : m.cursor.closed = false := hclosed
  have := h.doomed hc
  simp [he, hclosed] at this

end

end

end DocumentClient.Cursor
