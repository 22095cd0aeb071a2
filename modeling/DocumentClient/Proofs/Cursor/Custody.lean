/-
  Who releases what: the resources of a blocking cursor.
-/
import DocumentClient.Proofs.Cursor.Account
import DocumentClient.Proofs.Cursor.Nested

namespace DocumentClient.Cursor.Custody

open Program (Ensures Environment)

/-! ## The discipline -/

/-- What holds of a blocking cursor whenever a caller waits. -/
structure Kept (m : Moment) : Prop where
  blocking : m.cursor.mode = .blocking
  idle : m.cursor.cleanups = []
  sources : ∀ s, m.sourceReleases s = m.sourceDue s
  /-- A cursor that was given a connection leases none. -/
  given : m.cursor.connection.isSome → ∀ id, m.leases id = 0
  held : m.cursor.progress.serverCursor.isSome →
    m.cursor.closed = false ∧ m.cursor.released = false
  shut : m.cursor.closed → m.cursor.released
  filled : m.cursor.progress.nextBatch ≠ some []

/-- What others may change while a caller waits: they may close the cursor, and they
    pay their debts. -/
structure Tolerable (m m' : Moment) : Prop where
  kept : Kept m → Kept m'
  setup : m'.cursor.setup = m.cursor.setup
  batch : m'.cursor.progress.nextBatch = m.cursor.progress.nextBatch
  delivered : m'.cursor.progress.delivered = m.cursor.progress.delivered
  debt : ∀ id, m'.debt id = m.debt id
  open_ : m'.cursor.closed = false → m.cursor.closed = false ∧
    m'.cursor.progress.serverCursor = m.cursor.progress.serverCursor ∧
    m'.cursor.released = m.cursor.released

/-- Answers are values or ordinary failures. -/
def Ordinary (q : Exchange) (x : Outcome q.Answer) : Prop := ∀ e, x = .error e → e.isOrdinary

/-- What the callers of a blocking cursor owe to each other. -/
def discipline : Discipline := ⟨Kept, Tolerable, Ordinary⟩

theorem Tolerable.refl (m : Moment) : Tolerable m m :=
  ⟨id, rfl, rfl, rfl, fun _ => rfl, fun h => ⟨h, rfl, rfl⟩⟩

theorem Tolerable.trans {m₁ m₂ m₃ : Moment} (h : Tolerable m₁ m₂) (h' : Tolerable m₂ m₃) :
    Tolerable m₁ m₃ where
  kept hk := h'.kept (h.kept hk)
  setup := h'.setup.trans h.setup
  batch := h'.batch.trans h.batch
  delivered := h'.delivered.trans h.delivered
  debt id := (h'.debt id).trans (h.debt id)
  open_ ho := by
    obtain ⟨h₁, h₂, h₃⟩ := h'.open_ ho
    obtain ⟨k₁, k₂, k₃⟩ := h.open_ h₁
    exact ⟨k₁, h₂.trans k₂, h₃.trans k₃⟩

/-! ## Incidents -/

/-- An incident that has no part in the account is tolerable. -/
theorem tolerable_record {m : Moment} {i : Incident} (hi : i.isNeutral) :
    Tolerable m (m.record i) where
  kept hk := { hk with
    sources := fun s => by
      rw [Moment.record_sourceReleases, Incident.releasesSource_of_isNeutral hi]
      simpa using hk.sources s
    given := fun h id => by
      rw [Moment.record_leases, Incident.leases_of_isNeutral hi]
      simpa using hk.given h id }
  setup := rfl
  batch := rfl
  delivered := rfl
  debt id := by
    rw [Moment.record_debt, Incident.leases_of_isNeutral hi, Incident.releases_of_isNeutral hi]
    simp
  open_ h := ⟨h, rfl, rfl⟩

theorem Kept.record {m : Moment} (hk : Kept m) {i : Incident} (hi : i.isNeutral) :
    Kept (m.record i) := (tolerable_record hi).kept hk

/-! ## Loans -/

theorem Kept.leased {m : Moment} (hk : Kept m) (hc : m.cursor.connection = none) {s : Source}
    {x : Connection} : Kept (m.answer (.lease s) (.ok x)) :=
  { hk with given := fun h => by simp [hc] at h }

theorem Kept.returned {m : Moment} (hk : Kept m) {x : Connection} :
    Kept (m.record (.noticed (.releaseConnection x))) := { hk with }

/-- A connection that is leased and then released leaves the debts as they were. -/
theorem debt_of_loan {m m' : Moment} {s : Source} {x : Connection}
    (h : ∀ id, m'.debt id = (m.answer (.lease s) (.ok x)).debt id) (id : Nat) :
    (m'.record (.noticed (.releaseConnection x))).debt id = m.debt id := by
  have hl : (Incident.answered (.lease s) (.ok x) (!m.cursor.closed)).leases id = (x.id == id) :=
    rfl
  have hr : (Incident.noticed (.releaseConnection x)).releases id = (x.id == id) := rfl
  have hl' : (Incident.noticed (.releaseConnection x)).leases id = false := rfl
  have hr' : (Incident.answered (.lease s) (.ok x) (!m.cursor.closed)).releases id = false := rfl
  have := h id
  simp only [Moment.answer, Moment.record_debt, hl, hr, hl', hr'] at this ⊢
  split at this <;> simp_all

theorem Tolerable.loan {m m' : Moment} {s : Source} {x : Connection}
    (hc : m.cursor.connection = none) (h : Tolerable (m.answer (.lease s) (.ok x)) m') :
    Tolerable m (m'.record (.noticed (.releaseConnection x))) where
  kept hk := (h.kept (hk.leased hc)).returned
  setup := h.setup
  batch := h.batch
  delivered := h.delivered
  debt := debt_of_loan h.debt
  open_ := h.open_

/-- The rule of an exchange other than a lease. -/
theorem holds_ask {m : Moment} (hk : Kept m) {q : Exchange} {Q : Outcome q.Answer → Moment → Prop}
    (hq : ∀ x wasOpen, (Incident.answered q x wasOpen).isNeutral)
    (h : ∀ x m', Ordinary q x → Kept m' → Tolerable m m' → Q x m') :
    discipline.Holds Q (.ask q .done) m := by
  refine ⟨hk.record rfl, ?_⟩
  rintro x _ ⟨hx, m₁, ht, rfl⟩
  have hm : Tolerable m (m₁.answer q x) :=
    ((tolerable_record rfl).trans ht).trans (tolerable_record (hq _ _))
  exact h x _ hx (hm.kept hk) hm

/-- The rule of a connection, given or leased: a debt of its own while it is leased. -/
theorem holds_withConnection {α : Type} {m : Moment} (hk : Kept m)
    {use : Connection → Program Cursor α} {Q : Outcome α → Moment → Prop}
    (hgiven : ∀ x, discipline.Holds Q (use x) m)
    (hleased : ∀ s x m', Tolerable m m' → m'.cursor.connection = none → 
      discipline.Holds (fun o m'' => Q o (m''.record (.noticed (.releaseConnection x)))) (use x)
        (m'.answer (.lease s) (.ok x)))
    (hfailed : ∀ e m', e.isOrdinary → Kept m' → Tolerable m m' → Q (.error e) m') :
    discipline.Holds Q (withConnection use) m := by
  refine ensures_withConnection.2 ?_
  simp only [Moment.cell_load]
  split
  · rename_i h _
    exact hgiven h.resource
  · exact hfailed _ _ rfl hk (.refl m)
  · rename_i h hc _
    refine ⟨hk.record rfl, ?_⟩
    rintro x _ ⟨hx, m₁, ht, rfl⟩
    have hm : Tolerable m m₁ := (tolerable_record rfl).trans ht
    rcases x with e | x
    · have hm' : Tolerable m (m₁.answer (.lease h.resource) (.error e)) :=
        hm.trans (tolerable_record rfl)
      exact hfailed e _ (hx e rfl) (hm'.kept hk) hm'
    · refine hleased _ x m₁ hm ?_
      have := congrArg Setup.connection hm.setup
      exact this.trans hc

/-! ## Kills -/

/-- A request to kill cursors. -/
theorem holds_killCursors {m : Moment} (hk : Kept m) (x : Connection) (ns : Namespace)
    (ids : List Int) :
    discipline.Holds (fun o m' => (∀ e, o = .error e → e.isOrdinary) ∧ Tolerable m m')
      (Program.killCursors x ns ids) m :=
  holds_ask hk (fun _ _ => rfl) fun _ _ ho _ ht => ⟨ho, ht⟩

theorem holds_killCursor {m : Moment} (hk : Kept m) (target : ServerCursor)
    (given : Option Connection) :
    discipline.Holds (fun o m' => o = .ok () ∧ Tolerable m m') (killCursor target given) m := by
  refine Program.ensures_bind.2 (Program.ensures_bind.2 (Program.ensures_handle.2 ?_))
  refine Program.ensures_mono
    (Q := fun o m' => (∀ e, o = .error e → e.isOrdinary) ∧ Tolerable m m') ?_ ?_
  · rintro (e | _) m' ⟨ho, ht⟩
    · simp only [ho e rfl, if_true]
      exact ⟨rfl, ht.trans (tolerable_record rfl)⟩
    · exact ⟨rfl, ht⟩
  have hlogged : ∀ message, Tolerable m (m.record (.noticed (.log .info message))) :=
    fun _ => tolerable_record rfl
  rcases given with _ | x
  · refine holds_withConnection ((hlogged _).kept hk) (fun x => ?_) (fun s x m₂ h₂ hc => ?_)
      fun e m₂ he _ h₂ => ⟨fun _ h => by cases h; exact he, (hlogged _).trans h₂⟩
    · exact Program.ensures_mono (fun o m₂ h₂ => ⟨h₂.1, (hlogged _).trans h₂.2⟩)
        (holds_killCursors ((hlogged _).kept hk) x _ _)
    · exact Program.ensures_mono
        (fun o m₃ h₃ => ⟨h₃.1, ((hlogged _).trans h₂).trans (h₃.2.loan hc)⟩)
        (holds_killCursors ((h₂.kept ((hlogged _).kept hk)).leased hc) x _ _)
  · exact Program.ensures_mono (fun o m₂ h₂ => ⟨h₂.1, (hlogged _).trans h₂.2⟩)
      (holds_killCursors ((hlogged _).kept hk) x _ _)

/-- A server cursor that is forgotten leaves the rest as it was. -/
theorem Kept.forgotten {m : Moment} (hk : Kept m) : Kept (m.put m.cursor.forget) :=
  { hk with held := fun h => by simp [forget, Progress.withoutServerCursor] at h }

/-- The server cursor that is held is forgotten before it is killed. -/
theorem holds_killHeld {m : Moment} (hk : Kept m) (given : Option Connection) :
    discipline.Holds (fun o m' => o = .ok () ∧ Tolerable (m.put m.cursor.forget) m')
      (killHeld given) m := by
  simp only [killHeld, Program.ensures_bind, Program.ensures_get, Program.continues_ok,
    Moment.cell_load]
  rcases hs : m.cursor.progress.serverCursor with _ | target
  · have : m.put m.cursor.forget = m := by
      obtain ⟨c, h⟩ := m
      simp only [Moment.put, forget, Progress.withoutServerCursor] at hs ⊢
      rw [← hs]
    rw [this]
    exact ⟨rfl, .refl m⟩
  · simp only [Program.ensures_bind, Program.ensures_modify, Program.continues_ok, Moment.cell_load,
      Moment.cell_store]
    exact holds_killCursor hk.forgotten target given

/-! ## Closing -/

theorem holds_releaseResources {m : Moment} {Q : Outcome Unit → Moment → Prop} :
    discipline.Holds Q releaseResources m ↔ Q (.ok ()) m.settled := by
  rw [Discipline.Holds, ensures_releaseResources, Moment.settle_eq rfl]

/-- Where no server cursor is held, the resources may be settled, and the cursor closed. -/
theorem Kept.settled {m : Moment} (hk : Kept m) (hs : m.cursor.progress.serverCursor = none)
    (closed : Bool) : Kept (m.put { m.cursor with closed := closed }).settled := by
  have hc := Moment.settled_cursor (m.put { m.cursor with closed := closed })
  constructor
  case blocking => rw [hc]; exact hk.blocking
  case idle => rw [hc]; exact hk.idle
  case sources => exact Moment.settled_sources hk.sources
  case given =>
    intro hgiven id
    rw [hc] at hgiven
    rw [Moment.settled_leases]
    exact hk.given hgiven id
  case held => rw [hc]; simp [hs]
  case shut => rw [hc]; simp
  case filled => rw [hc]; exact hk.filled

/-- After its server cursor was forgotten, a cursor has none, whatever others did. -/
theorem Tolerable.serverCursor_of_forget {m m' : Moment} (hk : Kept m)
    (h : Tolerable (m.put m.cursor.forget) m') : m'.cursor.progress.serverCursor = none := by
  rcases hc : m'.cursor.closed with _ | _
  · rw [(h.open_ hc).2.1]; rfl
  · rcases hs : m'.cursor.progress.serverCursor with _ | target
    · rfl
    · have := (h.kept hk.forgotten).held (by simp [hs])
      simp [hc] at this

/-- The cursor is closed, and its resources are settled. -/
theorem tolerable_shut {m m' : Moment} (hk : Kept m) (h : Tolerable (m.put m.cursor.forget) m') :
    Tolerable m (m'.put { m'.cursor with closed := true }).settled ∧
      (m'.put { m'.cursor with closed := true }).settled.cursor.closed = true := by
  have hk' := (h.kept hk.forgotten).settled (h.serverCursor_of_forget hk) true
  have hc := Moment.settled_cursor (m'.put { m'.cursor with closed := true })
  refine ⟨?_, by rw [hc]; rfl⟩
  constructor
  case kept => exact fun _ => hk'
  case setup => rw [hc]; exact h.setup
  case batch => rw [hc]; exact h.batch
  case delivered => rw [hc]; exact h.delivered
  case debt =>
    intro id
    rw [Moment.settled_debt]
    exact h.debt id
  case open_ => rw [hc]; simp

theorem holds_close {m : Moment} (hk : Kept m) (loopRuns : Bool) :
    discipline.Holds (fun o m' => o = .ok () ∧ Tolerable m m' ∧ m'.cursor.closed = true)
      (close loopRuns) m := by
  simp only [close, Program.ensures_bind, Program.ensures_get, Program.continues_ok,
    Moment.cell_load, hk.blocking]
  split
  · rename_i hc
    exact ⟨rfl, .refl m, hc⟩
  · refine Program.ensures_always.2 (Program.ensures_mono ?_ (holds_killHeld hk none))
    rintro _ m' ⟨rfl, ht⟩
    simp only [Program.ensures_bind, Program.ensures_modify, Program.continues_ok, Moment.cell_load,
      Moment.cell_store]
    refine holds_releaseResources.2 ?_
    exact ⟨rfl, tolerable_shut hk ht⟩

end DocumentClient.Cursor.Custody
