/-
  The order in which a cursor releases its resources.

  A source is to be released only when every connection that was leased from it is back
  (`InOrder`).  An operation of a cursor lends one connection at a time (`Lends`): kills and
  fetches give theirs back before the cursor releases its source.  Beside a scheduled kill, which
  may wait with a connection, operations can be called; but then the cursor is closed, and they
  are over at once.

  `inOrder_of_takesTurns`: where calls take turns, a cursor that has come to its source in
  order keeps it so.
-/
import DocumentClient.Proofs.Cursor.Alone

namespace DocumentClient.Cursor

open Program (Ensures Environment)

variable {m m' : Moment} {l l' : Life} {a : Activity} {i : Incident} {h : List Incident}

/-! ## Order -/

/-- Every connection was given back as often as it was leased. -/
def AllBack (h : List Incident) : Prop :=
  ∀ id, h.countP (Incident.releases id) = h.countP (Incident.leases id)

/-- Whenever a source was released, every connection that had been leased was back. -/
def InOrder (h : List Incident) : Prop :=
  ∀ later source earlier, h = later ++ .noticed (.releaseSource source) :: earlier → AllBack earlier

theorem InOrder.cons (hin : InOrder h) (hi : ∀ s, i = .noticed (.releaseSource s) → AllBack h) :
    InOrder (i :: h) := by
  rintro (_ | ⟨i', later⟩) source earlier heq
  · obtain ⟨rfl, rfl⟩ := List.cons.inj heq
    exact hi source rfl
  · obtain ⟨rfl, rfl⟩ := List.cons.inj heq
    exact hin later source earlier rfl

/-- What was in order was so before. -/
theorem InOrder.of_append (later : List Incident) (hin : InOrder (later ++ h)) : InOrder h :=
  fun between source earlier heq =>
    hin (later ++ between) source earlier (by rw [heq, List.append_assoc])

/-- A history in which no source was released is in order. -/
theorem inOrder_of_countP (hnone : ∀ s, h.countP (Incident.releasesSource s) = 0) : InOrder h := by
  intro later source earlier heq
  have hreleased := hnone source
  simp [heq, List.countP_append, Incident.releasesSource] at hreleased

/-! ## Lending -/

/-- The releases so far were in order, a connection is out or none, and no kill is scheduled; the
    cursor is shut where it has to be. -/
structure Lends (shut : Prop) (out : Option Connection) (m : Moment) : Prop where
  inOrder : InOrder m.history
  leases : ∀ id, m.leases id = m.releases id + if out.map (·.id) = some id then 1 else 0
  connection : m.cursor.connection = none
  unscheduled : m.cursor.cleanups = []
  isShut : shut → m.cursor.closed

/-- Releases in order and nothing out; a kill may be scheduled if the cursor is closed. -/
structure Cleared (m : Moment) : Prop where
  inOrder : InOrder m.history
  allBack : AllBack m.history
  connection : m.cursor.connection = none
  schedule : m.cursor.cleanups = [] ∨
    m.cursor.closed ∧ m.cursor.progress.serverCursor = none ∧ ∃ t, m.cursor.cleanups = [t]

theorem Cleared.record (hm : Cleared m) (hi : i.isNeutral) : Cleared (m.record i) where
  inOrder := hm.inOrder.cons fun s heq => by simp [heq, Incident.isNeutral] at hi
  allBack id := by
    have hback := hm.allBack id
    rw [Moment.record_history, List.countP_cons, List.countP_cons,
      Incident.leases_of_isNeutral hi, Incident.releases_of_isNeutral hi]
    exact hback
  connection := hm.connection
  schedule := hm.schedule

section
variable {out : Option Connection} {shut : Prop}

namespace Lends

theorem allBack (hm : Lends shut none m) : AllBack m.history := fun id => (hm.leases id).symm

theorem cleared (hm : Lends shut none m) : Cleared m :=
  ⟨hm.inOrder, hm.allBack, hm.connection, .inl hm.unscheduled⟩

theorem put (hm : Lends shut out m) {c : Cursor} (hconnection : c.connection = m.cursor.connection)
    (hcleanups : c.cleanups = m.cursor.cleanups) (hclosed : m.cursor.closed → c.closed) :
    Lends shut out (m.put c) where
  inOrder := hm.inOrder
  leases := hm.leases
  connection := hconnection.trans hm.connection
  unscheduled := hcleanups.trans hm.unscheduled
  isShut hs := hclosed (hm.isShut hs)

theorem record (hm : Lends shut out m) (hi : i.isNeutral) : Lends shut out (m.record i) where
  inOrder := hm.inOrder.cons fun s heq => by simp [heq, Incident.isNeutral] at hi
  leases id := by
    rw [Moment.record_leases, Moment.record_releases, Incident.leases_of_isNeutral hi,
      Incident.releases_of_isNeutral hi]
    exact hm.leases id
  connection := hm.connection
  unscheduled := hm.unscheduled
  isShut := hm.isShut

/-- A connection is leased. -/
theorem lease (hm : Lends shut none m) (s : Source) (x : Connection) :
    Lends shut (some x) (m.answer (.lease s) (.ok x)) where
  inOrder := hm.inOrder.cons nofun
  leases id := by
    have hleased : (Incident.answered (.lease s) (.ok x) (!m.cursor.closed)).leases id
        = (x.id == id) := rfl
    rw [Moment.answer, Moment.record_leases, Moment.record_releases, hm.leases, hleased]
    simp [Incident.releases]
  connection := hm.connection
  unscheduled := hm.unscheduled
  isShut := hm.isShut

/-- The connection is given back. -/
theorem giveBack {x : Connection} (hm : Lends shut (some x) m) :
    Lends shut none (m.record (.noticed (.releaseConnection x))) where
  inOrder := hm.inOrder.cons nofun
  leases id := by
    have hreleased : (Incident.noticed (.releaseConnection x)).releases id = (x.id == id) := rfl
    rw [Moment.record_leases, Moment.record_releases, hm.leases, hreleased]
    simp [Incident.leases]
  connection := hm.connection
  unscheduled := hm.unscheduled
  isShut := hm.isShut

/-- The source is released when nothing is out. -/
theorem settled (hm : Lends shut none m) : Lends shut none m.settled := by
  unfold Moment.settled
  split
  · exact hm
  have hflag : Lends shut none (m.put { m.cursor with released := true }) := hm.put rfl rfl id
  have hdues : dues m.cursor = owed .releaseSource m.cursor.source := by
    simp [dues, owed, hm.connection]
  rw [hdues]
  rcases m.cursor.source with _ | ⟨_ | _, s⟩
  · exact hflag
  · refine ⟨hm.inOrder.cons fun _ _ => hm.allBack, fun id => ?_, hm.connection, hm.unscheduled,
      hm.isShut⟩
    have hleases := (m.record_leases (.noticed (.releaseSource s)) id).trans (hm.leases id)
    exact hleases.trans (m.record_releases (.noticed (.releaseSource s)) id).symm
  · exact hflag

end Lends

/-! ## Beside a closed cursor -/

/-- What may happen while an activity waits: nothing that has to do with resources. -/
structure Meanwhile (m m' : Moment) : Prop where
  history : ∃ is : List Incident, (∀ i ∈ is, i.isNeutral) ∧ m'.history = is ++ m.history
  connection : m'.cursor.connection = m.cursor.connection
  cleanups : m'.cursor.cleanups = m.cursor.cleanups
  closed : m.cursor.closed → m'.cursor.closed

theorem Meanwhile.refl (m : Moment) : Meanwhile m m := 
  ⟨⟨[], fun _ hi => absurd hi List.not_mem_nil, rfl⟩, rfl, rfl, id⟩

theorem Meanwhile.trans {m'' : Moment} (hm : Meanwhile m m') (hm' : Meanwhile m' m'') :
    Meanwhile m m'' := by
  obtain ⟨is, his, hhistory⟩ := hm.history
  obtain ⟨is', his', hhistory'⟩ := hm'.history
  refine ⟨⟨is' ++ is, fun i hi => ?_, by rw [hhistory', hhistory, List.append_assoc]⟩,
    hm'.connection.trans hm.connection, hm'.cleanups.trans hm.cleanups,
    fun hc => hm'.closed (hm.closed hc)⟩
  exact (List.mem_append.1 hi).elim (his' i) (his i)

theorem Lends.meanwhile (hm : Lends shut out m) (hm' : Meanwhile m m') : Lends shut out m' := by
  obtain ⟨is, his, hhistory⟩ := hm'.history
  have hall : ∀ is : List Incident, (∀ i ∈ is, i.isNeutral) →
      Lends shut out ⟨m.cursor, is ++ m.history⟩ := by
    intro is
    induction is with
    | nil => exact fun _ => hm
    | cons i is ih =>
      intro his
      exact (ih fun i' hi' => his i' (List.mem_cons_of_mem _ hi')).record
        (his i (List.mem_cons_self ..))
  obtain ⟨c', h'⟩ := m'
  obtain rfl : h' = is ++ m.history := hhistory
  exact (hall is his).put hm'.connection hm'.cleanups hm'.closed

/-- An operation on a closed cursor is over at once, and changes nothing but settings. -/
theorem atOnce_of_closed (hrest : l.AtRest) (hc : l.moment.cursor.closed) (ha : a.isOperation) :
    ∃ o batchSize interrupted, l.AtOnce a o
      { l.moment.cursor with batchSize := batchSize, interrupted := interrupted } := by
  have hclosed := closed_of_closed hrest hc
  cases a, ha using Activity.operation_cases with
  | close loopRuns => exact ⟨_, _, _, hclosed.close loopRuns⟩
  | setBatchSize n => exact ⟨_, _, _, hclosed.setBatchSize n⟩
  | interrupt => exact ⟨_, _, _, hclosed.interrupt⟩
  | _ => exact ⟨_, _, _, hclosed.retrieval _ rfl⟩

/-- So it does nothing that has to do with resources. -/
theorem begin_of_closed (hrest : l.AtRest) (hc : l.moment.cursor.closed) (ha : a.isOperation) :
    Meanwhile l.moment (l.begin a).moment ∧ (l.begin a).threads = l.threads := by
  obtain ⟨o, batchSize, interrupted, hover⟩ := atOnce_of_closed hrest hc ha
  rw [hover]
  refine ⟨⟨⟨[.ended a o, .begun a], fun i hi => ?_, rfl⟩, rfl, rfl, id⟩, rfl⟩
  simp only [List.mem_cons, List.not_mem_nil, or_false] at hi
  rcases hi with rfl | rfl <;> rfl

/-! ## Operations -/

/-- The environment of an activity that lends at most one connection at a time, and beside which
    nothing has to do with resources. -/
def lending (shut : Prop) : Environment Moment where
  take n m := m.record (.noticed n)
  demands _ m := ∃ out, Lends shut out m
  resumes q m x m' := ∃ m₁, Meanwhile (m.record (.asked q)) m₁ ∧ m' = m₁.answer q x

/-- A program keeps what is out. -/
abbrev KeepsOut {α : Type} (shut : Prop) (out : Option Connection) (p : Program Cursor α) : Prop :=
  Keeps (lending shut) Moment.cell (Lends shut out) p

/-- From a moment on, a program ends with releases in order and nothing out. -/
abbrev Clears {α : Type} (shut : Prop) (p : Program Cursor α) (m : Moment) : Prop :=
  Ensures (lending shut) Moment.cell (fun _ m' => Cleared m') p m

/-- An exchange changes nothing of what is out, unless a connection is leased. -/
theorem Lends.ask (hm : Lends shut out m) {q : Exchange}
    (hq : ∀ x wasOpen, (Incident.answered q x wasOpen).isNeutral) :
    (lending shut).demands q m ∧ ∀ x m', (lending shut).resumes q m x m' → Lends shut out m' := by
  refine ⟨⟨out, hm⟩, ?_⟩
  rintro x _ ⟨m₁, hm₁, rfl⟩
  exact ((hm.record rfl).meanwhile hm₁).record (hq x _)

theorem keepsOut_modify {f : Cursor → Cursor} (hconnection : ∀ c, (f c).connection = c.connection)
    (hcleanups : ∀ c, (f c).cleanups = c.cleanups) (hclosed : ∀ c, c.closed → (f c).closed) :
    KeepsOut shut out (Program.modify f) :=
  fun _ hm => hm.put (hconnection _) (hcleanups _) (hclosed _)

/-- A connection that is leased is given back. -/
theorem Lends.withConnection {α : Type} {use : Connection → Program Cursor α}
    (hm : Lends shut none m) (huse : ∀ x, KeepsOut shut (some x) (use x)) :
    Ensures (lending shut) Moment.cell (fun _ m' => Lends shut none m') (withConnection use) m := by
  refine ensures_withConnection.2 ?_
  split
  · rename_i handle hc
    have hconnection : m.cursor.connection = some handle := hc
    simp [hm.connection] at hconnection
  · exact hm
  · rename_i handle _ _
    refine ⟨⟨none, hm⟩, ?_⟩
    rintro x _ ⟨m₁, hm₁, rfl⟩
    have hwaited : Lends shut none m₁ := (hm.record rfl).meanwhile hm₁
    rcases x with e | x
    · exact hwaited.record rfl
    · exact Program.ensures_mono (fun _ _ hlent => hlent.giveBack)
        (huse x _ (hwaited.lease handle.resource x))

theorem keepsOut_sendKill (x : Connection) (ns : Namespace) (target : ServerCursor) :
    KeepsOut shut out (sendKill ns target (some x)) :=
  fun _ hm => hm.ask fun _ _ => rfl

/-- A kill whose request keeps what is out. -/
theorem keepsOut_killCursor_of {target : ServerCursor} {given : Option Connection}
    (hsend : ∀ ns, KeepsOut shut out (sendKill ns target given)) :
    KeepsOut shut out (killCursor target given) := by
  intro m hm
  refine ensures_killCursor.2 (Program.ensures_mono ?_ (hsend _ _ (hm.record rfl)))
  rintro (e | _) m' hm'
  · dsimp only
    split
    · exact hm'.record rfl
    · exact hm'
  · exact hm'

theorem keepsOut_killCursor_over (x : Connection) (target : ServerCursor) :
    KeepsOut shut out (killCursor target (some x)) :=
  keepsOut_killCursor_of fun ns => keepsOut_sendKill x ns target

theorem keepsOut_killCursor (target : ServerCursor) : KeepsOut shut none (killCursor target none) :=
  keepsOut_killCursor_of fun ns _ hm => hm.withConnection fun x => keepsOut_sendKill x ns target

theorem keepsOut_killHeld {given : Option Connection}
    (hkill : ∀ target, KeepsOut shut out (killCursor target given)) :
    KeepsOut shut out (killHeld given) := by
  refine keeps_bind keeps_get fun c => ?_
  split
  · exact keeps_pure ()
  · exact keeps_bind (keepsOut_modify (fun _ => rfl) (fun _ => rfl) fun _ => id) fun _ => hkill _

theorem keepsOut_releaseResources : KeepsOut shut none releaseResources := by
  intro m hm
  refine ensures_releaseResources.2 ?_
  rw [Moment.settle_eq rfl]
  exact hm.settled

theorem keepsOut_cleanup (target : ServerCursor) : KeepsOut shut none (cleanup target) :=
  keeps_always (keepsOut_killCursor target) keepsOut_releaseResources

/-- A closed cursor whose kill is scheduled holds no server cursor. -/
theorem Lends.scheduleCleanup (hm : Lends False none m) (hc : m.cursor.closed) (loopRuns : Bool) :
    Clears False (scheduleCleanup loopRuns) m := by
  simp only [Cursor.scheduleCleanup, Program.ensures_bind, Program.ensures_get,
    Program.continues_ok]
  split
  · exact Program.ensures_mono (fun _ _ => Lends.cleared) (keepsOut_releaseResources m hm)
  rename_i target _
  have hforgotten : Lends False none (m.put m.cursor.forget) := hm.put rfl rfl id
  refine Program.ensures_bind.2 ?_
  split
  · refine ⟨hm.inOrder, hm.allBack, hm.connection, .inr ⟨hc, rfl, target, ?_⟩⟩
    exact congrArg (· ++ [target]) hm.unscheduled
  · exact Program.ensures_bind.2 (Program.ensures_mono (fun _ _ => Lends.cleared)
      (keepsOut_releaseResources _ (hforgotten.record rfl)))

theorem clears_close (hm : Cleared m) (loopRuns : Bool) : Clears False (close loopRuns) m := by
  simp only [close, Program.ensures_bind, Program.ensures_get, Program.continues_ok]
  split
  · exact hm
  rename_i hopen
  have hlends : Lends False none m := ⟨hm.inOrder, fun id => (hm.allBack id).symm, hm.connection,
    hm.schedule.resolve_right fun hclosed => hopen hclosed.1, False.elim⟩
  split
  · have hshut : KeepsOut False none (do
        Program.modify fun c => { c with closed := true }
        releaseResources) :=
      keeps_bind (fun _ hm => hm.put rfl rfl fun _ => rfl) fun _ => keepsOut_releaseResources
    exact Program.ensures_mono (fun _ _ => Lends.cleared)
      (keeps_always (keepsOut_killHeld keepsOut_killCursor) hshut m hlends)
  · have hshut : Lends False none (m.put { m.cursor with closed := true }) :=
      hlends.put rfl rfl fun _ => rfl
    exact Program.ensures_bind.2 (hshut.scheduleCleanup rfl loopRuns)

theorem Lends.giveUp (hm : Lends False none m) (e : Failure) : Clears False (giveUp e) m := by
  have hclose : ∀ {m : Moment}, Lends False none m → Clears False (close true) m :=
    fun hm => clears_close hm.cleared true
  cases e with
  | cursorMissing id address =>
    exact hclose (m := m.put m.cursor.forget) (hm.put rfl rfl fun hc => hc)
  | cancelled => exact hm.cleared
  | _ => exact hclose hm

/-! ## Retrievals -/

theorem keepsOut_absorb (result : QueryResult) : KeepsOut shut out (absorb result) := by
  intro m hm
  refine ensures_absorb fun m₁ hm₁ => ?_
  rcases hm₁ with rfl | ⟨message, rfl⟩
  · exact hm.put rfl rfl id
  · have hlogged : Lends shut out (m.record (.noticed (.log .info message))) := hm.record rfl
    exact hlogged.put rfl rfl id

theorem keepsOut_fetchOver (target : ServerCursor) (x : Connection) :
    KeepsOut shut out (fetchOver target x) := by
  intro m hm
  rw [fetchOver_eq]
  have hbegun : Lends shut out (m.record (.noticed (fetchBegins m.cursor target))) := hm.record rfl
  obtain ⟨hdemands, hresumes⟩ := hbegun.ask (q := fetchExchange m.cursor x target)
    (Incident.isNeutral_of_isFetch (isFetch_fetchExchange _ _ _))
  refine Program.ensures_bind.2 (ensures_requestBatch.2 ⟨hdemands, fun answer m' hm' => ?_⟩)
  have hafter := hresumes answer m' hm'
  rcases fetched target _ answer with e | result
  · exact hafter
  · exact keeps_follow (keepsOut_absorb result) (keepsOut_killHeld (keepsOut_killCursor_over x)) _
      (hafter.record rfl)

/-- A fetch gives its connection back before the cursor releases anything. -/
theorem Lends.fetch (hm : Lends False none m) : Clears False fetch m := by
  simp only [Cursor.fetch, Program.ensures_bind, Program.ensures_get, Program.continues_ok]
  split
  · exact hm.cleared
  refine Program.ensures_bind.2 (Program.ensures_attempt.2 (Program.ensures_mono ?_
    (hm.withConnection fun x => keepsOut_fetchOver _ x)))
  rintro (e | v) m₁ hm₁
  · refine Program.ensures_bind.2 (Program.ensures_mono ?_ (hm₁.giveUp e))
    rintro (e' | _) m₂ hm₂ <;> exact hm₂
  · rw [Program.continues_ok]
    dsimp only
    split
    · exact hm₁.cleared
    · exact Program.ensures_mono (fun _ _ => Lends.cleared) (keepsOut_releaseResources m₁ hm₁)

theorem keepsOut_waitBeforeRetry : KeepsOut False none waitBeforeRetry := by
  refine keeps_bind keeps_get fun c => keeps_bind (keeps_ofOutcome _) fun length => ?_
  refine keeps_bind (fun _ hm => hm.ask fun _ _ => rfl) fun _ m hm => ?_
  simp only [Program.ensures_bind, Program.ensures_get, Program.continues_ok]
  split
  · exact hm.put rfl rfl id
  · split <;> exact hm

/-- Where it is not settled what comes, no kill is scheduled. -/
theorem Cleared.lends (hm : Cleared m) (hs : m.cursor.isSettled = false) : Lends False none m := by
  obtain ⟨-, hexhausted⟩ := isSettled_eq_false_iff.1 hs
  refine ⟨hm.inOrder, fun id => (hm.allBack id).symm, hm.connection,
    hm.schedule.resolve_right fun hclosed => ?_, False.elim⟩
  simp [isExhausted, hclosed.2.1] at hexhausted

theorem retrievable_cleared : Retrievable (lending False) Moment.cell Cleared where
  fetch _ hm hs := (hm.lends hs).fetch
  wait m hm hs := Program.ensures_mono (fun _ _ => Lends.cleared)
    (keepsOut_waitBeforeRetry m (hm.lends hs))

theorem keeps_cleared_takeBatch : Keeps (lending False) Moment.cell Cleared takeBatch := by
  intro m hm
  refine ensures_takeBatch.2 ?_
  split
  · exact hm
  · exact ⟨hm.inOrder, hm.allBack, hm.connection, hm.schedule⟩

theorem operable_cleared (a : Activity) : Operable (lending False) Moment.cell Cleared a where
  retrieve _ := retrievable_cleared
  take _ := keeps_cleared_takeBatch
  close loopRuns _ _ hm := clears_close hm loopRuns
  interrupt _ hm := ⟨hm.inOrder, hm.allBack, hm.connection, hm.schedule⟩
  resize _ _ hm := ⟨hm.inOrder, hm.allBack, hm.connection, hm.schedule⟩

/-- **An operation** lends one connection at a time, and has it back before it releases the
    source. -/
theorem clears_program (hm : Cleared m) (ha : a.isOperation) : Clears False a.program m :=
  (operable_cleared a).keeps_program ha m hm

end

/-! ## Lives -/

/-- Nothing waits, or one activity: an operation, or the scheduled kill of a closed cursor. -/
inductive Life.Tidy : Life → Prop where
  | rests {m : Moment} (hm : Cleared m) : Tidy ⟨m, []⟩
  | waits {m : Moment} {a : Activity} {q : Exchange}
      {next : Outcome q.Answer → Program Cursor Yield} {out : Option Connection}
      (hm : Lends a.isCleanup out m)
      (hnext : ∀ x m', Meanwhile m m' → Clears a.isCleanup (next x) (m'.answer q x)) :
      Tidy ⟨m, [⟨a, .ask q next⟩]⟩

theorem Life.Tidy.inOrder (hl : l.Tidy) : InOrder l.moment.history := by
  cases hl with
  | rests hm => exact hm.inOrder
  | waits hm _ => exact hm.inOrder

theorem tidy_proceed {p : Program Cursor Yield} : ∀ {m : Moment}, Clears a.isCleanup p m →
    (Life.proceed a [] p m).Tidy := by
  induction p with
  | done o => exact fun hm => .rests (hm.record rfl)
  | read next ih => exact fun hm => ih _ hm
  | write c next ih => exact fun {m} hm => ih (m := m.put c) hm
  | note n next ih => exact fun {m} hm => ih (m := m.record (.noticed n)) hm
  | ask q next ih =>
    intro m hm
    obtain ⟨⟨out, hlends⟩, hnext⟩ := hm
    exact .waits (hlends.record rfl) fun x m' hm' => hnext x _ ⟨m', hm', rfl⟩

/-- A turn keeps a life tidy. -/
theorem Life.Turn.tidy (h : l.Turn l') (hl : l.Tidy) : l'.Tidy := by
  cases hl with
  | @rests m hm =>
    obtain ⟨a, -, ha, rfl⟩ | ⟨before, target, after, hcleanups, rfl⟩ |
      ⟨before, after, a, q, next, x, hthreads, -⟩ := h.cases
    · have hshut : (a.isCleanup = true) = False := by simp [Activity.isCleanup_of_isOperation ha]
      refine tidy_proceed ?_
      rw [hshut]
      exact clears_program (hm.record rfl) ha
    · -- the one kill that is scheduled begins
      obtain hnone | ⟨hclosed, -, t, hone⟩ := hm.schedule
      · simp [hnone] at hcleanups
      obtain ⟨rfl, -, rfl⟩ : before = [] ∧ t = target ∧ after = [] := by
        have hsplit := hone.symm.trans hcleanups
        rcases before with _ | ⟨b, before⟩ <;> simp_all
      have hbegun : Lends ((Activity.cleanup target).isCleanup = true) none
          ((m.put { m.cursor with cleanups := [] }).record (.begun (.cleanup target))) :=
        ⟨(hm.record rfl).inOrder, fun id => ((hm.record rfl).allBack id).symm, hm.connection, rfl,
          fun _ => hclosed⟩
      exact tidy_proceed (Program.ensures_mono (fun _ _ => Lends.cleared)
        (keeps_bind (keepsOut_cleanup target) (fun _ => keeps_pure _) _ hbegun))
    · simp at hthreads
  | @waits m a q next out hm hnext =>
    obtain ⟨a', hrest, ha', rfl⟩ | ⟨before, target, after, hcleanups, -⟩ |
      ⟨before, after, a', q', next', x, hthreads, rfl⟩ := h.cases
    · -- an operation is called beside a scheduled kill
      have hclosed := hm.isShut (hrest _ (List.mem_singleton_self _))
      obtain ⟨hmeanwhile, hthreads⟩ := begin_of_closed hrest hclosed ha'
      have heq : Life.begin a' ⟨m, [⟨a, .ask q next⟩]⟩
          = ⟨(Life.begin a' ⟨m, [⟨a, .ask q next⟩]⟩).moment, [⟨a, .ask q next⟩]⟩ :=
        congrArg (Life.mk _) hthreads
      rw [heq]
      exact .waits (hm.meanwhile hmeanwhile) fun x m' hm' => hnext x m' (hmeanwhile.trans hm')
    · rw [hm.unscheduled] at hcleanups
      simp at hcleanups
    · obtain ⟨rfl, hself⟩ | ⟨-, hnil⟩ := List.singleton_eq_append_iff.1 hthreads
      · cases hself
        exact tidy_proceed (hnext x m (.refl m))
      · simp at hnil

/-- **A cursor releases its source in order.**  Where calls take turns, and kills that are
    scheduled go on beside them, the source of a cursor that leases its connections is released only
    when every connection leased so far was given back, if it has been so until then. -/
theorem inOrder_of_takesTurns (hm : Cleared m) (hl : Life.TakesTurns ⟨m, []⟩ l) :
    InOrder l.moment.history := by
  have htidy : l.Tidy := by
    induction hl with
    | refl => exact .rests hm
    | tail _ hturn ih => exact hturn.tidy ih
  exact htidy.inOrder

end DocumentClient.Cursor
