/-
  Cursors that show the same.

  Two moments are twins if their cursors differ at most in flavour, and in what they have
  still to release and to kill, and if the same calls, fetches and ends of calls have
  happened.  `Supply` settles what comes of the exchanges that fetches make; kills may go
  either way.  A program lands somewhere if it ends in a twin of it, whatever comes of its
  kills, and it mirrors another if it lands where the other ends when that is played in a
  world in which no kill succeeds (`Supply.play`).

  `mirrors_program`: the operations that both flavours have mirror themselves on a twin.
-/
import DocumentClient.Proofs.Cursor.Keeping

namespace DocumentClient.Cursor

open Program (Ensures Interpreter Environment interpret)

/-! ## Twins -/

/-- A cursor without what does not show: its flavour, and what it has to release and to kill. -/
def core (c : Cursor) : Cursor := { c with mode := .blocking, released := false, cleanups := [] }

/-- Whether an incident shows: an operation or the making begins or ends, or a batch is fetched. -/
def Incident.isShown : Incident → Bool
  | .begun a => !a.isCleanup
  | .asked q => isFetch q
  | .answered q _ _ => isFetch q
  | .noticed _ => false
  | .ended a _ => !a.isCleanup

namespace Moment

/-- What has happened that shows. -/
def shown (m : Moment) : List Incident := m.history.filter Incident.isShown

theorem record_shown (i : Incident) (m : Moment) :
    (m.record i).shown = if i.isShown then i :: m.shown else m.shown :=
  List.filter_cons

end Moment

/-- Two moments show the same. -/
structure Twins (m m' : Moment) : Prop where
  core : m.cursor.core = m'.cursor.core
  shown : m.shown = m'.shown

section
variable {m m' m₁ : Moment} {c c' : Cursor}

namespace Twins

theorem refl (m : Moment) : Twins m m := ⟨rfl, rfl⟩

theorem symm (h : Twins m m') : Twins m' m := ⟨h.core.symm, h.shown.symm⟩

theorem trans (h : Twins m m') (h' : Twins m' m₁) : Twins m m₁ :=
  ⟨h.core.trans h'.core, h.shown.trans h'.shown⟩

theorem closed (h : Twins m m') : m.cursor.closed = m'.cursor.closed :=
  congrArg (·.closed) h.core

theorem serverCursor (h : Twins m m') :
    m.cursor.progress.serverCursor = m'.cursor.progress.serverCursor :=
  congrArg (·.progress.serverCursor) h.core

theorem nextBatch (h : Twins m m') :
    m.cursor.progress.nextBatch = m'.cursor.progress.nextBatch :=
  congrArg (·.progress.nextBatch) h.core

/-- The same happens to both. -/
theorem record (h : Twins m m') (i : Incident) : Twins (m.record i) (m'.record i) := by
  refine ⟨h.core, ?_⟩
  rw [Moment.record_shown, Moment.record_shown, h.shown]

theorem answer (h : Twins m m') (q : Exchange) (x : Outcome q.Answer) :
    Twins (m.answer q x) (m'.answer q x) := by
  unfold Moment.answer
  rw [h.closed]
  exact h.record _

/-- What does not show happens to the first. -/
theorem unseen (h : Twins m m') {i : Incident} (hi : i.isShown = false) :
    Twins (m.record i) m' := by
  refine ⟨h.core, ?_⟩
  rw [Moment.record_shown, hi]
  exact h.shown

/-- Both cursors are changed in the same way. -/
theorem put (h : Twins m m') (hc : c.core = c'.core) : Twins (m.put c) (m'.put c') :=
  ⟨hc, h.shown⟩

theorem change (h : Twins m m') {f : Cursor → Cursor} (hf : ∀ c, (f c).core = f c.core) :
    Twins (m.put (f m.cursor)) (m'.put (f m'.cursor)) :=
  h.put (by rw [hf, hf, h.core])

/-- The first cursor is changed in a way that does not show. -/
theorem put_unseen (h : Twins m m') (hc : c.core = m.cursor.core) : Twins (m.put c) m' :=
  ⟨hc.trans h.core, h.shown⟩

theorem forgotten (h : Twins m m') : Twins (m.put m.cursor.forget) (m'.put m'.cursor.forget) :=
  h.change fun _ => rfl

/-- Where no server cursor is held, there is none to be forgotten. -/
theorem forgotten_of_none (h : Twins m m') (hs : m.cursor.progress.serverCursor = none) :
    Twins m (m'.put m'.cursor.forget) := by
  rw [forget_of_none (h.serverCursor.symm.trans hs)]
  exact h

theorem shut (h : Twins m m') : Twins (m.put { m.cursor with closed := true })
    (m'.put { m'.cursor with closed := true }) :=
  h.change (f := fun c => { c with closed := true }) fun _ => rfl

end Twins

/-! ## Supplies -/

/-- What comes of the exchanges of fetches, after what has happened that shows: of the leases and
    of the fetches themselves, which may depend on how many there were before. -/
structure Supply where
  lease : List Incident → Outcome Connection
  fetch : List Incident → (q : Exchange) → Outcome q.Answer

namespace Supply
variable (s : Supply)

/-- What comes of an exchange, if that is settled.  A lease is for a fetch while the cursor holds
    a server cursor; before a kill it forgets it. -/
def settles (m : Moment) : (q : Exchange) → Option (Outcome q.Answer)
  | .lease _ => if m.cursor.progress.serverCursor.isSome then some (s.lease m.shown) else none
  | .pause _ => some (.ok ())
  | q => if isFetch q then some (s.fetch m.shown q) else none

/-- Whether an answer may come: the one that is settled, or any but a cancellation. -/
def Admits (m : Moment) (q : Exchange) (x : Outcome q.Answer) : Prop :=
  match s.settles m q with
  | some y => x = y
  | none => ∀ e, x = .error e → e.isOrdinary

/-- The environment of an operation beside which only scheduled kills go on. -/
def environment : Environment Moment where
  take n m := m.record (.noticed n)
  demands _ _ := True
  resumes q m x m' :=
    ∃ m₁, Twins (m.record (.asked q)) m₁ ∧ s.Admits m₁ q x ∧ m' = m₁.answer q x

/-- The world in which nothing goes on beside an operation, and no kill succeeds. -/
def interpreter : Interpreter Moment where
  take n m := m.record (.noticed n)
  answer q m :=
    let x := (s.settles (m.record (.asked q)) q).getD (.error .notHeld)
    (x, (m.record (.asked q)).answer q x)

/-- An operation in that world. -/
def play {α : Type} (p : Program Cursor α) (m : Moment) : Outcome α × Moment :=
  interpret s.interpreter Moment.cell p m

variable {s}

theorem settles_of_isFetch {q : Exchange} (hq : isFetch q) :
    s.settles m q = some (s.fetch m.shown q) := by
  cases q <;> first | rfl | simp [isFetch] at hq

theorem settles_of_twins (h : Twins m m') (q : Exchange) : s.settles m q = s.settles m' q := by
  cases q <;> simp only [settles, h.shown, h.serverCursor]

/-- An answer that may come: where it is not settled, that there is no connection. -/
theorem admits_getD (s : Supply) (m : Moment) (q : Exchange) :
    s.Admits m q ((s.settles m q).getD (.error .notHeld)) := by
  unfold Admits
  rcases s.settles m q with _ | y
  · intro e he
    obtain rfl : .notHeld = e := Except.error.inj he
    rfl
  · rfl

/-- What an operation ensures it does in that world, too. -/
theorem of_ensures {α : Type} {Q : Outcome α → Moment → Prop} {p : Program Cursor α} :
    ∀ {m : Moment}, Ensures s.environment Moment.cell Q p m →
      Q (s.play p m).1 (s.play p m).2 := by
  induction p with
  | done outcome => exact fun h => h
  | read next ih => exact fun h => ih _ h
  | write c next ih => exact fun h => ih h
  | note n next ih => exact fun h => ih h
  | ask q next ih =>
    intro m h
    exact ih _ (h.2 _ _ ⟨_, .refl _, s.admits_getD _ q, rfl⟩)

end Supply

variable {s : Supply} {α β : Type}

/-! ## Landing -/

/-- From a moment a program ends with an outcome, in a twin of another moment. -/
def Supply.Lands (s : Supply) (p : Program Cursor α) (m : Moment) (o : Outcome α)
    (m₀ : Moment) : Prop :=
  Ensures s.environment Moment.cell (fun o' m₁ => o' = o ∧ Twins m₁ m₀) p m

theorem Supply.Lands.play {p : Program Cursor α} {o : Outcome α} (h : s.Lands p m o m') :
    (s.play p m).1 = o ∧ Twins (s.play p m).2 m' :=
  Supply.of_ensures h

theorem lands_done (h : Twins m m') (o : Outcome α) : s.Lands (.done o) m o m' := ⟨rfl, h⟩

theorem lands_bind {p : Program Cursor α} {f : α → Program Cursor β} {a : α} {o : Outcome β}
    (hp : s.Lands p m (.ok a) m₁) (hf : ∀ m₂, Twins m₂ m₁ → s.Lands (f a) m₂ o m') :
    s.Lands (p >>= f) m o m' := by
  refine Program.ensures_bind.2 (Program.ensures_mono ?_ hp)
  rintro _ m₂ ⟨rfl, h⟩
  exact hf m₂ h

theorem lands_attempt {p : Program Cursor α} {o : Outcome α} (hp : s.Lands p m o m') :
    s.Lands p.attempt m (.ok o) m' :=
  Program.ensures_attempt.2 (Program.ensures_mono (fun _ _ h => ⟨congrArg Except.ok h.1, h.2⟩) hp)

theorem lands_always {p : Program Cursor α} {last : Program Cursor Unit} {o : Outcome α}
    (hp : s.Lands p m o m₁) (hlast : ∀ m₂, Twins m₂ m₁ → s.Lands last m₂ (.ok ()) m') :
    s.Lands (p.always last) m o m' :=
  lands_bind (lands_attempt hp) fun m₂ h =>
    lands_bind (hlast m₂ h) fun _ h => lands_done h o

theorem lands_get {f : Cursor → Program Cursor α} {o : Outcome α}
    (h : s.Lands (f m.cursor) m o m') : s.Lands (Program.get >>= f) m o m' :=
  h

/-- A cursor is changed. -/
theorem lands_modify {f : Cursor → Cursor} (h : Twins (m.put (f m.cursor)) m') :
    s.Lands (Program.modify f) m (.ok ()) m' :=
  ⟨rfl, h⟩

theorem lands_set (h : Twins (m.put c) m') : s.Lands (Program.set c) m (.ok ()) m' := ⟨rfl, h⟩

/-- Notices do not show. -/
theorem lands_notify (h : Twins m m') (n : Notice) : s.Lands (Program.notify n) m (.ok ()) m' :=
  ⟨rfl, h.unseen rfl⟩

/-- An exchange whose outcome is settled. -/
theorem lands_ask {q : Exchange} {y : Outcome q.Answer} (h : Twins m m')
    (hy : s.settles (m'.record (.asked q)) q = some y) :
    s.Lands (.ask q .done) m y ((m'.record (.asked q)).answer q y) := by
  refine ⟨trivial, ?_⟩
  rintro x _ ⟨m₁, hm, hx, rfl⟩
  have hm' : Twins m₁ (m'.record (.asked q)) := hm.symm.trans (h.record (.asked q))
  rw [Supply.Admits, Supply.settles_of_twins hm', hy] at hx
  obtain rfl : x = y := hx
  exact ⟨rfl, hm'.answer q x⟩

/-! ## Giving a cursor up -/

theorem lands_releaseResources (h : Twins m m') : s.Lands releaseResources m (.ok ()) m' :=
  ensures_releaseResources.2 ⟨rfl, settle_of_take (P := (Twins · m'))
    (fun _ _ h => h.unseen rfl)
    (fun w h => show Twins (w.put { w.cursor with released := true }) m' from h.put_unseen rfl) h⟩

/-- Whatever comes of a kill that is no cancellation, it does not show. -/
theorem killable_twins (hs : m'.cursor.progress.serverCursor = none) (target : ServerCursor) :
    Killable s.environment Moment.cell (Twins · m') (Twins · m') (fun e => e.isOrdinary)
      target where
  send connection ns m h := by
    refine ⟨trivial, ?_⟩
    rintro x _ ⟨m₁, hm, hx, rfl⟩
    have hm' : Twins m₁ m' := hm.symm.trans (h.unseen rfl)
    exact ⟨hm'.unseen rfl, hx⟩
  fails _ _ h := h.unseen rfl
  back _ _ h := h.unseen rfl
  lease source m h := by
    refine ⟨trivial, ?_⟩
    rintro x _ ⟨m₁, hm, hx, rfl⟩
    have hm' : Twins m₁ m' := hm.symm.trans (h.unseen rfl)
    rw [Supply.Admits, Supply.settles_of_twins hm', Supply.settles, hs] at hx
    have hanswered : Twins (m₁.answer (.lease source) x) m' := hm'.unseen rfl
    rcases x with e | x
    · exact ⟨hanswered, hx e rfl⟩
    · exact hanswered
  noSource _ h _ _ := ⟨h, rfl⟩

theorem lands_killCursor (h : Twins m m') (hs : m'.cursor.progress.serverCursor = none)
    (target : ServerCursor) (given : Option Connection) :
    s.Lands (killCursor target given) m (.ok ()) m' := by
  refine Program.ensures_mono ?_
    ((killable_twins hs target).ensures_killCursor given (h.unseen rfl))
  rintro (e | _) m₁ ⟨hm, he⟩
  · obtain ⟨hordinary, hnot⟩ := he e rfl
    simp [hordinary] at hnot
  · exact ⟨rfl, hm⟩

theorem lands_killHeld (h : Twins m m') (given : Option Connection) :
    s.Lands (killHeld given) m (.ok ()) (m'.put m'.cursor.forget) := by
  refine lands_get ?_
  split
  · rename_i hs
    exact lands_done (h.forgotten_of_none hs) _
  · rename_i target _
    exact lands_bind (lands_modify h.forgotten) fun m₂ hm₂ =>
      lands_killCursor hm₂ rfl target given

/-- On a running loop the kill is scheduled, which does not show. -/
theorem lands_scheduleCleanup (h : Twins m m') :
    s.Lands (scheduleCleanup true) m (.ok ()) (m'.put m'.cursor.forget) := by
  refine lands_get ?_
  split
  · rename_i hs
    exact lands_releaseResources (h.forgotten_of_none hs)
  · exact lands_bind (lands_modify h.forgotten) fun m₂ hm₂ =>
      lands_modify (hm₂.put_unseen rfl)

/-- A cursor that is closed, as far as that shows. -/
def Moment.givenUp (m : Moment) : Moment :=
  if m.cursor.closed then m else m.put { m.cursor.forget with closed := true }

theorem lands_close (h : Twins m m') : s.Lands (close true) m (.ok ()) m'.givenUp := by
  refine lands_get ?_
  unfold Moment.givenUp
  rw [← h.closed]
  split
  · exact lands_done h _
  split
  · exact lands_always (lands_killHeld h none) fun m₂ hm₂ =>
      lands_bind (lands_modify hm₂.shut) fun m₃ hm₃ => lands_releaseResources hm₃
  · exact lands_bind (lands_modify h.shut) fun m₂ hm₂ => lands_scheduleCleanup hm₂

/-! ## Fetching -/

theorem lands_absorb (h : Twins m m') (result : QueryResult) :
    s.Lands (absorb result) m
      (.ok (m'.cursor.progress.advance m'.cursor.limit m'.cursor.batchSize result).2)
      (m'.put { m'.cursor with progress :=
        (m'.cursor.progress.advance m'.cursor.limit m'.cursor.batchSize result).1 }) := by
  have hadvance : m.cursor.progress.advance m.cursor.limit m.cursor.batchSize result
      = m'.cursor.progress.advance m'.cursor.limit m'.cursor.batchSize result :=
    congrArg (fun c => c.progress.advance c.limit c.batchSize result) h.core
  have hrecords : ∀ (ns : List Notice) m, Twins m m' →
      Twins (ns.foldl (fun m n => s.environment.take n m) m) m' := by
    intro ns
    induction ns with
    | nil => exact fun _ h => h
    | cons n ns ih => exact fun m h => ih _ (h.unseen rfl)
  refine (ensures_absorb_iff hadvance).2 ⟨rfl, (hrecords _ m h).put ?_⟩
  exact (h.change (f := fun c => { c with progress := _ }) fun _ => rfl).core

/-- A fetch asks the same of both flavours, and comes to the same. -/
theorem lands_requestBatch (h : Twins m m') {connection : Connection} {target : ServerCursor}
    {q : Exchange} (hq : fetchExchange m'.cursor connection target = q) :
    s.Lands (requestBatch connection target) m
      (fetched target q (s.fetch (m'.record (.asked q)).shown q))
      ((m'.record (.asked q)).answer q (s.fetch (m'.record (.asked q)).shown q)) := by
  have hcore : ∀ c : Cursor, fetchExchange c.core connection target
      = fetchExchange c connection target := fun _ => rfl
  have hsame : fetchExchange (Moment.cell.load m) connection target = q := by
    rw [Moment.cell_load, ← hcore, h.core, hcore, hq]
  have hfetch : isFetch q := hq ▸ isFetch_fetchExchange m'.cursor connection target
  refine ensures_requestBatch.2 ?_
  rw [hsame]
  have hbegun : Twins (s.environment.take (fetchBegins m.cursor target) m) m' := h.unseen rfl
  obtain ⟨hdemands, hresumes⟩ := lands_ask hbegun (Supply.settles_of_isFetch hfetch)
  refine ⟨hdemands, fun a w' hw' => ?_⟩
  obtain ⟨rfl, hm⟩ := hresumes a w' hw'
  split
  · rename_i result hresult
    exact ⟨hresult.symm, hm.unseen rfl⟩
  · rename_i e he
    exact ⟨he.symm, hm⟩

/-! ## Mirrors -/

/-- From a moment a program ends as it does when it is played from another, in a twin of where it
    ends then. -/
def Supply.Mirrors (s : Supply) (p : Program Cursor α) (m m' : Moment) : Prop :=
  s.Lands p m (s.play p m').1 (s.play p m').2

/-- A program that lands in one place from all twins. -/
theorem mirrors_of_lands {p : Program Cursor α} (o : Outcome α) (m₁ : Moment) (h : Twins m m')
    (hp : ∀ m, Twins m m' → s.Lands p m o m₁) : s.Mirrors p m m' := by
  obtain ⟨ho, hm⟩ := (hp m' (.refl m')).play
  exact Program.ensures_mono (fun _ _ h => ⟨h.1.trans ho.symm, h.2.trans hm.symm⟩) (hp m h)

theorem mirrors_done (h : Twins m m') (o : Outcome α) : s.Mirrors (.done o) m m' :=
  lands_done h o

theorem mirrors_bind {p : Program Cursor α} {f : α → Program Cursor β} (hp : s.Mirrors p m m')
    (hf : ∀ a m m', Twins m m' → s.Mirrors (f a) m m') : s.Mirrors (p >>= f) m m' := by
  unfold Supply.Mirrors Supply.play at hp ⊢
  rw [Program.interpret_bind]
  refine Program.ensures_bind.2 (Program.ensures_mono ?_ hp)
  rintro _ m₁ ⟨rfl, h⟩
  generalize interpret s.interpreter Moment.cell p m' = run at h ⊢
  obtain ⟨e | a, m₂⟩ := run
  · exact ⟨rfl, h⟩
  · exact hf a m₁ m₂ h

theorem mirrors_attempt {p : Program Cursor α} (hp : s.Mirrors p m m') :
    s.Mirrors p.attempt m m' := by
  have hplay : s.play p.attempt m' = (.ok (s.play p m').1, (s.play p m').2) :=
    Program.interpret_attempt
  unfold Supply.Mirrors
  rw [hplay]
  exact lands_attempt hp

theorem mirrors_always {p : Program Cursor α} {last : Program Cursor Unit}
    (hp : s.Mirrors p m m') (hlast : ∀ m m', Twins m m' → s.Mirrors last m m') :
    s.Mirrors (p.always last) m m' :=
  mirrors_bind (mirrors_attempt hp) fun o m m' h =>
    mirrors_bind (hlast m m' h) fun _ _ _ h => mirrors_done h o

/-- A look at what shows. -/
theorem mirrors_get {f : Cursor → Program Cursor α} (h : Twins m m')
    (hf : ∀ c : Cursor, f c.core = f c) (hp : s.Mirrors (f m'.cursor) m m') :
    s.Mirrors (Program.get >>= f) m m' := by
  have hsame : f m.cursor = f m'.cursor := by rw [← hf, h.core, hf]
  change s.Lands (f m.cursor) m (s.play (f m'.cursor) m').1 (s.play (f m'.cursor) m').2
  rw [hsame]
  exact hp

theorem mirrors_modify {f : Cursor → Cursor} (h : Twins m m')
    (hf : ∀ c : Cursor, (f c).core = f c.core) : s.Mirrors (Program.modify f) m m' :=
  lands_modify (h.change hf)

theorem mirrors_notify (h : Twins m m') (n : Notice) : s.Mirrors (Program.notify n) m m' :=
  mirrors_of_lands _ _ h fun _ h => lands_notify h n

theorem mirrors_ask {q : Exchange} (h : Twins m m')
    (hq : (s.settles (m'.record (.asked q)) q).isSome) : s.Mirrors (.ask q .done) m m' := by
  obtain ⟨y, hy⟩ := Option.isSome_iff_exists.1 hq
  exact mirrors_of_lands _ _ h fun _ h => lands_ask h hy

theorem mirrors_releaseResources (h : Twins m m') : s.Mirrors releaseResources m m' :=
  mirrors_of_lands _ _ h fun _ h => lands_releaseResources h

theorem mirrors_killHeld (h : Twins m m') (given : Option Connection) :
    s.Mirrors (killHeld given) m m' :=
  mirrors_of_lands _ _ h fun _ h => lands_killHeld h given

theorem mirrors_close (h : Twins m m') : s.Mirrors (close true) m m' :=
  mirrors_of_lands _ _ h fun _ h => lands_close h

theorem mirrors_absorb (h : Twins m m') (result : QueryResult) :
    s.Mirrors (absorb result) m m' :=
  mirrors_of_lands _ _ h fun _ h => lands_absorb h result

theorem mirrors_giveUp (h : Twins m m') (e : Failure) : s.Mirrors (giveUp e) m m' := by
  cases e with
  | cursorMissing id address =>
    exact mirrors_bind (mirrors_modify h fun _ => rfl) fun _ _ _ h => mirrors_close h
  | cancelled => exact mirrors_done h _
  | _ => exact mirrors_close h

/-! ## Fetches -/

theorem mirrors_follow (h : Twins m m') (connection : Connection) (result : QueryResult) :
    s.Mirrors (follow connection result) m m' := by
  refine mirrors_get h (fun _ => rfl) ?_
  split
  · exact mirrors_done h _
  refine mirrors_bind (mirrors_absorb h result) fun verdict m m' h => ?_
  split
  · exact mirrors_bind (mirrors_killHeld h _) fun _ _ _ h => mirrors_done h _
  · exact mirrors_done h _

theorem mirrors_fetchOver (h : Twins m m') (target : ServerCursor) (connection : Connection) :
    s.Mirrors (fetchOver target connection) m m' :=
  mirrors_bind (mirrors_of_lands _ _ h fun _ h => lands_requestBatch h rfl)
    fun result _ _ h => mirrors_follow h connection result

/-- A connection is leased for a fetch while the server cursor is held. -/
theorem mirrors_withConnection {use : Connection → Program Cursor α} (h : Twins m m')
    (hs : m'.cursor.progress.serverCursor.isSome)
    (huse : ∀ connection m m', Twins m m' → s.Mirrors (use connection) m m') :
    s.Mirrors (withConnection use) m m' := by
  refine mirrors_get h (fun _ => rfl) ?_
  split
  · exact huse _ _ _ h
  split
  · exact mirrors_done h _
  · refine mirrors_bind (mirrors_ask h ?_) fun connection _ _ h =>
      mirrors_always (huse connection _ _ h) fun _ _ h => mirrors_notify h _
    exact Option.isSome_iff_exists.2 ⟨_, if_pos hs⟩

theorem mirrors_fetch (h : Twins m m') : s.Mirrors fetch m m' := by
  refine mirrors_get h (fun _ => rfl) ?_
  split
  · exact mirrors_done h _
  rename_i target hs
  have hheld : m'.cursor.progress.serverCursor.isSome := by simp [hs]
  refine mirrors_bind (mirrors_attempt (mirrors_withConnection h hheld fun connection _ _ h =>
    mirrors_fetchOver h target connection)) fun o m m' h => ?_
  split
  · split
    · exact mirrors_done h _
    · exact mirrors_releaseResources h
  · exact mirrors_bind (mirrors_giveUp h _) fun _ _ _ h => mirrors_done h _

/-! ## Retrievals -/

theorem mirrors_ensureOpen (h : Twins m m') : s.Mirrors ensureOpen m m' := by
  refine mirrors_get h (fun _ => rfl) ?_
  split <;> exact mirrors_done h _

/-- A cursor goes on after a pause, unless it was interrupted or closed. -/
theorem lands_resumed (h : Twins m m') :
    s.Lands (do
      let c ← Program.get
      if c.interrupted then do
        Program.set { c with interrupted := false }
        Program.fail .interrupted
      else if c.closed then Program.fail (.cursorClosed .waiting)
      else pure ()) m
      (if m'.cursor.interrupted then .error .interrupted
        else if m'.cursor.closed then .error (.cursorClosed .waiting) else .ok ())
      (m'.put { m'.cursor with interrupted := false }) := by
  have hinterrupted : m.cursor.interrupted = m'.cursor.interrupted :=
    congrArg (·.interrupted) h.core
  have hreset := h.change (f := fun c => { c with interrupted := false }) fun _ => rfl
  refine lands_get ?_
  rw [← hinterrupted, ← h.closed]
  rcases hi : m.cursor.interrupted with _ | _
  · have hsame : { m'.cursor with interrupted := false } = m'.cursor := by
      rw [← hinterrupted.symm.trans hi]
    simp only [Bool.false_eq_true, if_false, hsame]
    split <;> exact lands_done h _
  · exact lands_bind (lands_set hreset) fun _ h => lands_done h _

theorem mirrors_waitBeforeRetry (h : Twins m m') : s.Mirrors waitBeforeRetry m m' := by
  refine mirrors_get h (fun _ => rfl) ?_
  refine mirrors_bind (mirrors_done h _) fun length m m' h => ?_
  refine mirrors_bind (mirrors_ask h rfl) fun _ m m' h => ?_
  exact mirrors_of_lands _ _ h fun _ h => lands_resumed h

theorem mirrors_awaitBatch (rounds : Nat) :
    ∀ m m', Twins m m' → s.Mirrors (awaitBatch rounds) m m' := by
  induction rounds with
  | zero => exact fun _ _ h => mirrors_done h _
  | succ rounds ih =>
    intro m m' h
    rw [awaitBatch_succ]
    refine mirrors_get h (fun _ => rfl) ?_
    split
    · exact mirrors_done h _
    split
    · exact mirrors_done h _
    refine mirrors_bind (mirrors_fetch h) fun _ m m' h => mirrors_bind ?_ fun _ m m' h => ih m m' h
    refine mirrors_get h (fun _ => rfl) ?_
    split
    · exact mirrors_done h _
    · exact mirrors_waitBeforeRetry h

theorem lands_takeBatch_some (h : Twins m m') {batch : List Value}
    (hb : m'.cursor.progress.nextBatch = some batch) : s.Lands takeBatch m (.ok batch)
      (m'.put { m'.cursor with progress := { m'.cursor.progress with nextBatch := none } }) := by
  refine ensures_takeBatch.2 ?_
  rw [Moment.cell_load, h.nextBatch, hb]
  exact ⟨rfl, h.change (f := fun c => { c with progress :=
    { c.progress with nextBatch := none } }) fun _ => rfl⟩

theorem lands_takeBatch_none (h : Twins m m') (hb : m'.cursor.progress.nextBatch = none) :
    s.Lands takeBatch m (.error (.invalid .noBatch)) m' := by
  refine ensures_takeBatch.2 ?_
  rw [Moment.cell_load, h.nextBatch, hb]
  exact ⟨rfl, h⟩

theorem mirrors_takeBatch (h : Twins m m') : s.Mirrors takeBatch m m' := by
  rcases hb : m'.cursor.progress.nextBatch with _ | batch
  · exact mirrors_of_lands _ _ h fun _ h => lands_takeBatch_none h hb
  · exact mirrors_of_lands _ _ h fun _ h => lands_takeBatch_some h hb

theorem mirrors_next (h : Twins m m') (rounds : Nat) : s.Mirrors (next rounds) m m' := by
  refine mirrors_bind (mirrors_bind (mirrors_ensureOpen h) fun _ m m' h =>
    mirrors_awaitBatch rounds m m' h) fun available m m' h => ?_
  split
  · exact mirrors_bind (mirrors_takeBatch h) fun _ _ _ h => mirrors_done h _
  · exact mirrors_done h _
  · exact mirrors_done h _

theorem mirrors_tryNext (h : Twins m m') : s.Mirrors tryNext m m' := by
  rw [tryNext_eq]
  refine mirrors_bind (mirrors_ensureOpen h) fun _ m m' h => ?_
  refine mirrors_bind (mirrors_get h (fun _ => rfl) ?_) fun _ m m' h => ?_
  · split
    · exact mirrors_done h _
    · exact mirrors_fetch h
  refine mirrors_get h (fun _ => rfl) ?_
  split
  · exact mirrors_bind (mirrors_takeBatch h) fun _ _ _ h => mirrors_done h _
  · exact mirrors_done h _

/-- The follow-up on a first batch: a kill, at once or scheduled, does not show. -/
theorem mirrors_start (h : Twins m m') (first : QueryResult) :
    s.Mirrors (start first true) m m' := by
  refine mirrors_bind (mirrors_absorb h first) fun verdict m m' h => ?_
  rcases hv : verdict.followUp with _ | _ | _
  · exact mirrors_of_lands _ _ h fun m h => lands_get (lands_done h _)
  · refine mirrors_of_lands (.ok ()) (m'.put m'.cursor.forget) h fun m h => lands_get ?_
    rcases m.cursor.mode with _ | _
    · exact lands_bind (lands_killHeld h none) fun _ h => lands_releaseResources h
    · exact lands_scheduleCleanup h
  · exact mirrors_of_lands _ _ h fun m h => lands_get (lands_releaseResources h)

/-! ## Activities -/

/-- Whether both flavours have an operation; the loop of an asynchronous cursor runs. -/
def Activity.isShared : Activity → Bool
  | .next _ | .tryNext | .setBatchSize _ => true
  | .close loopRuns => loopRuns
  | _ => false

theorem Activity.isCleanup_of_isShared {a : Activity} (ha : a.isShared) : a.isCleanup = false := by
  cases a <;> first | rfl | simp [isShared] at ha

/-- **An operation that both flavours have ends on twins alike.** -/
theorem mirrors_program {a : Activity} (ha : a.isShared ∨ ∃ first, a = .opening first true)
    (h : Twins m m') : s.Mirrors a.program m m' := by
  rcases ha with ha | ⟨first, rfl⟩
  · cases a with
    | next rounds => exact mirrors_bind (mirrors_next h rounds) fun _ _ _ h => mirrors_done h _
    | tryNext => exact mirrors_bind (mirrors_tryNext h) fun _ _ _ h => mirrors_done h _
    | setBatchSize n =>
      exact mirrors_bind (mirrors_modify h fun _ => rfl) fun _ _ _ h => mirrors_done h _
    | close loopRuns =>
      obtain rfl : loopRuns = true := ha
      exact mirrors_bind (mirrors_close h) fun _ _ _ h => mirrors_done h _
    | _ => simp [Activity.isShared] at ha
  · exact mirrors_bind (mirrors_start h first) fun _ _ _ h => mirrors_done h _

end

end DocumentClient.Cursor
