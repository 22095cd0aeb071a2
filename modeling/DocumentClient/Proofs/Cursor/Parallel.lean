/-
  Programs that take no notice of what others alter.

  While a program waits, others may set the batch size of the cursor and interrupt it.  Two
  programs are `Parallel` if, up to their next exchange, the second does from an altered cursor
  what the first does, and leaves alone whether the next wait is to fail.  A program is `Careless`
  if it is parallel to itself, and `Detached` if it is so after each of its exchanges, too, which
  are of some kind.  So are kills, releases, closing and scheduled kills, what gives a failed fetch
  up, and what hands a batch out; `AfterAsks` says what holds after the exchanges of others.
-/
import DocumentClient.Proofs.Cursor.Rules

namespace DocumentClient.Cursor

/-! ## Alterations -/

/-- What others make of the batch size, and of whether the next wait is to fail. -/
structure Alteration where
  size : Int → Int := id
  flag : Bool → Bool := id

namespace Alteration

/-- A batch size is set. -/
def resizing (b : Int) : Alteration := { size := fun _ => b }

/-- An interruption is taken back. -/
def calming : Alteration := { flag := fun _ => false }

end Alteration

/-- The same cursor after an alteration. -/
def altered (t : Alteration) (c : Cursor) : Cursor :=
  { c with batchSize := t.size c.batchSize, interrupted := t.flag c.interrupted }

/-- The same moment with an altered cursor, where its history is told in another way. -/
def Moment.altered (t : Alteration) (f : List Incident → List Incident) (m : Moment) : Moment :=
  ⟨m.cursor.altered t, f m.history⟩

/-- The same life with an altered cursor, where its history is told in another way. -/
def Life.altered (t : Alteration) (f : List Incident → List Incident) (l : Life) : Life :=
  { l with moment := l.moment.altered t f }

/-- The same cursor with another batch size. -/
def resized (b : Int) (c : Cursor) : Cursor := { c with batchSize := b }

/-- The same moment with another batch size. -/
def Moment.resized (b : Int) (m : Moment) : Moment := m.put (m.cursor.resized b)

/-- The same life with another batch size. -/
def Life.resized (b : Int) (l : Life) : Life := { l with moment := l.moment.resized b }

/-! ## Going alike -/

variable {α β : Type} {t : Alteration} {T T' : Alteration → Prop} {kind kind' : Exchange → Bool}
  {c : Cursor} {p p' : Program Cursor α}

/-- Up to their next exchange, a program does from an altered cursor what one does from the cursor
    itself, and an interruption is neither asked for nor heard. -/
inductive Parallel (t : Alteration) : Cursor → Program Cursor α → Program Cursor α → Prop
  | done (c : Cursor) (outcome : Outcome α) : Parallel t c (.done outcome) (.done outcome)
  | read {c : Cursor} {next next' : Cursor → Program Cursor α}
      (h : Parallel t c (next c) (next' (c.altered t))) : Parallel t c (.read next) (.read next')
  | write {c c' : Cursor} {next next' : Program Cursor α} (hflag : c'.interrupted = c.interrupted)
      (h : Parallel t c' next next') : Parallel t c (.write c' next) (.write (c'.altered t) next')
  | note {c : Cursor} (n : Notice) {next next' : Program Cursor α} (h : Parallel t c next next') :
      Parallel t c (.note n next) (.note n next')
  | ask (c : Cursor) (q : Exchange) (next : Outcome q.Answer → Program Cursor α) :
      Parallel t c (.ask q next) (.ask q next)

/-- A program takes no notice of some alterations before its next exchange. -/
def Careless (T : Alteration → Prop) (p : Program Cursor α) : Prop :=
  ∀ t, T t → ∀ c, Parallel t c p p

theorem parallel_get {f : Cursor → Program Cursor β}
    (h : Parallel t c (f c) (f (c.altered t))) :
    Parallel t c (Program.get >>= f) (Program.get >>= f) := .read h

/-- What an activity itself brings about, once it has begun. -/
def Incident.comesOf (a : Activity) : Incident → Prop
  | .asked _ | .noticed _ => True
  | .ended b _ => b = a
  | _ => False

namespace Parallel

/-- One after the other. -/
theorem bind {f : α → Program Cursor β} (h : Parallel t c p p')
    (hf : ∀ a c, Parallel t c (f a) (f a)) : Parallel t c (p >>= f) (p' >>= f) := by
  induction h with
  | done c outcome =>
    rcases outcome with e | a
    · exact .done c (.error e)
    · exact hf a c
  | read _ ih => exact .read ih
  | write hflag _ ih => exact .write hflag ih
  | note n _ ih => exact .note n ih
  | ask c q next => exact .ask c q _

theorem attempt (h : Parallel t c p p') : Parallel t c p.attempt p'.attempt := by
  induction h with
  | done c outcome => exact .done c (.ok outcome)
  | read _ ih => exact .read ih
  | write hflag _ ih => exact .write hflag ih
  | note n _ ih => exact .note n ih
  | ask c q next => exact .ask c q _

section
variable {p p' : Program Cursor Yield} {a : Activity}

/-- What goes alike leaves lives that are alike, if what it brings about is told as it is. -/
theorem proceed_told (h : Parallel t c p p') (ts : List Thread)
    {f : List Incident → List Incident} (hf : ∀ i is, i.comesOf a → f (i :: is) = i :: f is) :
    ∀ m : Moment, m.cursor = c →
      Life.proceed a ts p' (m.altered t f) = (Life.proceed a ts p m).altered t f := by
  have hended (o is) := hf (.ended a o) is rfl
  have hnoticed (n is) := hf (.noticed n) is trivial
  have hasked (q is) := hf (.asked q) is trivial
  induction h with
  | done c outcome =>
    intro m _
    simp only [Life.proceed, Life.altered, Moment.altered, Moment.record, hended]
  | read _ ih =>
    rintro m rfl
    exact ih m rfl
  | @write c c' next next' _ _ ih => exact fun m _ => ih (m.put c') rfl
  | note n _ ih =>
    intro m hm
    have h := ih (m.record (.noticed n)) hm
    simp only [Moment.altered, Moment.record, hnoticed] at h
    exact h
  | ask c q next =>
    intro m _
    simp only [Life.proceed, Life.altered, Moment.altered, Moment.record, hasked]

/-- What goes alike leaves lives that are alike. -/
theorem proceed (h : Parallel t c p p') (a : Activity) (ts : List Thread) (m : Moment)
    (hm : m.cursor = c) :
    Life.proceed a ts p' (m.altered t id) = (Life.proceed a ts p m).altered t id :=
  h.proceed_told ts (f := id) (fun _ _ _ => rfl) m hm

/-- What goes alike hears no interruption. -/
theorem interrupted_proceed (h : Parallel t c p p') (a : Activity) (ts : List Thread) :
    ∀ m : Moment, m.cursor = c →
      (Life.proceed a ts p m).moment.cursor.interrupted = c.interrupted := by
  induction h with
  | done c outcome => exact fun m hm => congrArg Cursor.interrupted hm
  | read _ ih =>
    rintro m rfl
    exact ih m rfl
  | @write c c' next next' hflag _ ih => exact fun m _ => (ih (m.put c') rfl).trans hflag
  | note n _ ih => exact fun m hm => ih (m.record (.noticed n)) hm
  | ask c q next => exact fun m hm => congrArg Cursor.interrupted hm

end

end Parallel

/-! ## After exchanges -/

/-- What holds of each answer to an exchange of some kind that a program may ask for, and of what
    it does then. -/
def AfterAsks (kind : Exchange → Bool)
    (P : (q : Exchange) → Outcome q.Answer → Program Cursor α → Prop) : Program Cursor α → Prop
  | .done _ => True
  | .read next => ∀ c, AfterAsks kind P (next c)
  | .write _ next => AfterAsks kind P next
  | .note _ next => AfterAsks kind P next
  | .ask q next => (kind q → ∀ x, P q x (next x)) ∧ ∀ x, AfterAsks kind P (next x)

/-- What holds of each answer to a fetch. -/
abbrev AfterFetches (P : (q : Exchange) → Outcome q.Answer → Program Cursor α → Prop) :
    Program Cursor α → Prop :=
  AfterAsks isFetch P

/-- A program makes no fetch. -/
def Fetchless (p : Program Cursor α) : Prop := AfterFetches (fun _ _ _ => False) p

/-- A program asks only for exchanges of some kind, and takes no notice of some alterations, neither
    before an exchange nor after it. -/
structure Detached (T : Alteration → Prop) (kind : Exchange → Bool) (p : Program Cursor α) :
    Prop where
  careless : Careless T p
  after : AfterAsks (fun _ => true) (fun q _ r => kind q ∧ Careless T r) p

/-- Whether an exchange neither fetches nor pauses. -/
def isHousekeeping (q : Exchange) : Bool := !isFetch q && !isPause q

/-- A program neither fetches nor pauses, and takes no notice of any alteration. -/
abbrev Sizeless (p : Program Cursor α) : Prop := Detached (fun _ => True) isHousekeeping p

section
variable {f : α → Program Cursor β}
  {P : (q : Exchange) → Outcome q.Answer → Program Cursor α → Prop}
  {P' : (q : Exchange) → Outcome q.Answer → Program Cursor β → Prop}

theorem afterAsks_bind (h : ∀ q x r, P q x r → P' q x (r >>= f)) (hp : AfterAsks kind P p)
    (hf : ∀ a, AfterAsks kind P' (f a)) : AfterAsks kind P' (p >>= f) := by
  induction p with
  | done outcome =>
    rcases outcome with e | a
    · trivial
    · exact hf a
  | read next ih => exact fun c => ih c (hp c)
  | write c next ih => exact ih hp
  | note n next ih => exact ih hp
  | ask q next ih => exact ⟨fun hq x => h q x _ (hp.1 hq x), fun x => ih x (hp.2 x)⟩

theorem afterAsks_get {f : Cursor → Program Cursor β} (h : ∀ c, AfterAsks kind P' (f c)) :
    AfterAsks kind P' (Program.get >>= f) := h

theorem afterAsks_attempt
    {P' : (q : Exchange) → Outcome q.Answer → Program Cursor (Outcome α) → Prop}
    (h : ∀ q x r, P q x r → P' q x r.attempt) (hp : AfterAsks kind P p) :
    AfterAsks kind P' p.attempt := by
  induction p with
  | done outcome => trivial
  | read next ih => exact fun c => ih c (hp c)
  | write c next ih => exact ih hp
  | note n next ih => exact ih hp
  | ask q next ih => exact ⟨fun hq x => h q x _ (hp.1 hq x), fun x => ih x (hp.2 x)⟩

theorem AfterAsks.imp {P' : (q : Exchange) → Outcome q.Answer → Program Cursor α → Prop}
    (h : ∀ q, kind' q → kind q ∧ ∀ x r, P q x r → P' q x r) (hp : AfterAsks kind P p) :
    AfterAsks kind' P' p := by
  induction p with
  | done outcome => trivial
  | read next ih => exact fun c => ih c (hp c)
  | write c next ih => exact ih hp
  | note n next ih => exact ih hp
  | ask q next ih =>
    exact ⟨fun hq x => (h q hq).2 x _ (hp.1 (h q hq).1 x), fun x => ih x (hp.2 x)⟩

/-- Where nothing is fetched, anything holds after fetches. -/
theorem Fetchless.afterFetches (hp : Fetchless p) : AfterFetches P p :=
  hp.imp fun _ hq => ⟨hq, fun _ _ => False.elim⟩

/-- A connection is given, or leased without a fetch. -/
theorem afterFetches_withConnection {use : Connection → Program Cursor α}
    (hgiven : ∀ x, AfterFetches P (use x))
    (hleased : ∀ x, AfterFetches P ((use x).always (Program.notify (.releaseConnection x)))) :
    AfterFetches P (withConnection use) := by
  refine afterAsks_get fun c => ?_
  rcases c.connection with _ | handle
  · rcases c.source with _ | handle
    · trivial
    · refine ⟨fun hfetch => by simp [isFetch] at hfetch, fun x => ?_⟩
      rcases x with e | connection
      · trivial
      · exact hleased connection
  · exact hgiven handle.resource

theorem Fetchless.bind (hp : Fetchless p) (hf : ∀ a, Fetchless (f a)) : Fetchless (p >>= f) :=
  afterAsks_bind (fun _ _ _ h => h) hp hf

/-- What holds after each exchange of each activity holds after those of the threads that wait. -/
theorem afterAsks_proceed {a : Activity} {ts : List Thread}
    {P : Activity → (q : Exchange) → Outcome q.Answer → Program Cursor Yield → Prop}
    (hts : ∀ t ∈ ts, AfterAsks kind (P t.activity) t.rest) {p : Program Cursor Yield}
    (hp : AfterAsks kind (P a) p) : ∀ {m : Moment}, ∀ t ∈ (Life.proceed a ts p m).threads,
      AfterAsks kind (P t.activity) t.rest := by
  induction p with
  | done outcome => exact hts
  | read next ih => exact ih _ (hp _)
  | write c next ih => exact ih hp
  | note n next ih => exact ih hp
  | ask q next ih =>
    intro m t ht
    rcases List.mem_cons.1 ht with rfl | ht
    · exact hp
    · exact hts t ht

theorem afterAsks_of_reaches
    {P : Activity → (q : Exchange) → Outcome q.Answer → Program Cursor Yield → Prop}
    (hP : ∀ a : Activity, AfterAsks kind (P a) a.program) {r : Regime} {first : QueryResult}
    {loopRuns : Bool} {l : Life} (hl : Life.Reaches r (Life.opening c first loopRuns) l) :
    ∀ t ∈ l.threads, AfterAsks kind (P t.activity) t.rest := by
  induction hl with
  | refl => exact afterAsks_proceed (by simp) (hP _)
  | tail _ hstep ih =>
    cases hstep with
    | call _ => exact afterAsks_proceed ih (hP _)
    | run _ => exact afterAsks_proceed ih (hP (.cleanup _))
    | @resume m before after a q next x _ _ =>
      have hrest : AfterAsks kind (P a) (.ask q next) := ih ⟨a, .ask q next⟩ (by simp)
      exact afterAsks_proceed (fun t ht => ih t (Thread.mem_beside _ ht)) (hrest.2 x)

end

/-! ## Detached programs -/

section
variable {f : α → Program Cursor β}

theorem Detached.mono (hp : Detached T kind p) (hT : ∀ t, T' t → T t)
    (hkind : ∀ q, kind q → kind' q) : Detached T' kind' p where
  careless t ht := hp.careless t (hT t ht)
  after := hp.after.imp fun q _ =>
    ⟨rfl, fun _ _ h => ⟨hkind q h.1, fun t ht => h.2 t (hT t ht)⟩⟩

theorem Detached.fetchless (hp : Detached T isHousekeeping p) : Fetchless p :=
  hp.after.imp fun q hq => ⟨rfl, fun _ _ h => by simp [isHousekeeping, hq] at h⟩

theorem detached_done (outcome : Outcome α) : Detached T kind (.done outcome) :=
  ⟨fun _ _ c => .done c outcome, trivial⟩

theorem detached_pure (a : α) : Detached T kind (pure a : Program Cursor α) :=
  detached_done (.ok a)

theorem detached_fail (e : Failure) : Detached T kind (Program.fail e : Program Cursor α) :=
  detached_done (.error e)

theorem detached_notify (n : Notice) : Detached T kind (Program.notify n : Program Cursor Unit) :=
  ⟨fun _ _ c => .note n (.done c (.ok ())), trivial⟩

theorem detached_log (level : LogLevel) (message : String) :
    Detached T kind (Program.log level message : Program Cursor Unit) :=
  detached_notify (.log level message)

theorem detached_modify {f : Cursor → Cursor} (hflag : ∀ c, (f c).interrupted = c.interrupted)
    (hf : ∀ t, T t → ∀ c, f (c.altered t) = (f c).altered t) :
    Detached T kind (Program.modify f) := by
  refine ⟨fun t ht c => .read ?_, fun c => trivial⟩
  rw [hf t ht]
  exact .write (hflag c) (.done _ _)

/-- A program that reads the state, but not what is altered. -/
theorem detached_get {f : Cursor → Program Cursor β} (hf : ∀ t, T t → ∀ c, f (c.altered t) = f c)
    (h : ∀ c, Detached T kind (f c)) : Detached T kind (Program.get >>= f) := by
  refine ⟨fun t ht c => .read ?_, fun c => (h c).after⟩
  change Parallel t c (f c) (f (c.altered t))
  rw [hf t ht]
  exact (h c).careless t ht c

theorem detached_ask {q : Exchange} {next : Outcome q.Answer → Program Cursor α} (hq : kind q)
    (h : ∀ x, Detached T kind (next x)) : Detached T kind (.ask q next) :=
  ⟨fun _ _ c => .ask c q next, fun _ x => ⟨hq, (h x).careless⟩, fun x => (h x).after⟩

theorem Careless.bind (hp : Careless T p) (hf : ∀ a, Careless T (f a)) :
    Careless T (p >>= f) :=
  fun t ht c => (hp t ht c).bind fun a => hf a t ht

theorem Detached.bind (hp : Detached T kind p) (hf : ∀ a, Detached T kind (f a)) :
    Detached T kind (p >>= f) where
  careless := hp.careless.bind fun a => (hf a).careless
  after := afterAsks_bind (fun _ _ _ h => ⟨h.1, h.2.bind fun a => (hf a).careless⟩) hp.after
    fun a => (hf a).after

theorem Careless.attempt (hp : Careless T p) : Careless T p.attempt :=
  fun t ht c => (hp t ht c).attempt

theorem Detached.attempt (hp : Detached T kind p) : Detached T kind p.attempt :=
  ⟨hp.careless.attempt, afterAsks_attempt (fun _ _ _ h => ⟨h.1, h.2.attempt⟩) hp.after⟩

theorem Detached.always {last : Program Cursor Unit} (hp : Detached T kind p)
    (hlast : Detached T kind last) : Detached T kind (p.always last) :=
  hp.attempt.bind fun outcome => hlast.bind fun _ => detached_done outcome

theorem Detached.handle {handler : Failure → Program Cursor α} (hp : Detached T kind p)
    (hhandler : ∀ e, Detached T kind (handler e)) : Detached T kind (p.handle handler) := by
  refine hp.attempt.bind fun outcome => ?_
  rcases outcome with e | a
  · dsimp only
    split
    · exact hhandler e
    · exact detached_fail e
  · exact detached_pure a

/-- A connection is leased without a look at what is altered. -/
theorem detached_withConnection {use : Connection → Program Cursor α}
    (hlease : ∀ source, kind (.lease source))
    (huse : ∀ connection, Detached T kind (use connection)) :
    Detached T kind (withConnection use) := by
  refine detached_get (fun _ _ _ => rfl) fun c => ?_
  rcases c.connection with _ | handle
  · rcases c.source with _ | handle
    · exact detached_fail _
    · refine detached_ask (hlease _) fun x => ?_
      rcases x with e | connection
      · exact detached_fail e
      · exact (huse connection).always (detached_notify _)
  · exact huse handle.resource

end

/-! ## Giving a cursor up -/

theorem sizeless_tell (ns : List Notice) : Sizeless (tell ns) := by
  induction ns with
  | nil => exact detached_pure ()
  | cons n ns ih => exact (detached_notify n).bind fun _ => ih

theorem sizeless_releaseResources : Sizeless releaseResources := by
  rw [releaseResources_eq]
  refine ⟨fun t ht c => .read ?_, fun c => ?_⟩
  · change Parallel t c (if c.released then _ else _) (if c.released then _ else _)
    split
    · exact .done c (.ok ())
    · exact .write rfl ((sizeless_tell (dues c)).careless t ht { c with released := true })
  · change AfterAsks _ _ (if c.released then _ else _)
    split
    · trivial
    · exact (sizeless_tell (dues c)).after

theorem sizeless_killCursor (target : ServerCursor) (given : Option Connection) :
    Sizeless (killCursor target given) := by
  have hsend : ∀ (c : Cursor) (connection : Connection),
      Sizeless (Program.killCursors connection c.ns [target.id] : Program Cursor Unit) :=
    fun c connection => detached_ask rfl fun x => detached_done x
  refine detached_get (fun _ _ _ => rfl) fun c => (detached_log _ _).bind fun _ => ?_
  refine Detached.handle ?_ fun e => detached_log _ _
  rcases given with _ | connection
  · exact detached_withConnection (fun _ => rfl) (hsend c)
  · exact hsend c connection

theorem sizeless_forget : Sizeless (Program.modify forget) :=
  detached_modify (fun _ => rfl) fun _ _ _ => rfl

theorem sizeless_killHeld (given : Option Connection) : Sizeless (killHeld given) := by
  refine detached_get (fun _ _ _ => rfl) fun c => ?_
  rcases c.progress.serverCursor with _ | target
  · exact detached_pure ()
  · exact sizeless_forget.bind fun _ => sizeless_killCursor target given

theorem sizeless_cleanup (target : ServerCursor) : Sizeless (cleanup target) :=
  (sizeless_killCursor target none).always sizeless_releaseResources

theorem sizeless_scheduleCleanup (loopRuns : Bool) : Sizeless (scheduleCleanup loopRuns) := by
  refine detached_get (fun _ _ _ => rfl) fun c => ?_
  rcases c.progress.serverCursor with _ | target
  · exact sizeless_releaseResources
  refine sizeless_forget.bind fun _ => ?_
  rcases loopRuns with _ | _
  · exact (detached_log _ _).bind fun _ => sizeless_releaseResources
  · exact detached_modify (fun _ => rfl) fun _ _ _ => rfl

theorem sizeless_close (loopRuns : Bool) : Sizeless (close loopRuns) := by
  have hshut : Sizeless (Program.modify fun c => { c with closed := true }) :=
    detached_modify (fun _ => rfl) fun _ _ _ => rfl
  refine detached_get (fun _ _ _ => rfl) fun c => ?_
  split
  · exact detached_pure ()
  split
  · exact (sizeless_killHeld none).always (hshut.bind fun _ => sizeless_releaseResources)
  · exact hshut.bind fun _ => sizeless_scheduleCleanup loopRuns

theorem sizeless_giveUp (e : Failure) : Sizeless (giveUp e) := by
  cases e with
  | cursorMissing id address => exact sizeless_forget.bind fun _ => sizeless_close true
  | cancelled => exact detached_pure ()
  | _ => exact sizeless_close true

/-! ## Fetches that have come back -/

theorem parallel_store (after : Progress × Verdict) :
    Parallel t c (store c after) (store (c.altered t) after) := by
  obtain ⟨progress, verdict⟩ := after
  cases verdict with
  | dropped cursor => exact .note _ (.write rfl (.done _ _))
  | _ => exact .write rfl (.done _ _)

theorem parallel_absorb {result : QueryResult}
    (h : c.progress.advance c.limit (t.size c.batchSize) result
      = c.progress.advance c.limit c.batchSize result) :
    Parallel t c (absorb result) (absorb result) := by
  rw [absorb_eq]
  refine parallel_get ?_
  have haltered : (c.altered t).progress.advance (c.altered t).limit (c.altered t).batchSize result
      = c.progress.advance c.limit c.batchSize result := h
  rw [haltered]
  exact parallel_store _

/-- What follows on a verdict. -/
def followUp (connection : Connection) (verdict : Verdict) : Program Cursor Verdict := do
  match verdict.followUp with
  | .kill => killHeld (some connection)
  | _ => pure ()
  return verdict

theorem sizeless_followUp (connection : Connection) (verdict : Verdict) :
    Sizeless (followUp connection verdict) := by
  cases verdict with
  | limitReached => exact (sizeless_killHeld _).bind fun _ => detached_pure _
  | _ => exact detached_pure _

theorem parallel_follow {result : QueryResult} (connection : Connection)
    (h : c.closed = false → c.progress.advance c.limit (t.size c.batchSize) result
      = c.progress.advance c.limit c.batchSize result) :
    Parallel t c (follow connection result) (follow connection result) := by
  refine parallel_get ?_
  change Parallel t c (if c.closed then _ else _) (if c.closed then _ else _)
  split
  · exact .done c (.error (.cursorClosed .fetching))
  · rename_i hopen
    exact (parallel_absorb (h (eq_false_of_ne_true hopen))).bind fun verdict =>
      (sizeless_followUp connection verdict).careless t trivial

/-- What a fetch comes to: a failure closes the cursor, and a verdict may release it. -/
def conclude : Outcome Verdict → Program Cursor Unit
  | .ok verdict => match verdict.followUp with
    | .nothing => pure ()
    | _ => releaseResources
  | .error failure => do
    giveUp failure
    Program.fail failure

theorem sizeless_conclude (outcome : Outcome Verdict) : Sizeless (conclude outcome) := by
  rcases outcome with e | verdict
  · exact (sizeless_giveUp e).bind fun _ => detached_fail e
  · cases verdict with
    | kept => exact detached_pure ()
    | _ => exact sizeless_releaseResources

/-! ## Retrieving -/

theorem sizeless_takeBatch : Sizeless takeBatch := by
  refine ⟨fun t _ c => parallel_get ?_, afterAsks_get fun c => ?_⟩
  · change Parallel t c (Program.ofValid c.progress.takeBatch >>= _)
      (Program.ofValid c.progress.takeBatch >>= _)
    rcases c.progress.takeBatch with reason | ⟨progress, batch⟩
    · exact .done c (.error (.invalid reason))
    · exact .write rfl (.done _ _)
  · rcases c.progress.takeBatch with reason | ⟨progress, batch⟩ <;> trivial

theorem sizeless_handOut : Sizeless handOut := by
  refine detached_get (fun _ _ _ => rfl) fun c => ?_
  split
  · exact sizeless_takeBatch.bind fun _ => detached_pure _
  · exact detached_pure none

end DocumentClient.Cursor
