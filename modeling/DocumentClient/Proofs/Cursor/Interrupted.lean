/-
  What an interruption leaves of a call.

  A blocking cursor that nobody closes is used by one call at a time; while this waits for an
  answer, others may set the batch size and interrupt it (`Bides`), and do nothing else.  A call
  pauses only where its last fetch has left nothing settled, and has done nothing since but giving
  notices (`amid`), and nothing is interrupted but pauses (`Excused`).  So a call that is
  interrupted leaves all as its last fetch has left it, and can be made anew (`Unscathed`).

  `interruptions_of_reaches`: each wait raises an interruption just if one is pending; apart from
  that, all goes as it would without interruptions; and an interruption costs nothing.
-/
import DocumentClient.Proofs.Cursor.Blocking
import DocumentClient.Proofs.Cursor.Delivery
import DocumentClient.Proofs.Cursor.Interruptions
import DocumentClient.Proofs.Cursor.Pacing
import DocumentClient.Proofs.Cursor.Terminal

namespace DocumentClient.Cursor

open Program (Ensures Environment)

/-! ## Beside a call -/

/-- Whether an activity only sets the batch size, or interrupts. -/
def Activity.isSetting : Activity → Bool
  | interrupt | setBatchSize _ => true
  | _ => false

/-- Whether an incident belongs to such an activity. -/
def Incident.isSetting (i : Incident) : Bool :=
  i.begins Activity.isSetting || i.ends Activity.isSetting

/-- Since a moment, the batch size was set and interruptions were asked for, and that is all. -/
structure Bides (m m' : Moment) : Prop where
  history : ∃ since, m'.history = since ++ m.history ∧ ∀ i ∈ since, i.isSetting
  cursor : m'.cursor = { m.cursor with
    batchSize := m'.cursor.batchSize, interrupted := m'.cursor.interrupted }

section
variable {m m₁ m₂ : Moment} {l : Life} {a : Activity}

theorem Bides.refl (m : Moment) : Bides m m := ⟨⟨[], rfl, by simp⟩, rfl⟩

theorem Bides.trans (h : Bides m m₁) (h' : Bides m₁ m₂) : Bides m m₂ where
  history := by
    obtain ⟨since, hsince, hall⟩ := h.history
    obtain ⟨since', hsince', hall'⟩ := h'.history
    refine ⟨since' ++ since, by rw [hsince', hsince, List.append_assoc], fun i hi => ?_⟩
    exact (List.mem_append.1 hi).elim (hall' i) (hall i)
  cursor := by
    rw [h'.cursor, h.cursor]

/-- What may be called beside a call that waits is over at once. -/
theorem begin_of_isSetting (ha : a.isSetting) (l : Life) :
    (l.begin a).threads = l.threads ∧ Bides l.moment (l.begin a).moment := by
  cases a with
  | interrupt => exact ⟨rfl, ⟨[.ended .interrupt _, .begun .interrupt], rfl, by decide⟩, rfl⟩
  | setBatchSize n =>
    refine ⟨rfl, ⟨[.ended (.setBatchSize n) _, .begun (.setBatchSize n)], rfl, ?_⟩, rfl⟩
    simp [Incident.isSetting, Incident.begins, Incident.ends, Activity.isSetting]
  | _ => cases ha

end

/-! ## Before a pause -/

/-- Nothing was done but giving notices since a fetch has come back. -/
def CameBack (history : List Incident) : Prop :=
  ∃ (notices : List Notice) (q : Exchange) (x : Outcome q.Answer) (wasOpen : Bool)
    (earlier : List Incident),
    history = notices.map .noticed ++ .answered q x wasOpen :: earlier ∧ isFetch q

/-- The environment of a call beside which the batch size may be set, and interruptions asked for;
    it pauses only after a fetch that has settled nothing. -/
def amid : Environment Moment where
  take n m := m.record (.noticed n)
  demands q m := isPause q → m.cursor.isSettled = false ∧ CameBack m.history
  resumes q m x m' := ∃ m₁, Bides (m.record (.asked q)) m₁ ∧ m' = m₁.answer q x

/-- Where it is settled what comes, or a fetch has just come back. -/
def Timely (m : Moment) : Prop := m.cursor.isSettled ∨ CameBack m.history

/-- A program pauses only after a fetch that has settled nothing. -/
abbrev Paces {α : Type} (p : Program Cursor α) : Prop := Keeps amid Moment.cell (fun _ => True) p

/-- So does a program that leaves a moment where it is settled what comes, or a fetch has just come
    back, if it succeeds. -/
abbrev Times {α : Type} (p : Program Cursor α) (m : Moment) : Prop :=
  Ensures amid Moment.cell (fun o m' => (∃ a, o = .ok a) → Timely m') p m

section
variable {α : Type} {m : Moment}

theorem CameBack.noticed {history : List Incident} (h : CameBack history) (n : Notice) :
    CameBack (.noticed n :: history) := by
  obtain ⟨notices, q, x, wasOpen, earlier, rfl, hq⟩ := h
  exact ⟨n :: notices, q, x, wasOpen, earlier, rfl, hq⟩

theorem Timely.noticed (h : Timely m) (n : Notice) : Timely (m.record (.noticed n)) :=
  h.imp id fun h => h.noticed n

/-- A program that never pauses may always run. -/
theorem Detached.paces {T : Alteration → Prop} {p : Program Cursor α}
    (hp : Detached T (fun q => !isPause q) p) : Paces p := by
  have h := hp.after
  clear hp
  rintro m -
  induction p generalizing m with
  | done outcome => trivial
  | read next ih => exact ih _ (h _) m
  | write c next ih => exact ih h (m.put c)
  | note n next ih => exact ih h (m.record (.noticed n))
  | ask q next ih =>
    refine ⟨fun hpause => ?_, fun x m' _ => ih x (h.2 x) m'⟩
    have := (h.1 rfl (.error .cancelled)).1
    simp [hpause] at this

/-- Nothing is promised of a program that fails. -/
theorem timely_of_error {e : Failure} : (∃ a, (.error e : Outcome α) = .ok a) → Timely m := nofun

/-- The server cursor that is held is gone after a kill. -/
theorem times_killHeld (connection : Connection) : Times (killHeld (some connection)) m := by
  have hsend (target : ServerCursor) : Sendable amid
      (fun m => m.cursor.progress.serverCursor = none)
      (fun m => m.cursor.progress.serverCursor = none) (fun _ => True) target :=
    { send := fun _ _ w hw => ⟨nofun, by
        rintro x _ ⟨m₁, hbides, rfl⟩
        refine ⟨?_, fun _ _ => trivial⟩
        change m₁.cursor.progress.serverCursor = none
        rw [hbides.cursor]
        exact hw⟩
      fails := fun _ _ hw => hw
      back := fun _ _ hw => hw }
  simp only [killHeld, Program.ensures_bind, Program.ensures_get, Program.continues_ok,
    Moment.cell_load]
  split
  · rename_i hnone
    exact fun _ => .inl (isSettled_of_none hnone)
  · rename_i target _
    change Ensures amid Moment.cell _ (killCursor target (some connection)) (m.put m.cursor.forget)
    exact Program.ensures_mono (fun _ _ h _ => .inl (isSettled_of_none h.1))
      ((hsend target).ensures_killCursor_over connection rfl)

/-- What has come is followed up on at once, or its server cursor is gone. -/
theorem times_follow (h : CameBack m.history) (connection : Connection) (result : QueryResult) :
    Times (follow connection result) m := by
  simp only [follow, Times, Program.ensures_bind, Program.ensures_get, Program.continues_ok,
    Moment.cell_load]
  split
  · exact timely_of_error
  refine Program.ensures_bind.2 ((ensures_absorb_iff rfl).2 ?_)
  have hnotices : ∀ (ns : List Notice) (m : Moment), CameBack m.history →
      CameBack (ns.foldl (fun m n => amid.take n m) m).history := by
    intro ns
    induction ns with
    | nil => exact fun _ h => h
    | cons n ns ih => exact fun m h => ih (m.record (.noticed n)) (h.noticed n)
  have habsorbed := hnotices (dropRecords
    (m.cursor.progress.advance m.cursor.limit m.cursor.batchSize result).2) m h
  rw [Program.continues_ok]
  split
  · refine Program.ensures_bind.2 (Program.ensures_mono ?_ (times_killHeld connection))
    rintro (e | _) m' h'
    · exact timely_of_error
    · exact fun _ => h' ⟨(), rfl⟩
  · exact fun _ => .inr habsorbed

theorem times_fetchOver (target : ServerCursor) (connection : Connection) :
    Times (fetchOver target connection) m := by
  have hfetch := isFetch_fetchExchange m.cursor connection target
  rw [fetchOver_eq]
  refine Program.ensures_bind.2 (ensures_requestBatch.2 ⟨fun hpause => ?_, ?_⟩)
  · rw [isPause_of_isFetch (isFetch_fetchExchange _ _ _)] at hpause
    cases hpause
  rintro x _ ⟨m₁, -, rfl⟩
  split
  · refine times_follow (CameBack.noticed ?_ _) connection _
    exact ⟨[], _, x, _, m₁.history, rfl, hfetch⟩
  · exact timely_of_error

theorem times_fetch : Times fetch m := by
  simp only [fetch, Times, Program.ensures_bind, Program.ensures_get, Program.continues_ok,
    Moment.cell_load]
  rcases hs : m.cursor.progress.serverCursor with _ | target
  · exact fun _ => .inl (isSettled_of_none hs)
  have hfetching : Times (withConnection (fetchOver target)) m := by
    refine ensures_withConnection.2 ?_
    split
    · exact times_fetchOver target _
    · exact timely_of_error
    · refine ⟨fun h => absurd h Bool.false_ne_true, fun x m' _ => ?_⟩
      rcases x with e | connection
      · exact timely_of_error
      · exact Program.ensures_mono (fun _ _ h ho => (h ho).noticed _)
          (times_fetchOver target connection)
  change Ensures _ _ _ ((withConnection (fetchOver target)).attempt >>= conclude) m
  refine Program.ensures_bind.2 (Program.ensures_attempt.2 (Program.ensures_mono ?_ hfetching))
  rintro (e | verdict) m' h'
  · refine Program.ensures_bind.2 (Program.ensures_mono (fun o m'' _ => ?_)
      ((sizeless_giveUp e).pauseless.paces m' trivial))
    rcases o with e' | _ <;> exact timely_of_error
  · have htimely := h' ⟨verdict, rfl⟩
    cases verdict with
    | kept => exact fun _ => htimely
    | _ => exact ensures_releaseResources.2 fun _ =>
        settle_of_take (fun _ _ h => h.noticed _) (fun _ h => h) htimely

theorem paces_pauseUnlessSettled (h : Timely m) :
    Ensures amid Moment.cell (fun _ _ => True) pauseUnlessSettled m := by
  simp only [pauseUnlessSettled, Program.ensures_bind, Program.ensures_get, Program.continues_ok,
    Moment.cell_load]
  split
  · trivial
  rename_i hs
  refine ensures_waitBeforeRetry.2 ?_
  split
  · trivial
  refine ⟨fun _ => ⟨eq_false_of_ne_true hs, h.resolve_left hs⟩, fun x m' _ => ?_⟩
  rcases x with e | _
  · trivial
  dsimp only
  split
  · trivial
  · split <;> trivial

theorem paces_awaitBatch (rounds : Nat) : Paces (awaitBatch rounds) := by
  induction rounds with
  | zero => exact keeps_pure _
  | succ rounds ih =>
    rw [awaitBatch_succ]
    refine keeps_bind keeps_get fun c => ?_
    split
    · exact keeps_pure _
    split
    · exact keeps_pure _
    intro m _
    refine Program.ensures_bind.2 (Program.ensures_mono ?_ times_fetch)
    rintro (e | _) m₁ h₁
    · trivial
    refine Program.ensures_bind.2 (Program.ensures_mono ?_
      (paces_pauseUnlessSettled (h₁ ⟨(), rfl⟩)))
    rintro (e | _) m₂ -
    · trivial
    · exact ih m₂ trivial

theorem paces_hasNext (rounds : Nat) : Paces (Cursor.hasNext rounds) :=
  keeps_bind keeps_ensureOpen fun _ => paces_awaitBatch rounds

/-- Every activity pauses only after a fetch that has settled nothing. -/
theorem paces_program (a : Activity) : Paces a.program := by
  cases a with
  | hasNext rounds => exact keeps_bind (paces_hasNext rounds) fun _ => keeps_pure _
  | next rounds =>
    refine keeps_bind (keeps_bind (paces_hasNext rounds) fun available => ?_) fun _ => keeps_pure _
    cases available with
    | ready => exact keeps_bind sizeless_takeBatch.pauseless.paces fun _ => keeps_pure _
    | _ => exact keeps_pure _
  | opening first loopRuns =>
    exact keeps_bind (pauseless_start first loopRuns).paces fun _ => keeps_pure _
  | tryNext => exact keeps_bind pauseless_tryNext.paces fun _ => keeps_pure _
  | close loopRuns =>
    exact keeps_bind (sizeless_close loopRuns).pauseless.paces fun _ => keeps_pure _
  | interrupt => exact fun _ _ => trivial
  | setBatchSize n => exact fun _ _ => trivial
  | cleanup target =>
    exact keeps_bind (sizeless_cleanup target).pauseless.paces fun _ => keeps_pure _

end

/-! ## Calls that wait -/

/-- Callers of a blocking cursor, of whom none closes it; answers are values or ordinary failures,
    and no interruptions. -/
abbrev unclosed : Regime :=
  ⟨true, fun a => a.isClose = false, fun q x => Custody.Ordinary q x ∧ x ≠ .error .interrupted⟩

/-- A call waits that has come to its exchange in an earlier life, and others have only set the
    batch size and interrupted since. -/
structure Life.Biding (start asked l : Life) (a : Activity) : Prop where
  reached : Life.Reaches unclosed start asked
  later : Life.Reaches unclosed asked l
  bides : Bides asked.moment l.moment
  threads : l.threads = asked.threads
  waits : ∃ m q next, asked = ⟨m.record (.asked q), [⟨a, .ask q next⟩]⟩ ∧
    Ensures amid Moment.cell (fun _ _ => True) (.ask q next) m

section
variable {plan : Plan} {c : Cursor} {loopRuns : Bool} {start asked l : Life} {a : Activity}
  {m : Moment}

theorem asks_proceed (a : Activity) (ts : List Thread) {p : Program Cursor Yield} :
    ∀ {m : Moment}, Ensures amid Moment.cell (fun _ _ => True) p m →
      (Life.proceed a ts p m).threads = ts ∨
      ∃ m₁ q next, Life.proceed a ts p m = ⟨m₁.record (.asked q), ⟨a, .ask q next⟩ :: ts⟩ ∧
        Ensures amid Moment.cell (fun _ _ => True) (.ask q next) m₁ := by
  induction p with
  | done outcome => exact fun _ => .inl rfl
  | read next ih => exact fun h => ih _ h
  | write c next ih => exact fun h => ih h
  | note n next ih => exact fun h => ih h
  | ask q next ih => exact fun {m} h => .inr ⟨m, q, next, rfl, h⟩

theorem biding_proceed {p : Program Cursor Yield}
    (hl : Life.Reaches unclosed start (Life.proceed a [] p m))
    (h : Ensures amid Moment.cell (fun _ _ => True) p m) :
    (Life.proceed a [] p m).threads = [] ∨
      ∃ asked a', Life.Biding start asked (Life.proceed a [] p m) a' := by
  refine (asks_proceed a [] h).imp id ?_
  rintro ⟨m₁, q, next, heq, hensures⟩
  exact ⟨_, a, hl, .refl, .refl _, rfl, m₁, q, next, heq, hensures⟩

theorem kept_of_unclosed (hc : ofPlan .blocking plan = .ok c)
    (hl : Life.Reaches unclosed (Life.opening c plan.first loopRuns) l) : Custody.Kept l.moment :=
  Custody.kept_of_reaches hc (hl.mono (fun _ => rfl) (fun _ _ => trivial) fun _ _ h => And.left h)

theorem isSetting_of_called {l : Life} (h : Life.MayCall unclosed a l) (hl : l.threads ≠ []) :
    a.isSetting := by
  have hretrieval : a.isRetrieval = false := by
    by_contra hne
    exact hl (h.single (by simpa using hne))
  have hoffered : a.isClose = false := h.offered
  have hoperation := h.operation
  cases a <;> simp_all [Activity.isRetrieval, Activity.isClose, Activity.isOperation,
    Activity.isOpening, Activity.isCleanup, Activity.isSetting]

/-- In the life of a blocking cursor that nobody closes, one call waits at most. -/
theorem biding_of_reaches (hc : ofPlan .blocking plan = .ok c)
    (hl : Life.Reaches unclosed (Life.opening c plan.first loopRuns) l) :
    l.threads = [] ∨
      ∃ asked a, Life.Biding (Life.opening c plan.first loopRuns) asked l a := by
  induction hl with
  | refl => exact biding_proceed .refl (paces_program _ _ trivial)
  | @tail l₁ l₂ hl₁ hstep ih =>
    have hl₂ := hl₁.tail hstep
    cases hstep with
    | @call _ a hcall =>
      rcases ih with hnil | ⟨asked, a', h⟩
      · have hbegin : l₁.begin a =
            Life.proceed a [] a.program (l₁.moment.record (.begun a)) := by
          rw [Life.begin, hnil]
        rw [hbegin] at hl₂ ⊢
        exact biding_proceed hl₂ (paces_program a _ trivial)
      · have hne : l₁.threads ≠ [] := by
          obtain ⟨m, q, next, rfl, -⟩ := h.waits
          rw [h.threads]
          exact List.cons_ne_nil _ _
        obtain ⟨hthreads, hbides⟩ := begin_of_isSetting (isSetting_of_called hcall hne) l₁
        exact .inr ⟨asked, a', h.reached, h.later.tail (.call hcall), h.bides.trans hbides,
          hthreads.trans h.threads, h.waits⟩
    | run hcleanups =>
      rw [(kept_of_unclosed hc hl₁).idle] at hcleanups
      simp at hcleanups
    | @resume m before after a q next x order hx =>
      obtain rfl := order rfl
      rcases ih with hnil | ⟨asked, a', h⟩
      · cases hnil
      obtain ⟨m₀, q', next', rfl, hensures⟩ := h.waits
      have hthreads := h.threads
      cases hthreads
      exact biding_proceed hl₂ (hensures.2 x _ ⟨m, h.bides, rfl⟩)

end

/-! ## How interrupted calls end -/

/-- If a call has just ended interrupted, it has waited right before. -/
def Excused (m : Moment) : Prop :=
  ∀ a earlier, m.history = .ended a (.error .interrupted) :: earlier → woken earlier

/-- What activities promise about this. -/
def excuses : Protocol :=
  ⟨Excused, fun _ _ => True, fun _ _ => True, fun _ x => x ≠ .error .interrupted⟩

/-- A program raises an interruption only right after a wait. -/
def Heeds {α : Type} (absorbing : Bool) (p : Program Cursor α) : Prop :=
  ∀ w, excuses.Holds absorbing (fun o w' => o = .error .interrupted → woken w'.now.history) p w

section
variable {α β : Type} {absorbing : Bool} {p : Program Cursor α} {f : α → Program Cursor β}

theorem quiet_excuses : Quiet (excuses.environment absorbing) where
  demands _ _ := ⟨nofun, trivial, fun _ => trivial⟩
  resumes _ _ _ _ h := h.1

theorem heeds_of_unraised (h : Unraised (excuses.environment absorbing) Stretch.cell p) :
    Heeds absorbing p :=
  fun w => Program.ensures_mono (fun _ _ hne he => absurd he hne) (h w)

theorem heeds_bind (hp : Heeds absorbing p) (hf : ∀ a, Heeds absorbing (f a)) :
    Heeds absorbing (p >>= f) := by
  intro w
  refine Program.ensures_bind.2 (Program.ensures_mono ?_ (hp w))
  rintro (e | a) w' h
  · exact fun he => h (congrArg Except.error (Except.error.inj he))
  · exact hf a w'

theorem heeds_pure (a : α) : Heeds absorbing (pure a : Program Cursor α) := fun _ => nofun

theorem heeds_waitBeforeRetry : Heeds absorbing waitBeforeRetry := by
  intro w
  refine ensures_waitBeforeRetry.2 ?_
  split
  · rename_i e he
    exact fun hi => absurd (Except.error.inj hi ▸ he) (ofInterval_ne_interrupted _)
  refine ⟨quiet_excuses.demands _ w, ?_⟩
  rintro (e | _) w' ⟨hne, m, -, -, -, rfl⟩
  · exact fun hi => absurd hi (error_ne_interrupted hne)
  dsimp only
  split
  · exact fun _ => rfl
  · split <;> exact nofun

theorem heeds_awaitBatch (rounds : Nat) : Heeds absorbing (awaitBatch rounds) := by
  induction rounds with
  | zero => exact heeds_pure _
  | succ rounds ih =>
    rw [awaitBatch_succ]
    refine heeds_bind (fun _ => nofun) fun c => ?_
    split
    · exact heeds_pure _
    split
    · exact heeds_pure _
    refine heeds_bind (heeds_of_unraised (unraised_fetch quiet_excuses)) fun _ =>
      heeds_bind (heeds_bind (fun _ => nofun) fun c => ?_) fun _ => ih
    split
    · exact heeds_pure ()
    · exact heeds_waitBeforeRetry

theorem heeds_hasNext (rounds : Nat) : Heeds absorbing (Cursor.hasNext rounds) :=
  heeds_bind (heeds_of_unraised unraised_ensureOpen) fun _ => heeds_awaitBatch rounds

theorem heeds_program (a : Activity) : Heeds absorbing a.program := by
  have hquiet {α : Type} {p : Program Cursor α}
      (h : Unraised (excuses.environment absorbing) Stretch.cell p) {f : α → Yield} :
      Heeds absorbing (p >>= fun a => pure (f a)) :=
    heeds_of_unraised (unraised_bind h fun _ => unraised_pure _)
  cases a with
  | hasNext rounds => exact heeds_bind (heeds_hasNext rounds) fun _ => heeds_pure _
  | next rounds =>
    refine heeds_bind (heeds_bind (heeds_hasNext rounds) fun available => ?_) fun _ => heeds_pure _
    refine heeds_of_unraised ?_
    cases available with
    | ready => exact unraised_bind unraised_takeBatch fun _ => unraised_pure _
    | _ => exact unraised_pure _
  | opening first loopRuns => exact hquiet (unraised_start quiet_excuses first loopRuns)
  | tryNext =>
    refine hquiet ?_
    rw [tryNext_eq]
    refine unraised_bind unraised_ensureOpen fun _ => unraised_bind (unraised_get fun c => ?_)
      fun _ => unraised_get fun c => ?_
    · split
      · exact unraised_pure ()
      · exact unraised_fetch quiet_excuses
    · split
      · exact unraised_bind unraised_takeBatch fun _ => unraised_pure _
      · exact unraised_pure _
  | close loopRuns => exact hquiet (unraised_close quiet_excuses loopRuns)
  | interrupt => exact hquiet (unraised_modify _)
  | setBatchSize n => exact hquiet (unraised_modify _)
  | cleanup target => exact hquiet (unraised_cleanup quiet_excuses target)

theorem behaves_excused (a : Activity) (w : Stretch) : excuses.Behaves a w a.program :=
  Program.ensures_mono (fun o _ h => ⟨fun _ _ heq => by
      obtain ⟨hended, rfl⟩ := List.cons.inj heq
      exact h (Incident.ended.inj hended).2, trivial, fun _ => trivial⟩)
    (heeds_program a w)

end

/-- **Nothing is interrupted but waits.** -/
theorem excused_of_reaches {r : Regime} {c : Cursor} {first : QueryResult} {loopRuns : Bool}
    {l : Life} (hr : ∀ q x, r.admits q x → x ≠ .error .interrupted)
    (hl : Life.Reaches r (Life.opening c first loopRuns) l) : Excused l.moment := by
  have hsound : excuses.Sound fun _ => True :=
    { refl := fun _ => ⟨trivial, trivial⟩
      respects_trans := fun _ _ _ _ _ => trivial
      spares_trans := fun _ _ _ _ _ => trivial
      call := fun a _ _ _ _ => behaves_excused a _
      run := fun _ _ _ _ _ _ => behaves_excused _ _ }
  exact hsound.invariant_of_reaches (hl.mono nofun (fun _ _ => trivial) hr)
    (Protocol.orderly_opening (behaves_excused _ _))

/-! ## Interrupted calls -/

section
variable {r : Regime} {plan : Plan} {c : Cursor} {first : QueryResult} {loopRuns : Bool}
  {start asked l l' : Life} {a : Activity} {m : Moment} {ts : List Thread} {d : Duration}
  {wasOpen : Bool} {earlier : List Incident}

theorem ended_proceed {b : Activity} {o : Outcome Yield} {q : Exchange} {x : Outcome q.Answer}
    {p : Program Cursor Yield} : ∀ {m : Moment},
      (Life.proceed a ts p m).moment.history = .ended b o :: .answered q x wasOpen :: earlier →
      a = b ∧ m.history = .answered q x wasOpen :: earlier := by
  induction p with
  | done outcome =>
    intro m h
    obtain ⟨hended, hhistory⟩ := List.cons.inj h
    exact ⟨(Incident.ended.inj hended).1, hhistory⟩
  | read next ih => exact fun h => ih _ h
  | write c next ih => exact fun {m} h => ih (m := m.put c) h
  | note n next ih =>
    intro m h
    cases (ih h).2
  | ask q next ih =>
    intro m h
    cases h

/-- An activity that has ended right after an answer was waiting for it. -/
theorem answered_of_reaches {o : Outcome Yield} {q : Exchange} {x : Outcome q.Answer}
    (hl : Life.Reaches r (Life.opening c first loopRuns) l)
    (h : l.moment.history = .ended a o :: .answered q x wasOpen :: earlier) :
    ∃ m before after next,
      Life.Reaches r (Life.opening c first loopRuns) ⟨m, before ++ ⟨a, .ask q next⟩ :: after⟩ ∧
      Life.Step r ⟨m, before ++ ⟨a, .ask q next⟩ :: after⟩ l ∧
      l = Life.proceed a (before ++ after) (next x) (m.answer q x) ∧ m.history = earlier := by
  rcases Relation.ReflTransGen.cases_tail hl with rfl | ⟨l₁, hl₁, hstep⟩
  · cases (ended_proceed h).2
  have hl₁' := hstep
  cases hstep with
  | call _ => cases (ended_proceed h).2
  | run _ => cases (ended_proceed h).2
  | @resume m before after b q' next x' order hx =>
    obtain ⟨rfl, hhistory⟩ := ended_proceed h
    cases hhistory
    exact ⟨m, before, after, next, hl₁, hl₁', rfl, rfl⟩

/-- All is as the last fetch of a call has left it that was interrupted while it waited, but for the
    batch size, and what comes then is what would have come. -/
structure Unscathed (start asked l : Life) (a : Activity) (d : Duration) : Prop where
  reached : Life.Reaches unclosed start asked
  later : Life.Reaches unclosed asked l
  /-- The call waited, and had done nothing since a fetch came back but giving notices. -/
  fetched : ∃ past, asked.moment.history = .asked (.pause d) :: past ∧ CameBack past
  /-- Meanwhile others have only set the batch size and interrupted. -/
  aside : ∃ since wasOpen, l.moment.history = .ended a (.error .interrupted) ::
    .answered (.pause d) (.ok ()) wasOpen :: (since ++ asked.moment.history) ∧
      ∀ i ∈ since, i.isSetting
  cursor : l.moment.cursor = { asked.moment.cursor with
    batchSize := l.moment.cursor.batchSize, interrupted := false }
  state : l.moment.cursor.state = .awaitingFetch
  unreleased : l.moment.cursor.released = false
  threads : l.threads = []
  /-- What the call had left to do is what the same call does anew. -/
  again : ∃ next, asked.threads = [⟨a, .ask (.pause d) next⟩] ∧ ∃ rounds, ∀ m ts,
    m.cursor.closed = false → m.cursor.interrupted = false →
      Life.proceed a ts (next (.ok ())) m = Life.proceed a ts (a.again rounds).program m
  /-- What is handed out from now on is what arrives from now on. -/
  onward : ∀ l' new, Life.Reaches unclosed l l' → l'.moment.history = new ++ l.moment.history →
    l'.moment.handedOut.flatten ++ l'.moment.atHand =
      l.moment.handedOut.flatten ++ new.reverse.flatMap Incident.arrivals

theorem proceed_ensureOpen {rest : Program Cursor Yield} (hopen : m.cursor.closed = false) :
    Life.proceed a ts (ensureOpen >>= fun _ => rest) m = Life.proceed a ts rest m := by
  change Life.proceed a ts ((if m.cursor.closed then _ else _) >>= _) m = _
  rw [if_neg (by simp [hopen])]
  rfl

theorem proceed_wake_of_open {rest : Program Cursor Yield} (hopen : m.cursor.closed = false)
    (hflag : m.cursor.interrupted = false) :
    Life.proceed a ts (wake >>= fun _ => rest) m = Life.proceed a ts rest m := by
  change Life.proceed a ts
    ((if m.cursor.interrupted then _ else if m.cursor.closed then _ else _) >>= _) m = _
  rw [if_neg (by simp [hflag]), if_neg (by simp [hopen])]
  rfl

/-- Where no batch is at hand, what is handed out from then on is what arrives from then on. -/
theorem onward_of_reaches {mode : Mode} (hc : ofPlan mode plan = .ok c)
    (hl : Life.Reaches r (Life.opening c plan.first loopRuns) l) (hl' : Life.Reaches r l l')
    (hnone : l.moment.cursor.progress.nextBatch = none) {new : List Incident}
    (hnew : l'.moment.history = new ++ l.moment.history) :
    l'.moment.handedOut.flatten ++ l'.moment.atHand =
      l.moment.handedOut.flatten ++ new.reverse.flatMap Incident.arrivals := by
  have hbooks := (books_of_reaches hc (reaches_anyOrder hl)).order
  have hbooks' := (books_of_reaches hc (reaches_anyOrder (hl.trans hl'))).order
  simp only [List.append_nil] at hbooks hbooks'
  rw [Moment.atHand, hnone, Option.getD_none, List.append_nil] at hbooks
  rw [hbooks', hbooks, Moment.arrivals, hnew]
  simp [Moment.arrivals]

theorem interrupted_of_ofPlan {mode : Mode} (hc : ofPlan mode plan = .ok c) :
    c.interrupted = false := by
  obtain ⟨settings, rfl⟩ := exists_of_ofPlan hc
  rfl

/-- A call that is interrupted has waited; it takes the interruption back, and leaves the rest. -/
theorem broken_of_reaches (hc : c.interrupted = false)
    (hl : Life.Reaches r (Life.opening c first loopRuns) l)
    (h : l.moment.history = .ended a (.error .interrupted) ::
      .answered (.pause d) (.ok ()) wasOpen :: earlier) :
    ∃ m before after next,
      Life.Reaches r (Life.opening c first loopRuns)
        ⟨m, before ++ ⟨a, .ask (.pause d) next⟩ :: after⟩ ∧
      Life.Step r ⟨m, before ++ ⟨a, .ask (.pause d) next⟩ :: after⟩ l ∧
      l = ⟨((m.answer (.pause d) (.ok ())).put { m.cursor with interrupted := false }).record
        (.ended a (.error .interrupted)), before ++ after⟩ ∧
      ∃ rounds, ∀ m ts, m.cursor.closed = false → m.cursor.interrupted = false →
        Life.proceed a ts (next (.ok ())) m = Life.proceed a ts (a.again rounds).program m := by
  obtain ⟨m, before, after, next, hbefore, hstep, hproceed, hearlier⟩ := answered_of_reaches hl h
  obtain ⟨-, rest, hrest, -, ⟨rounds, hagain⟩, -⟩ :=
    (rousable_of_reaches hbefore ⟨a, .ask (.pause d) next⟩ (by simp)).1 rfl (.ok ())
  have hflag : m.cursor.interrupted = true := by
    have hheard := (attentive_of_reaches hc hl).heard
    rw [h] at hheard
    rw [(attentive_of_reaches hc hbefore).flag, hearlier]
    exact (hheard.1 rfl).1 rfl
  refine ⟨m, before, after, next, hbefore, hstep, ?_, rounds, fun m ts hopen hflag => ?_⟩
  · rw [hproceed, hrest]
    exact proceed_wake hflag
  · rw [hrest, hagain, proceed_wake_of_open hopen hflag, proceed_ensureOpen hopen]

/-- Where a call pauses nothing is settled, and nothing released. -/
theorem Life.Biding.pausing (hc : ofPlan .blocking plan = .ok c) {b : Activity}
    (h : Life.Biding (Life.opening c plan.first loopRuns) asked l b) {before after : List Thread}
    {next : Outcome Unit → Program Cursor Yield}
    (hthreads : l.threads = before ++ ⟨a, .ask (.pause d) next⟩ :: after) :
    before = [] ∧ after = [] ∧ ∃ m : Moment, asked = ⟨m.record (.asked (.pause d)),
      [⟨a, .ask (.pause d) next⟩]⟩ ∧ CameBack m.history ∧ m.cursor.state = .awaitingFetch ∧
        m.cursor.released = false := by
  obtain ⟨m, q, next', rfl, hensures⟩ := h.waits
  have heq := h.threads.symm.trans hthreads
  cases before with
  | cons t before => simp at heq
  | nil =>
    cases heq
    obtain ⟨hsettled, hback⟩ := hensures.1 rfl
    have hheld : m.cursor.progress.serverCursor.isSome := by
      have hexhausted := (isSettled_eq_false_iff.1 hsettled).2
      rw [isExhausted, Bool.or_eq_false_iff] at hexhausted
      simpa using hexhausted.1
    obtain ⟨hopen, hreleased⟩ := (kept_of_unclosed hc h.reached).held hheld
    exact ⟨rfl, rfl, m, rfl, hback, state_eq_awaitingFetch_iff.2 ⟨hopen, hsettled⟩, hreleased⟩

/-- **An interruption costs nothing.** -/
theorem unscathed_of_reaches (hc : ofPlan .blocking plan = .ok c)
    (hl : Life.Reaches unclosed (Life.opening c plan.first loopRuns) l)
    (h : l.moment.history = .ended a (.error .interrupted) :: earlier) :
    ∃ asked d, Unscathed (Life.opening c plan.first loopRuns) asked l a d := by
  have hwoken : woken earlier := excused_of_reaches (fun _ _ => And.right) hl _ _ h
  obtain ⟨d, wasOpen, earlier, rfl⟩ := exists_of_woken hwoken
  obtain ⟨m, before, after, next, hbefore, hstep, rfl, hagain⟩ :=
    broken_of_reaches (interrupted_of_ofPlan hc) hl h
  rcases biding_of_reaches hc hbefore with hnil | ⟨asked, _, hbiding⟩
  · simp at hnil
  obtain ⟨rfl, rfl, m₀, rfl, hback, hawaiting, hreleased⟩ := hbiding.pausing hc rfl
  obtain ⟨since, hsince, hsetting⟩ := hbiding.bides.history
  have hcursor : { m.cursor with interrupted := false } = { m₀.cursor with
      batchSize := m.cursor.batchSize, interrupted := false } :=
    congrArg (fun c => { c with interrupted := false }) hbiding.bides.cursor
  have hstate : Cursor.state { m.cursor with interrupted := false } = .awaitingFetch :=
    (congrArg Cursor.state hcursor).trans hawaiting
  have hnone : m.cursor.progress.nextBatch = none := by
    have hbatch := (isSettled_eq_false_iff.1 (state_eq_awaitingFetch_iff.1 hstate).2).1
    simpa [hasBatch] using hbatch
  exact ⟨_, d,
    { reached := hbiding.reached
      later := hbiding.later.tail hstep
      fetched := ⟨m₀.history, rfl, hback⟩
      aside := ⟨since, !m.cursor.closed, by rw [← hsince]; rfl, hsetting⟩
      cursor := hcursor
      state := hstate
      unreleased := (congrArg Cursor.released hcursor).trans hreleased
      threads := rfl
      again := ⟨next, rfl, hagain⟩
      onward := fun _ _ hl' hnew => onward_of_reaches hc hl hl' hnone hnew }⟩

/-! ## The main theorem -/

/-- **Interruptions are raised once, by waits, and cost nothing.**  However the callers of a
    blocking cursor that nobody closes interrupt it: a wait that is over raises an interruption just
    if one was asked for since the last was raised.  As long as none is raised, all goes as it would
    without interruptions.  And a call ends interrupted only at the end of a wait, and leaves all as
    its last fetch has left it. -/
theorem interruptions_of_reaches (hc : ofPlan .blocking plan = .ok c)
    (hl : Life.Reaches unclosed (Life.opening c plan.first loopRuns) l) :
    (∀ later d wasOpen earlier,
      l.moment.history = later ++ .answered (.pause d) (.ok ()) wasOpen :: earlier →
        ((∃ a, later.getLast? = some (.ended a (.error .interrupted))) ↔ pending earlier)) ∧
    (∀ l', Life.Reaches unclosed l l' → raised l'.moment.history = raised l.moment.history →
      Life.Reaches unclosed.calm l.calm l'.calm) ∧
    ∀ a earlier, l.moment.history = .ended a (.error .interrupted) :: earlier →
      ∃ asked d, Unscathed (Life.opening c plan.first loopRuns) asked l a d := by
  have hattentive := attentive_of_reaches (interrupted_of_ofPlan hc) hl
  exact ⟨fun _ _ _ _ heq => hattentive.heard.raises_iff hattentive.woken heq,
    fun _ hl' heq => (calm_of_reaches (interrupted_of_ofPlan hc) hl hl').2 heq,
    fun _ _ h => unscathed_of_reaches hc hl h⟩

end

/-- A cursor that has fetched an empty batch, and is interrupted while it waits. -/
def interruptedInside : Life :=
  let opened := Life.opening (sample .blocking 0) (Plan.sample 0).first true
  let waiting := (((opened.begin (.next 1)).begin (.next 2)).respond (hesitant [])).respond
    (hesitant [])
  (waiting.begin .interrupt).respond (hesitant [])

theorem interruptions_of_interruptedInside : interruptedInside.threads = [] ∧
    (∃ d wasOpen earlier, interruptedInside.moment.history =
      .ended (.next 2) (.error .interrupted) :: .answered (.pause d) (.ok ()) wasOpen :: earlier ∧
        pending earlier) ∧
    ∃ asked d, Unscathed (Life.opening (sample .blocking 0) (Plan.sample 0).first true) asked
      interruptedInside (.next 2) d := by
  have hadmits : ∀ q, unclosed.admits q (hesitant [] q) := fun q => by
    obtain ⟨x, hx⟩ : ∃ x, hesitant [] q = .ok x := by cases q <;> exact ⟨_, rfl⟩
    exact ⟨fun e he => by simp [hx] at he, by simp [hx]⟩
  have hopened : Life.Reaches unclosed
      (Life.opening (sample .blocking 0) (Plan.sample 0).first true)
      (Life.opening (sample .blocking 0) (Plan.sample 0).first true) := .refl
  have htaken := hopened.begin (a := .next 1)
    ⟨rfl, rfl, by decide +kernel, fun _ => List.isEmpty_iff.1 (by decide +kernel)⟩
  have hfetching := htaken.begin (a := .next 2)
    ⟨rfl, rfl, by decide +kernel, fun _ => List.isEmpty_iff.1 (by decide +kernel)⟩
  have hwaiting := (hfetching.respond _ hadmits).respond _ hadmits
  have hreached := (hwaiting.begin (a := .interrupt)
    ⟨rfl, rfl, by decide +kernel, by simp [Activity.isRetrieval]⟩).respond _ hadmits
  obtain ⟨hwaits, -, hends⟩ := interruptions_of_reaches (ofPlan_sample .blocking 0) hreached
  refine ⟨List.isEmpty_iff.1 (by decide +kernel), ⟨_, _, _, rfl, ?_⟩, hends _ _ rfl⟩
  exact (hwaits [_] _ _ _ rfl).1 ⟨_, rfl⟩

end DocumentClient.Cursor
