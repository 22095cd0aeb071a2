/-
  Exhausted and closed cursors.

  A life takes turns if an operation is called only where none is under way; scheduled
  kills may begin and go on at any time.  `Within` is its invariant: a server cursor is held
  only where the limit leaves something to fetch, so that an exhausted cursor has none.
  `Life.Exhausted` and `Life.Closed` say what the operations of an exhausted or a closed cursor
  come to: each is over at once, and a scheduled kill that goes on beside them does not show.

  `terminal_of_takesTurns`: a closed cursor stays closed, and an exhausted one stays exhausted
  until it is closed, without a kill.
-/
import DocumentClient.Proofs.Cursor.Balance
import DocumentClient.Proofs.Cursor.Flavours

namespace DocumentClient.Cursor

open Program (Ensures Environment)

variable {l l' : Life} {a : Activity} {m m₀ : Moment} {w : Stretch} {absorbing loopRuns : Bool}

/-! ## Turns -/

/-- One step of a life in which calls take turns: an operation is called where none is under way,
    a scheduled kill begins, or an answer comes. -/
inductive Life.Turn : Life → Life → Prop where
  | call {l : Life} {a : Activity} (hrest : l.AtRest) (ha : a.isOperation) : Turn l (l.begin a)
  | run {l : Life} {before after : List ServerCursor} {target : ServerCursor}
      (h : l.moment.cursor.cleanups = before ++ target :: after) :
      Turn l ((l.unscheduled (before ++ after)).begin (.cleanup target))
  | resume {m : Moment} {before after : List Thread} {a : Activity} {q : Exchange}
      {next : Outcome q.Answer → Program Cursor Yield} (x : Outcome q.Answer) :
      Turn ⟨m, before ++ ⟨a, .ask q next⟩ :: after⟩
        (Life.proceed a (before ++ after) (next x) (m.answer q x))

/-- Which lives can come of another where calls take turns. -/
def Life.TakesTurns : Life → Life → Prop := Relation.ReflTransGen Life.Turn

theorem Activity.of_isCleanup {a : Activity} (ha : a.isCleanup) :
    a.isOpening = false ∧ a.isRetrieval = false := by
  cases a <;> simp_all [Activity.isCleanup, Activity.isOpening, Activity.isRetrieval]

/-- To take turns is one of the orders in which activities may go on. -/
theorem Life.Turn.step (h : l.Turn l') : Life.Step anyOrder l l' := by
  cases h with
  | @call l a hrest ha =>
    exact .call ⟨trivial, ha, fun t ht => (Activity.of_isCleanup (hrest t ht)).1,
      fun _ t ht => (Activity.of_isCleanup (hrest t ht)).2⟩
  | run h => exact .run h
  | resume x => exact .resume (fun h => absurd h Bool.false_ne_true) trivial

theorem Life.TakesTurns.reaches (h : l.TakesTurns l') : Life.Reaches anyOrder l l' := by
  induction h with
  | refl => exact .refl
  | tail _ hturn ih => exact .tail ih hturn.step

theorem Life.TakesTurns.begin {l₀ : Life} (h : l₀.TakesTurns l) (hrest : l.AtRest)
    (ha : a.isOperation) : l₀.TakesTurns (l.begin a) :=
  .tail h (.call hrest ha)

theorem Life.TakesTurns.respond {l₀ : Life} (h : l₀.TakesTurns l)
    (answers : (q : Exchange) → Outcome q.Answer) : l₀.TakesTurns (l.respond answers) := by
  obtain ⟨m, _ | ⟨⟨a, p⟩, after⟩⟩ := l
  · exact h
  · cases p with
    | ask q next =>
      have hturn : Life.Turn ⟨m, [] ++ ⟨a, .ask q next⟩ :: after⟩ _ := .resume (answers q)
      exact .tail h hturn
    | _ => exact h

/-! ## Server cursors within the limit -/

/-- A server cursor is held only where the limit leaves something to fetch. -/
def Within (m : Moment) : Prop := m.cursor.progress.serverCursor.isSome →
  DocumentClient.limitReached m.cursor.limit m.cursor.progress.delivered = false

theorem within_of_none (hs : m.cursor.progress.serverCursor = none) : Within m :=
  fun h => by simp [hs] at h

/-- What activities promise about the server cursor. -/
def holding : Protocol where
  invariant := Within
  respects _ _ := True
  spares _ _ := True
  admits _ _ := True

/-- A program that keeps a server cursor within the limit. -/
abbrev Confines {α : Type} (absorbing : Bool) (p : Program Cursor α) : Prop :=
  Keeps (holding.environment absorbing) Stretch.cell (fun w => Within w.now) p

theorem ask_within (q : Exchange) (hw : Within w.now) :
    (holding.environment absorbing).demands q w ∧
      ∀ x w', (holding.environment absorbing).resumes q w x w' → Within w'.now := by
  refine ⟨⟨hw, trivial, fun _ => trivial⟩, ?_⟩
  rintro x _ ⟨-, m, hm, -, -, rfl⟩
  exact hm

theorem closable_within :
    Closable (holding.environment absorbing) Stretch.cell (fun w => Within w.now) where
  ask q _ _ hw := ask_within q hw
  log _ _ _ hw := hw
  giveBack _ _ _ _ _ hw := hw
  forget _ _ := within_of_none rfl
  settle w hw := by
    rw [settle_stretch]
    unfold Within
    rw [Moment.settled_cursor]
    exact hw
  shut _ hw := hw
  schedule _ _ hw := hw
  interrupt _ _ hw := hw

/-- A server cursor is held within the limit after a batch, unless it is to be killed. -/
theorem ensures_absorb_within (result : QueryResult) :
    Ensures (holding.environment absorbing) Stretch.cell
      (fun o w' => ∃ v, o = .ok v ∧ (v.followUp ≠ .kill → Within w'.now)) (absorb result) w := by
  refine ensures_absorb_of fun p v w₁ hadvances _ => ⟨_, rfl, fun hv hsome => ?_⟩
  simp only [Stretch.cell_store, Moment.put_cursor] at hsome
  cases hadvances.fate with
  | kept _ hl _ _ => exact hl
  | limitReached _ _ _ => simp [Verdict.followUp] at hv
  | ended _ hs =>
    have hs' : p.serverCursor = none := hs
    simp [hs'] at hsome
  | dropped _ _ _ hs =>
    have hs' : p.serverCursor = none := hs
    simp [hs'] at hsome

/-- A kill leaves no server cursor, whatever was there before. -/
theorem ensures_killHeld_within (given : Option Connection) :
    Ensures (holding.environment absorbing) Stretch.cell (fun _ w' => Within w'.now)
      (killHeld given) w :=
  closable_within.toUndisturbed.ensures_killHeld (within_of_none rfl) (fun hs => within_of_none hs)
    given

theorem ensures_scheduleCleanup_within (loopRuns : Bool) :
    Ensures (holding.environment absorbing) Stretch.cell (fun _ w' => Within w'.now)
      (scheduleCleanup loopRuns) w := by
  simp only [scheduleCleanup, Program.ensures_bind, Program.ensures_get, Program.continues_ok]
  split
  · rename_i hs
    exact closable_within.tended.keeps_releaseResources w (within_of_none hs)
  refine Program.ensures_bind.2 ?_
  have hforgotten : Within (w.now.put w.now.cursor.forget) := within_of_none rfl
  split
  · exact hforgotten
  · exact keeps_bind (closable_within.keeps_log _ _)
      (fun _ => closable_within.tended.keeps_releaseResources) ⟨w.since, _⟩ hforgotten

/-! ## Fetches and retrievals -/

theorem confines_requestBatch (x : Connection) (target : ServerCursor) :
    Confines absorbing (requestBatch x target) := by
  intro w hw
  obtain ⟨hdemands, hresumes⟩ := ask_within (w := ⟨w.since, _⟩) _ hw
  refine ensures_requestBatch.2 ⟨hdemands, fun a w' hw' => ?_⟩
  have hafter := hresumes a w' hw'
  split <;> exact hafter

theorem confines_follow (x : Connection) (result : QueryResult) :
    Confines absorbing (follow x result) := by
  refine keeps_bind keeps_get fun c => ?_
  split
  · exact keeps_fail _
  intro w _
  refine Program.ensures_bind.2 (Program.ensures_mono ?_ (ensures_absorb_within result))
  rintro _ w₁ ⟨v, rfl, h⟩
  rw [Program.continues_ok]
  split
  · exact Program.ensures_bind.2 (Program.ensures_mono
      (fun o _ h => by rcases o with e | _ <;> exact h) (ensures_killHeld_within (some x)))
  · rename_i hv
    exact h hv

theorem confines_fetch : Confines absorbing fetch :=
  closable_within.tended.keeps_fetch fun target => closable_within.keeps_withConnection fun x =>
    keeps_bind (confines_requestBatch x target) (confines_follow x)

theorem retrievable_within :
    Retrievable (holding.environment absorbing) Stretch.cell (fun w => Within w.now) where
  fetch w hw _ := confines_fetch w hw
  wait w hw _ := closable_within.keeps_waitBeforeRetry (fun _ _ hw => hw) w hw

theorem confines_takeBatch : Confines absorbing takeBatch := by
  intro w hw
  refine ensures_takeBatch.2 ?_
  split <;> exact hw

/-! ## Lives within the limit -/

theorem behaves_of_confines {a : Activity} {p : Program Cursor Yield}
    (hp : Confines a.absorbs p) (hw : Within w.now) : holding.Behaves a w p :=
  Program.ensures_mono (fun _ _ h => ⟨h, trivial, fun _ => trivial⟩) (hp w hw)

theorem operable_within (a : Activity) :
    Operable (holding.environment absorbing) Stretch.cell (fun w => Within w.now) a where
  retrieve _ := retrievable_within
  take _ := confines_takeBatch
  close loopRuns _ := closable_within.tended.keeps_close loopRuns
  interrupt _ hw := hw
  resize _ _ hw := hw

theorem sound_holding : holding.Sound fun _ => True where
  refl _ := ⟨trivial, trivial⟩
  respects_trans _ _ _ _ _ := trivial
  spares_trans _ _ _ _ _ := trivial
  call a _ _ ha h := behaves_of_confines ((operable_within a).keeps_program ha) h
  run _ _ target _ _ h :=
    behaves_of_confines (keeps_bind (closable_within.keeps_cleanup target)
      fun _ => keeps_pure _) h

/-- The making of a cursor leaves its server cursor within the limit. -/
theorem ensures_start_within (first : QueryResult) (loopRuns : Bool) :
    Ensures (holding.environment absorbing) Stretch.cell (fun _ w' => Within w'.now)
      (start first loopRuns) w := by
  refine Program.ensures_bind.2 (Program.ensures_mono ?_ (ensures_absorb_within first))
  rintro _ w₁ ⟨v, rfl, h⟩
  simp only [Program.continues_ok, Program.ensures_bind, Program.ensures_get]
  split
  · rename_i hv
    exact h (by simp [hv])
  · rename_i hv
    exact closable_within.tended.keeps_releaseResources w₁ (h (by simp [hv]))
  · refine Program.ensures_bind.2 (Program.ensures_mono ?_ (ensures_killHeld_within none))
    rintro (e | _) w₂ h₂
    · exact h₂
    · exact closable_within.tended.keeps_releaseResources w₂ h₂
  · exact ensures_scheduleCleanup_within loopRuns

/-- **A server cursor is held within the limit.** -/
theorem within_of_takesTurns {c : Cursor} {first : QueryResult}
    (hl : Life.TakesTurns (Life.opening c first loopRuns) l) : Within l.moment := by
  refine sound_holding.invariant_of_reaches hl.reaches (Protocol.orderly_opening ?_)
  refine Program.ensures_bind.2 (Program.ensures_mono ?_ (ensures_start_within first loopRuns))
  rintro (e | _) w₁ h₁ <;> exact ⟨h₁, trivial, fun _ => trivial⟩

/-! ## Turns at rest -/

/-- The scheduled kills of a life that wait will leave no trace. -/
def Life.Idling (l : Life) : Prop := ∀ t ∈ l.threads, t.activity.isCleanup → Idles t

theorem idling_proceed {ts : List Thread} (ha : a.isCleanup = false)
    (hts : ∀ t ∈ ts, t.activity.isCleanup → Idles t) {p : Program Cursor Yield} :
    ∀ {m : Moment}, (Life.proceed a ts p m).Idling := by
  induction p with
  | done o => exact hts
  | read next ih => exact ih _
  | write c next ih => exact ih
  | note n next ih => exact ih
  | ask q next ih =>
    intro m t ht hcleanup
    rcases List.mem_cons.1 ht with rfl | ht
    · simp [ha] at hcleanup
    · exact hts t ht hcleanup

/-- A scheduled kill goes on beside threads and does not show. -/
theorem beside_proceed (ts : List Thread) (ha : a.isCleanup)
    (hts : ∀ t ∈ ts, t.activity.isCleanup → Idles t) {p : Program Cursor Yield}
    (hp : Ensures idling Stretch.cell (fun _ w => Untouched w) p ⟨m₀, m⟩) :
    (Life.proceed a ts p m).Idling ∧ ((∀ t ∈ ts, t.activity.isCleanup) →
      (Life.proceed a ts p m).AtRest ∧ Twins (Life.proceed a ts p m).moment m₀) := by
  obtain ⟨hm, waiting, (hthreads : (Life.proceed a ts p m).threads = waiting ++ ts), hwaiting⟩ :=
    idles_proceed ha hp
  have hmem : ∀ t ∈ (Life.proceed a ts p m).threads,
      (t.activity.isCleanup ∧ Idles t) ∨ t ∈ ts := by
    intro t ht
    rw [hthreads] at ht
    exact (List.mem_append.1 ht).imp_left (hwaiting t)
  refine ⟨fun t ht hcleanup => ?_, fun hrest => ⟨fun t ht => ?_, hm⟩⟩
  · exact (hmem t ht).elim And.right fun ht => hts t ht hcleanup
  · exact (hmem t ht).elim And.left (hrest t)

/-- A turn that a scheduled kill takes does not show. -/
theorem Life.Turn.shows (h : l.Turn l') (hidling : l.Idling) :
    l'.Idling ∧ (l.AtRest →
      (∃ a, a.isOperation ∧ l' = l.begin a) ∨ (l'.AtRest ∧ Twins l'.moment l.moment)) := by
  cases h with
  | @call l a hrest ha =>
    exact ⟨idling_proceed (Activity.isCleanup_of_isOperation ha) hidling,
      fun _ => .inl ⟨a, ha, rfl⟩⟩
  | @run _ before after target h =>
    have hbegun : Twins ((l.unscheduled (before ++ after)).moment.record
        (.begun (.cleanup target))) l.moment :=
      ((Twins.refl l.moment).put_unseen
        (c := { l.moment.cursor with cleanups := before ++ after }) rfl).unseen rfl
    obtain ⟨hidling', hshows⟩ := beside_proceed l.threads
      (show (Activity.cleanup target).isCleanup from rfl) hidling
      (keeps_idling_cleanup target ⟨_, _⟩ (Twins.refl _))
    exact ⟨hidling', fun hrest => .inr ((hshows hrest).imp_right (·.trans hbegun))⟩
  | @resume m before after a q next x =>
    have hself : ⟨a, .ask q next⟩ ∈ before ++ (⟨a, .ask q next⟩ : Thread) :: after :=
      List.mem_append_cons_self
    have hothers : ∀ t ∈ before ++ after, t.activity.isCleanup → Idles t :=
      fun t ht => hidling t (Thread.mem_beside _ ht)
    rcases ha : a.isCleanup with _ | _
    · refine ⟨idling_proceed ha hothers, fun hrest => ?_⟩
      have hcleanup : a.isCleanup := hrest _ hself
      simp [ha] at hcleanup
    · obtain ⟨q', next', hnext', -, hnext⟩ := hidling _ hself ha
      cases hnext'
      obtain ⟨hidling', hshows⟩ := beside_proceed _ ha hothers (hnext x m)
      exact ⟨hidling', fun hrest => .inr (hshows fun t ht => hrest t (Thread.mem_beside _ ht))⟩

theorem idling_of_takesTurns {c : Cursor} {first : QueryResult}
    (hl : Life.TakesTurns (Life.opening c first loopRuns) l) : l.Idling := by
  induction hl with
  | refl => exact idling_proceed rfl fun t ht => absurd ht List.not_mem_nil
  | tail _ hturn ih => exact (hturn.shows ih).1

/-! ## Operations that are over at once -/

/-- An operation is over at once: nothing is asked for and nothing noticed, and it leaves a given
    cursor. -/
def Life.AtOnce (a : Activity) (o : Outcome Yield) (c : Cursor) (l : Life) : Prop :=
  l.begin a = ⟨⟨c, .ended a o :: .begun a :: l.moment.history⟩, l.threads⟩

/-- A cursor that is closed. -/
structure Life.Closed (l : Life) : Prop where
  rest : l.AtRest
  state : l.moment.cursor.state = .closed
  serverCursor : l.moment.cursor.serverCursor = .error (.cursorClosed .before)
  retrieval (a : Activity) (ha : a.isRetrieval) :
    l.AtOnce a (.error (.cursorClosed .before)) l.moment.cursor
  close (loopRuns : Bool) : l.AtOnce (.close loopRuns) (.ok .nothing) l.moment.cursor
  setBatchSize (n : Int) :
    l.AtOnce (.setBatchSize n) (.ok .nothing) { l.moment.cursor with batchSize := n }
  interrupt : l.AtOnce .interrupt (.ok .nothing) { l.moment.cursor with interrupted := true }

/-- The moment after a close that kills nothing: the owned resources were released, unless that
    was done before. -/
def Moment.closedQuietly (loopRuns : Bool) (m : Moment) : Moment :=
  let begun := m.record (.begun (.close loopRuns))
  (begun.put { m.cursor with closed := true }).settled.record
    (.ended (.close loopRuns) (.ok .nothing))

/-- A cursor that is exhausted. -/
structure Life.Exhausted (l : Life) : Prop where
  rest : l.AtRest
  state : l.moment.cursor.state = .exhausted
  serverCursor : l.moment.cursor.serverCursor = .ok none
  hasNext (rounds : Nat) :
    l.AtOnce (.hasNext (rounds + 1)) (.ok (.availability .ended)) l.moment.cursor
  next (rounds : Nat) : l.AtOnce (.next (rounds + 1)) (.ok (.retrieval .ended)) l.moment.cursor
  tryNext : l.AtOnce .tryNext (.ok (.attempted none)) l.moment.cursor
  setBatchSize (n : Int) :
    l.AtOnce (.setBatchSize n) (.ok .nothing) { l.moment.cursor with batchSize := n }
  interrupt : l.AtOnce .interrupt (.ok .nothing) { l.moment.cursor with interrupted := true }
  close (loopRuns : Bool) :
    l.begin (.close loopRuns) = ⟨l.moment.closedQuietly loopRuns, l.threads⟩

theorem atOnce_of_silent {o : Outcome Yield} {c : Cursor}
    (h : Silent (fun o' m' => o' = o ∧ m' = (l.moment.record (.begun a)).put c) a.program
      (l.moment.record (.begun a))) : l.AtOnce a o c := by
  obtain ⟨_, _, ⟨rfl, rfl⟩, heq⟩ := proceed_of_silent a l.threads h
  exact heq

/-- What a program yields is passed on. -/
theorem silent_map {α β : Type} {p : Program Cursor α} {f : α → β} {o : Outcome α} {m₁ : Moment}
    (h : Silent (fun o' m' => o' = o ∧ m' = m₁) p m) :
    Silent (fun o' m' => o' = o.map f ∧ m' = m₁) (do return f (← p)) m := by
  refine Program.ensures_bind.2 (Program.ensures_mono (fun o' m' h' => ?_) h)
  obtain ⟨rfl, rfl⟩ := h'
  cases o' <;> exact ⟨rfl, rfl⟩

theorem atOnce_setBatchSize (n : Int) :
    l.AtOnce (.setBatchSize n) (.ok .nothing) { l.moment.cursor with batchSize := n } := rfl

theorem atOnce_interrupt :
    l.AtOnce .interrupt (.ok .nothing) { l.moment.cursor with interrupted := true } := rfl

/-! ## Closed cursors -/

theorem silent_ensureOpen_of_closed (hc : m.cursor.closed) :
    Silent (fun o m' => o = .error (.cursorClosed .before) ∧ m' = m) ensureOpen m := by
  simp [ensureOpen, Program.ensures_bind, hc]

/-- What begins by looking whether the cursor is open fails if it is closed. -/
theorem silent_of_closed {α : Type} (hc : m.cursor.closed) (p : Program Cursor α) :
    Silent (fun o m' => o = .error (.cursorClosed .before) ∧ m' = m)
      (do ensureOpen; p) m := by
  refine Program.ensures_bind.2 (Program.ensures_mono ?_ (silent_ensureOpen_of_closed hc))
  rintro _ _ ⟨rfl, rfl⟩
  exact ⟨rfl, rfl⟩

theorem silent_retrieval_of_closed (hc : m.cursor.closed) (ha : a.isRetrieval) :
    Silent (fun o m' => o = .error (.cursorClosed .before) ∧ m' = m) a.program m := by
  cases a, ha using Activity.retrieval_cases with
  | hasNext rounds => exact silent_map (silent_of_closed hc _)
  | next rounds =>
    refine silent_map (o := .error (.cursorClosed .before))
      (Program.ensures_bind.2 (Program.ensures_mono ?_ (silent_of_closed hc _)))
    rintro _ _ ⟨rfl, rfl⟩
    exact ⟨rfl, rfl⟩
  | tryNext => exact silent_map (silent_of_closed hc _)

theorem silent_close_of_closed (hc : m.cursor.closed) :
    Silent (fun o m' => o = .ok () ∧ m' = m) (close loopRuns) m := by
  simp [close, Program.ensures_bind, hc]

theorem closed_of_closed (hrest : l.AtRest) (hc : l.moment.cursor.closed) : l.Closed where
  rest := hrest
  state := by simp [state, hc]
  serverCursor := by simp [serverCursor, hc]
  retrieval a ha := atOnce_of_silent (silent_retrieval_of_closed hc ha)
  close _ := atOnce_of_silent (silent_yield (silent_close_of_closed hc))
  setBatchSize := atOnce_setBatchSize
  interrupt := atOnce_interrupt

/-! ## Exhausted cursors -/

/-- Nothing is at hand, and there is nothing to fetch it from. -/
structure Drained (c : Cursor) : Prop where
  isOpen : c.closed = false
  batch : c.progress.nextBatch = none
  serverCursor : c.progress.serverCursor = none

theorem drained_of_exhausted (hm : Within m) (h : m.cursor.state = .exhausted) :
    Drained m.cursor := by
  unfold state at h
  split at h
  · simp at h
  split at h
  · simp at h
  split at h
  · rename_i hc hb he
    refine ⟨eq_false_of_ne_true hc, Option.not_isSome_iff_eq_none.1 hb, ?_⟩
    by_contra hs
    have hsome := Option.isSome_iff_ne_none.2 hs
    simp [isExhausted, hm hsome, hs] at he
  · simp at h

namespace Drained
variable {c : Cursor}

theorem hasBatch (h : Drained c) : c.hasBatch = false := by simp [Cursor.hasBatch, h.batch]

theorem isExhausted (h : Drained c) : c.isExhausted := by
  simp [Cursor.isExhausted, h.serverCursor]

theorem of_core {c' : Cursor} (h : Drained c) (hc : c'.core = c.core) : Drained c' where
  isOpen := (congrArg (·.closed) hc).trans h.isOpen
  batch := (congrArg (·.progress.nextBatch) hc).trans h.batch
  serverCursor := (congrArg (·.progress.serverCursor) hc).trans h.serverCursor

end Drained

theorem silent_hasNext_of_drained (h : Drained m.cursor) (rounds : Nat) :
    Silent (fun o m' => o = .ok .ended ∧ m' = m) (hasNext (rounds + 1)) m := by
  simp [Cursor.hasNext, ensureOpen, awaitBatch, Program.ensures_bind, h.isOpen, h.hasBatch,
    h.isExhausted]

theorem silent_next_of_drained (h : Drained m.cursor) (rounds : Nat) :
    Silent (fun o m' => o = .ok .ended ∧ m' = m) (next (rounds + 1)) m := by
  refine Program.ensures_bind.2 (Program.ensures_mono ?_ (silent_hasNext_of_drained h rounds))
  rintro _ _ ⟨rfl, rfl⟩
  exact ⟨rfl, rfl⟩

theorem silent_tryNext_of_drained (h : Drained m.cursor) :
    Silent (fun o m' => o = .ok none ∧ m' = m) tryNext m := by
  simp [tryNext, ensureOpen, Program.ensures_bind, h.isOpen, h.hasBatch, h.isExhausted]

/-- Where no server cursor is held, closing kills nothing, in either flavour. -/
theorem silent_close_of_none (hc : m.cursor.closed = false)
    (hs : m.cursor.progress.serverCursor = none) (loopRuns : Bool) :
    Silent (fun o m' => o = .ok () ∧ m' = (m.put { m.cursor with closed := true }).settled)
      (close loopRuns) m := by
  simp only [close, Program.ensures_bind, Program.ensures_get, Program.continues_ok,
    Moment.cell_load, hc]
  split
  · rename_i hclosed
    simp at hclosed
  split
  · refine Program.ensures_always.2 ?_
    simp only [killHeld, Program.ensures_bind, Program.ensures_get, Program.continues_ok,
      Moment.cell_load, hs, Program.ensures_pure, Program.ensures_modify]
    refine Program.ensures_mono ?_ silent_releaseResources
    rintro _ _ ⟨rfl, rfl⟩
    exact ⟨rfl, rfl⟩
  · refine Program.ensures_mono ?_ (silent_scheduleCleanup loopRuns)
    rintro _ _ ⟨rfl, rfl⟩
    exact ⟨rfl, by simp [Moment.dismissed, hs]⟩

theorem exhausted_of_drained (hrest : l.AtRest) (h : Drained l.moment.cursor) : l.Exhausted where
  rest := hrest
  state := by simp [state, h.isOpen, h.hasBatch, h.isExhausted]
  serverCursor := by simp [serverCursor, h.isOpen, h.serverCursor]
  hasNext rounds := atOnce_of_silent
    (silent_map (silent_hasNext_of_drained (m := l.moment.record _) h rounds))
  next rounds := atOnce_of_silent
    (silent_map (silent_next_of_drained (m := l.moment.record _) h rounds))
  tryNext := atOnce_of_silent (silent_map (silent_tryNext_of_drained (m := l.moment.record _) h))
  setBatchSize := atOnce_setBatchSize
  interrupt := atOnce_interrupt
  close loopRuns := by
    obtain ⟨_, _, ⟨rfl, rfl⟩, heq⟩ := proceed_of_silent (.close loopRuns) l.threads
      (silent_yield
        (silent_close_of_none (m := l.moment.record (.begun (.close loopRuns))) h.isOpen
          h.serverCursor loopRuns))
    exact heq

/-- A retrieval from a drained cursor is over at once, even one that may not look. -/
theorem silent_retrieval_of_drained (h : Drained m.cursor) (ha : a.isRetrieval) :
    ∃ o, Silent (fun o' m' => o' = o ∧ m' = m) a.program m := by
  cases a, ha using Activity.retrieval_cases with
  | hasNext rounds =>
    cases rounds with
    | zero =>
      refine ⟨_, silent_map (o := .ok .pending) ?_⟩
      simp [Cursor.hasNext, ensureOpen, awaitBatch, Program.ensures_bind, h.isOpen]
    | succ rounds => exact ⟨_, silent_map (silent_hasNext_of_drained h rounds)⟩
  | next rounds =>
    cases rounds with
    | zero =>
      refine ⟨_, silent_map (o := .ok .pending) ?_⟩
      simp [next, Cursor.hasNext, ensureOpen, awaitBatch, Program.ensures_bind, h.isOpen]
    | succ rounds => exact ⟨_, silent_map (silent_next_of_drained h rounds)⟩
  | tryNext => exact ⟨_, silent_map (silent_tryNext_of_drained h)⟩

/-! ## Terminal states -/

/-- Whether an operation closes the cursor. -/
def Activity.isClose : Activity → Bool
  | close _ => true
  | _ => false

/-- What is called on a closed cursor leaves it closed. -/
theorem closed_begin (hc : l.moment.cursor.closed) (hrest : l.AtRest) (ha : a.isOperation) :
    (l.begin a).AtRest ∧ (l.begin a).moment.cursor.closed := by
  have h := closed_of_closed hrest hc
  obtain ⟨o, c, hover, hc'⟩ : ∃ o c, l.AtOnce a o c ∧ c.closed := by
    cases a, ha using Activity.operation_cases with
    | close loopRuns => exact ⟨_, _, h.close loopRuns, hc⟩
    | setBatchSize n => exact ⟨_, _, h.setBatchSize n, hc⟩
    | interrupt => exact ⟨_, _, h.interrupt, hc⟩
    | _ => exact ⟨_, _, h.retrieval _ rfl, hc⟩
  rw [hover]
  exact ⟨hrest, hc'⟩

/-- What is called on a drained cursor leaves it drained, unless it closes it. -/
theorem drained_begin (h : Drained l.moment.cursor) (hrest : l.AtRest) (ha : a.isOperation) :
    (l.begin a).AtRest ∧ if a.isClose then (l.begin a).moment.cursor.closed = true
      else Drained (l.begin a).moment.cursor := by
  have hover : ∀ {o c}, l.AtOnce a o c → Drained c →
      (l.begin a).AtRest ∧ Drained (l.begin a).moment.cursor := by
    intro o c hover hc
    rw [hover]
    exact ⟨hrest, hc⟩
  have hretrieval : a.isRetrieval → (l.begin a).AtRest ∧ Drained (l.begin a).moment.cursor := by
    intro hretrieval
    obtain ⟨o, ho⟩ := silent_retrieval_of_drained (m := l.moment.record (.begun a)) h hretrieval
    exact hover (atOnce_of_silent ho) h
  cases a, ha using Activity.operation_cases with
  | close loopRuns =>
    rw [(exhausted_of_drained hrest h).close]
    exact ⟨hrest, congrArg Cursor.closed (Moment.settled_cursor _)⟩
  | setBatchSize n => exact hover (atOnce_setBatchSize n) ⟨h.isOpen, h.batch, h.serverCursor⟩
  | interrupt => exact hover atOnce_interrupt ⟨h.isOpen, h.batch, h.serverCursor⟩
  | _ => exact hretrieval rfl

/-- A program calls nothing. -/
theorem proceed_calls {ts : List Thread} {p : Program Cursor Yield} :
    ∀ {m : Moment}, (Life.proceed a ts p m).moment.calls = m.calls := by
  induction p with
  | done o => exact fun {m} => m.record_calls _
  | read next ih => exact ih _
  | write c next ih => exact ih
  | note n next ih => exact fun {m} => ih.trans (m.record_calls _)
  | ask q next ih => exact fun {m} => m.record_calls _

theorem begin_calls (ha : a.isOperation) : (l.begin a).moment.calls = a :: l.moment.calls := by
  refine proceed_calls.trans ?_
  simp [Moment.record_calls, Incident.called, Activity.isCleanup_of_isOperation ha]

theorem Twins.calls {m' : Moment} (h : Twins m m') : m.calls = m'.calls :=
  congrArg (List.filterMap Incident.called) h.shown

theorem closed_of_takesTurns (hidling : l.Idling) (hrest : l.AtRest) (hc : l.moment.cursor.closed)
    (hl : l.TakesTurns l') : l'.Idling ∧ l'.AtRest ∧ l'.moment.cursor.closed := by
  induction hl with
  | refl => exact ⟨hidling, hrest, hc⟩
  | tail _ hturn ih =>
    obtain ⟨hidling, hrest, hc⟩ := ih
    obtain ⟨hidling', hshows⟩ := hturn.shows hidling
    refine ⟨hidling', ?_⟩
    obtain ⟨a, ha, rfl⟩ | ⟨hrest', htwins⟩ := hshows hrest
    · exact closed_begin hc hrest ha
    · exact ⟨hrest', htwins.closed.trans hc⟩

theorem drained_of_takesTurns (hidling : l.Idling) (hrest : l.AtRest)
    (h : Drained l.moment.cursor) (hl : l.TakesTurns l') :
    ∃ later, l'.moment.calls = later ++ l.moment.calls ∧ l'.Idling ∧ l'.AtRest ∧
      if later.any Activity.isClose then l'.moment.cursor.closed = true
      else Drained l'.moment.cursor := by
  induction hl with
  | refl => exact ⟨[], rfl, hidling, hrest, h⟩
  | tail _ hturn ih =>
    obtain ⟨later, hcalls, hidling, hrest, hc⟩ := ih
    obtain ⟨hidling', hshows⟩ := hturn.shows hidling
    obtain ⟨a, ha, rfl⟩ | ⟨hrest', htwins⟩ := hshows hrest
    · refine ⟨a :: later, by rw [begin_calls ha, hcalls]; rfl, hidling', ?_⟩
      rw [List.any_cons]
      rcases hany : later.any Activity.isClose with _ | _ <;> rw [hany] at hc
      · rw [Bool.or_false]
        exact drained_begin hc hrest ha
      · rw [Bool.or_true]
        exact closed_begin hc hrest ha
    · refine ⟨later, htwins.calls.trans hcalls, hidling', hrest', ?_⟩
      rcases hany : later.any Activity.isClose with _ | _ <;> rw [hany] at hc
      · exact Drained.of_core hc htwins.core
      · exact htwins.closed.trans hc

/-- **To be exhausted or closed is final.**  Where calls take turns, a closed cursor stays closed:
    its retrievals fail, and whatever is called on it is over at once, with no exchange and no
    notice.  An exhausted one stays exhausted until it is closed: its retrievals come to the end at
    once, and closing it kills nothing. -/
theorem terminal_of_takesTurns {c : Cursor} {first : QueryResult}
    (hl : Life.TakesTurns (Life.opening c first loopRuns) l) (hrest : l.AtRest)
    (hl' : l.TakesTurns l') :
    (l.moment.cursor.state = .closed → l'.Closed) ∧
      (l.moment.cursor.state = .exhausted → ∃ later, l'.moment.calls = later ++ l.moment.calls ∧
        if later.any Activity.isClose then l'.Closed else l'.Exhausted) := by
  have hidling := idling_of_takesTurns hl
  refine ⟨fun hstate => ?_, fun hstate => ?_⟩
  · have hc : l.moment.cursor.closed := by
      by_contra hopen
      rw [state, if_neg hopen] at hstate
      split at hstate
      · simp at hstate
      · split at hstate <;> simp at hstate
    obtain ⟨-, hrest', hc'⟩ := closed_of_takesTurns hidling hrest hc hl'
    exact closed_of_closed hrest' hc'
  · obtain ⟨later, hcalls, -, hrest', hc'⟩ := drained_of_takesTurns hidling hrest
      (drained_of_exhausted (within_of_takesTurns hl) hstate) hl'
    refine ⟨later, hcalls, ?_⟩
    rcases hany : later.any Activity.isClose with _ | _ <;> rw [hany] at hc'
    · exact exhausted_of_drained hrest' hc'
    · exact closed_of_closed hrest' hc'

/-- A cursor that was closed while its server cursor was alive. -/
def shutAlive : Life :=
  (Life.opening (sample .async 0) (Plan.sample 0).first true).begin (.close true)

theorem seven_ne_zero : (7 : Int) ≠ 0 := by decide

/-- The server cursor that it killed. -/
def doomed : ServerCursor := ⟨7, {}, seven_ne_zero⟩

/-- The same cursor, used while that kill is under way. -/
def shutUsed : Life := ((shutAlive.unscheduled []).begin (.cleanup doomed)).begin .tryNext

/-- A cursor that was read to its end. -/
def readOut : Life :=
  ((((Life.opening (sample .blocking 0) (Plan.sample 0).first true).begin (.next 1)).begin
    (.next 2)).respond obliging).respond obliging

/-- The same cursor, used further and closed. -/
def readOutClosed : Life := ((readOut.begin (.setBatchSize 5)).begin .tryNext).begin (.close true)

theorem terminal_readOut : shutUsed.Closed ∧
    ∃ later, readOutClosed.moment.calls = later ++ readOut.moment.calls ∧
      if later.any Activity.isClose then readOutClosed.Closed else readOutClosed.Exhausted := by
  have hnone : ∀ l : Life, l.threads = [] → l.AtRest := fun l h t ht => by simp [h] at ht
  refine ⟨?_, ?_⟩
  · refine (terminal_of_takesTurns (l := shutAlive) (.begin .refl (hnone _ rfl) rfl)
      (hnone _ rfl) ?_).1 rfl
    have hscheduled : shutAlive.moment.cursor.cleanups = [] ++ doomed :: [] := rfl
    refine .begin (.tail .refl (.run hscheduled)) ?_ rfl
    intro t ht
    obtain rfl := List.mem_singleton.1 ht
    rfl
  · refine (terminal_of_takesTurns (l := readOut) (.respond (.respond (.begin (.begin .refl
      (hnone _ rfl) rfl) (hnone _ rfl) rfl) obliging) obliging) (hnone _ rfl) ?_).2 rfl
    exact .begin (.begin (.begin .refl (hnone _ rfl) rfl) (hnone _ rfl) rfl) (hnone _ rfl) rfl

end DocumentClient.Cursor
