/-
  A cursor that is closed while it is read.

  Here the threads of a blocking cursor go on in any order: one of them waits for a batch, and
  another closes the cursor.  The closing takes the server cursor away before it sends the kill,
  but it closes the cursor only when the kill is answered.  `Wanes` says what becomes of a cursor
  without a server cursor in a stretch, unless the stretch brings a batch to an open cursor:
  nothing is put back, and only who was just given a connection asks for anything.  An activity
  that is `Fair` keeps to that; it is free to ask where the cursor has a server cursor.

  `retired_of_sendsKill`: from the moment at which a closing has sent its kill, nothing is put back
  and nothing is asked for any more, unless a batch comes in before the kill is answered.  Such a
  batch revives the cursor (`revived_before_kill_answered`).  To lease a connection is no exchange
  with the server: no thread waits for one when the closing begins, and the closing is given its
  own at once.
-/
import DocumentClient.Proofs.Cursor.Alone
import DocumentClient.Proofs.Cursor.Balance

namespace DocumentClient.Cursor

open Program (Ensures Environment)

variable {m m' m₁ m₂ m₃ : Moment} {w : Stretch} {absorbing free : Bool} {plan : Plan} {c : Cursor}
  {l l' l₁ l₂ : Life} {since : List Incident}

/-! ## Without a server cursor -/

namespace Incident

/-- Whether an exchange is asked for. -/
def asks : Incident → Bool
  | asked _ => true
  | _ => false

/-- Whether a connection is leased. -/
def lends : Incident → Bool
  | answered (.lease _) (.ok _) _ => true
  | _ => false

/-- Whether a batch is brought to a cursor that is open. -/
def brings : Incident → Bool
  | begun a => a.isOpening
  | answered q (.ok _) true => isFetch q
  | _ => false

end Incident

/-- A cursor has no server cursor any more, and was given no batch. -/
structure Retired (m m' : Moment) : Prop where
  serverCursor : m'.cursor.progress.serverCursor = none
  nextBatch : m'.cursor.progress.nextBatch = m.cursor.progress.nextBatch ∨
    m'.cursor.progress.nextBatch = none
  delivered : m'.cursor.progress.delivered = m.cursor.progress.delivered

theorem Retired.refl (h : m.cursor.progress.serverCursor = none) : Retired m m := ⟨h, .inl rfl, rfl⟩

theorem Retired.trans (h : Retired m₁ m₂) (h' : Retired m₂ m₃) : Retired m₁ m₃ :=
  ⟨h'.serverCursor, h'.nextBatch.elim (fun heq => heq ▸ h.nextBatch) .inr,
    h'.delivered.trans h.delivered⟩

theorem exists_mem_append {p : Incident → Prop} {later earlier : List Incident} :
    (∃ i ∈ later ++ earlier, p i) ↔ (∃ i ∈ later, p i) ∨ ∃ i ∈ earlier, p i := by
  simp only [List.mem_append, or_and_right, exists_or]

/-- What becomes of a cursor without a server cursor, if no batch is brought to it. -/
def Wanes (m m' : Moment) : Prop :=
  ∃ since, m'.history = since ++ m.history ∧ (m.cursor.progress.serverCursor = none →
    (∃ i ∈ since, i.brings) ∨ Retired m m' ∧ ((∃ i ∈ since, i.asks) → ∃ i ∈ since, i.lends))

theorem Wanes.refl (m : Moment) : Wanes m m := ⟨[], rfl, fun hs => .inr ⟨.refl hs, by simp⟩⟩

theorem Wanes.trans (h : Wanes m₁ m₂) (h' : Wanes m₂ m₃) : Wanes m₁ m₃ := by
  obtain ⟨since, heq, h⟩ := h
  obtain ⟨since', heq', h'⟩ := h'
  refine ⟨since' ++ since, by rw [heq', heq, List.append_assoc], fun hs => ?_⟩
  simp only [exists_mem_append]
  obtain hbrings | ⟨hretired, hcalm⟩ := h hs
  · exact .inl (.inr hbrings)
  obtain hbrings | ⟨hretired', hcalm'⟩ := h' hretired.serverCursor
  · exact .inl (.inl hbrings)
  · exact .inr ⟨hretired.trans hretired', Or.imp hcalm' hcalm⟩

/-- A step that asks for nothing and puts nothing back. -/
structure Eases (m m' : Moment) : Prop where
  nextBatch : m'.cursor.progress.nextBatch = m.cursor.progress.nextBatch ∨
    m'.cursor.progress.nextBatch = none
  serverCursor : m'.cursor.progress.serverCursor = m.cursor.progress.serverCursor ∨
    m'.cursor.progress.serverCursor = none
  delivered : m'.cursor.progress.delivered = m.cursor.progress.delivered
  mode : m'.cursor.mode = m.cursor.mode
  cleanups : m'.cursor.cleanups = m.cursor.cleanups
  history : ∃ since, m'.history = since ++ m.history ∧ ∀ i ∈ since, ¬ i.asks

theorem Eases.retired (h : Eases m m') (hs : m.cursor.progress.serverCursor = none) :
    Retired m m' :=
  ⟨h.serverCursor.elim (fun heq => heq.trans hs) id, h.nextBatch, h.delivered⟩

theorem eases_record {i : Incident} (hi : i.asks = false) (m : Moment) : Eases m (m.record i) :=
  ⟨.inl rfl, .inl rfl, rfl, rfl, rfl, [i], rfl, by simp [hi]⟩

theorem eases_notice (n : Notice) (m : Moment) : Eases m (m.record (.noticed n)) :=
  eases_record rfl m

/-- A cursor that has what it had, or has lost some of it. -/
theorem eases_put {c : Cursor}
    (hbatch : c.progress.nextBatch = m.cursor.progress.nextBatch ∨ c.progress.nextBatch = none)
    (hs : c.progress.serverCursor = m.cursor.progress.serverCursor ∨
      c.progress.serverCursor = none)
    (hdelivered : c.progress.delivered = m.cursor.progress.delivered)
    (hmode : c.mode = m.cursor.mode) (hcleanups : c.cleanups = m.cursor.cleanups) :
    Eases m (m.put c) :=
  ⟨hbatch, hs, hdelivered, hmode, hcleanups, [], rfl, by simp⟩

theorem eases_forget (m : Moment) : Eases m (m.put m.cursor.forget) :=
  eases_put (.inl rfl) (.inr rfl) rfl rfl rfl

theorem eases_shut (m : Moment) : Eases m (m.put { m.cursor with closed := true }) :=
  eases_put (.inl rfl) (.inl rfl) rfl rfl rfl

theorem eases_settled (m : Moment) : Eases m m.settled := by
  have hcursor := m.settled_cursor
  refine ⟨.inl (by rw [hcursor]), .inl (by rw [hcursor]), by rw [hcursor], by rw [hcursor],
    by rw [hcursor], ?_⟩
  unfold Moment.settled
  split
  · exact ⟨[], rfl, by simp⟩
  · refine ⟨(dues m.cursor).reverse.map .noticed, rfl, fun i hi => ?_⟩
    obtain ⟨n, -, rfl⟩ := List.mem_map.1 hi
    simp [Incident.asks]

/-! ## The protocol -/

/-- A blocking cursor: it schedules no kills. -/
structure Threaded (m : Moment) : Prop where
  mode : m.cursor.mode = .blocking
  cleanups : m.cursor.cleanups = []

/-- What the threads of a blocking cursor owe to each other. -/
def closing : Protocol where
  invariant := Threaded
  respects := Wanes
  spares _ _ := True
  admits _ _ := True

/-- What holds in a stretch; one that is free may end with an exchange. -/
structure Fair (free : Bool) (w : Stretch) : Prop where
  plain : Threaded w.now
  wanes : ∃ since, w.now.history = since ++ w.since.history ∧
    (w.since.cursor.progress.serverCursor = none → (∃ i ∈ since, i.brings) ∨
      Retired w.since w.now ∧ ((∃ i ∈ since, i.asks) → ∃ i ∈ since, i.lends) ∧
        (free → ∃ i ∈ since, i.lends))

theorem Fair.respects (h : Fair free w) : Wanes w.since w.now := by
  obtain ⟨since, heq, h⟩ := h.wanes
  exact ⟨since, heq, fun hs => (h hs).imp id fun h => ⟨h.1, h.2.1⟩⟩

theorem Fair.eased (h : Fair free w) (he : Eases w.now m) : Fair free ⟨w.since, m⟩ := by
  refine ⟨⟨he.mode.trans h.plain.mode, he.cleanups.trans h.plain.cleanups⟩, ?_⟩
  obtain ⟨since, heq, h⟩ := h.wanes
  obtain ⟨news, hnews, hasks⟩ := he.history
  refine ⟨news ++ since, by rw [hnews, heq, List.append_assoc], fun hs => ?_⟩
  simp only [exists_mem_append]
  obtain hbrings | ⟨hretired, hcalm, hlends⟩ := h hs
  · exact .inl (.inr hbrings)
  refine .inr ⟨hretired.trans (he.retired hretired.serverCursor), ?_, fun hfree =>
    .inr (hlends hfree)⟩
  rintro (⟨i, hi, hasks'⟩ | hasks')
  · exact absurd hasks' (hasks i hi)
  · exact .inr (hcalm hasks')

/-- A stretch is free where the cursor has a server cursor. -/
theorem Fair.free_of_some (h : Fair free w) {target : ServerCursor}
    (hs : w.now.cursor.progress.serverCursor = some target) : Fair true w := by
  refine ⟨h.plain, ?_⟩
  obtain ⟨since, heq, h⟩ := h.wanes
  refine ⟨since, heq, fun hnone => (h hnone).imp id fun h => ?_⟩
  simp [h.1.serverCursor] at hs

theorem Fair.guarded (h : Fair true w) : Fair false w := by
  refine ⟨h.plain, ?_⟩
  obtain ⟨since, heq, h⟩ := h.wanes
  exact ⟨since, heq, fun hs => (h hs).imp id fun h => ⟨h.1, h.2.1, nofun⟩⟩

/-- A stretch that has brought a batch. -/
structure Fed (w : Stretch) : Prop where
  plain : Threaded w.now
  brings : ∃ since, w.now.history = since ++ w.since.history ∧ ∃ i ∈ since, i.brings

theorem Fed.fair (h : Fed w) : Fair free w := by
  obtain ⟨since, heq, hbrings⟩ := h.brings
  exact ⟨h.plain, since, heq, fun _ => .inl hbrings⟩

/-- Who has been given a batch may absorb it. -/
theorem Fed.moved (h : Fed w) (hhistory : w.now.history <:+ m.history)
    (hmode : m.cursor.mode = w.now.cursor.mode)
    (hcleanups : m.cursor.cleanups = w.now.cursor.cleanups) : Fed ⟨w.since, m⟩ := by
  refine ⟨⟨hmode.trans h.plain.mode, hcleanups.trans h.plain.cleanups⟩, ?_⟩
  obtain ⟨since, heq, hbrings⟩ := h.brings
  obtain ⟨news, hnews⟩ := hhistory
  exact ⟨news ++ since, by rw [← hnews, heq, List.append_assoc],
    exists_mem_append.2 (.inr hbrings)⟩

/-! ## Exchanges -/

theorem fair_answered (hm : Threaded m) (q : Exchange) (x : Outcome q.Answer) :
    Fair false ⟨m, m.answer q x⟩ :=
  ⟨⟨hm.mode, hm.cleanups⟩, [.answered q x (!m.cursor.closed)], rfl, fun hs =>
    .inr ⟨⟨hs, .inl rfl, rfl⟩, by simp [Incident.asks], nofun⟩⟩

/-- Who is given a connection is free. -/
theorem fair_leased (hm : Threaded m) (s : Source) (x : Connection) :
    Fair true ⟨m, m.answer (.lease s) (.ok x)⟩ :=
  ⟨⟨hm.mode, hm.cleanups⟩, [.answered (.lease s) (.ok x) (!m.cursor.closed)], rfl, fun hs =>
    .inr ⟨⟨hs, .inl rfl, rfl⟩, by simp [Incident.asks],
      fun _ => ⟨_, List.mem_singleton_self _, rfl⟩⟩⟩

/-- The answer to a fetch feeds a cursor that is open. -/
theorem fed_answered (hm : Threaded m) {q : Exchange} (hq : isFetch q) (x : q.Answer)
    (hopen : m.cursor.closed = false) : Fed ⟨m, m.answer q (.ok x)⟩ :=
  ⟨⟨hm.mode, hm.cleanups⟩, [.answered q (.ok x) (!m.cursor.closed)], rfl, _,
    List.mem_singleton_self _, by rw [hopen]; exact hq⟩

theorem Fair.ask (h : Fair true w) (q : Exchange) :
    (closing.environment absorbing).demands q w ∧
      ∀ x w', (closing.environment absorbing).resumes q w x w' →
        ∃ m, Threaded m ∧ w' = ⟨m, m.answer q x⟩ := by
  refine ⟨⟨⟨h.plain.mode, h.plain.cleanups⟩, ?_, fun _ => trivial⟩, ?_⟩
  · obtain ⟨since, heq, h⟩ := h.wanes
    refine ⟨.asked q :: since, by rw [Moment.record_history, heq, List.cons_append], fun hs => ?_⟩
    obtain ⟨i, hi, hbrings⟩ | ⟨hretired, -, hlends⟩ := h hs
    · exact .inl ⟨i, List.mem_cons_of_mem _ hi, hbrings⟩
    · obtain ⟨i, hi, hlends⟩ := hlends rfl
      exact .inr ⟨⟨hretired.serverCursor, hretired.nextBatch, hretired.delivered⟩,
        fun _ => ⟨i, List.mem_cons_of_mem _ hi, hlends⟩⟩
  · rintro x _ ⟨-, m, hm, -, -, rfl⟩
    exact ⟨m, hm, rfl⟩

/-- A stretch is fair at the end of what an activity does. -/
abbrev EndsFair {α : Type} (absorbing : Bool) (p : Program Cursor α) (w : Stretch) : Prop :=
  closing.Holds absorbing (fun _ w' => Fair false w') p w

/-- What keeps a stretch fair. -/
abbrev KeepsFair {α : Type} (absorbing : Bool) (p : Program Cursor α) : Prop :=
  Keeps (closing.environment absorbing) Stretch.cell (Fair false) p

theorem fair_modify {f : Cursor → Cursor} (hf : ∀ m : Moment, Eases m (m.put (f m.cursor))) :
    KeepsFair absorbing (Program.modify f) :=
  fun w h => h.eased (hf w.now)

/-! ## Kills -/

theorem killable_closing (target : ServerCursor) :
    Killable (closing.environment absorbing) Stretch.cell (Fair true) (Fair false)
      (fun _ => True) target where
  send x ns w h := by
    obtain ⟨hdemands, hresumes⟩ := h.ask (.killCursors x ns [target.id])
    refine ⟨hdemands, fun a w' hw' => ⟨?_, fun _ _ => trivial⟩⟩
    obtain ⟨m, hm, rfl⟩ := hresumes a w' hw'
    exact fair_answered hm _ a
  fails e w h := h.eased (eases_notice _ _)
  back x w h := h.eased (eases_notice _ _)
  lease source w h := by
    obtain ⟨hdemands, hresumes⟩ := h.ask (.lease source)
    refine ⟨hdemands, fun a w' hw' => ?_⟩
    obtain ⟨m, hm, rfl⟩ := hresumes a w' hw'
    rcases a with e | x
    · exact ⟨fair_answered hm _ _, trivial⟩
    · exact fair_leased hm source x
  noSource w h _ _ := ⟨h.guarded, trivial⟩

theorem fair_killHeld (given : Option Connection) : KeepsFair absorbing (killHeld given) := by
  intro w h
  simp only [killHeld, Program.ensures_bind, Program.ensures_get, Program.continues_ok,
    Stretch.cell_load]
  split
  · exact h
  · rename_i target hs
    have hforgotten := ((h.free_of_some hs).eased (eases_forget _)).eased
      (eases_notice (killBegins w.now.cursor.mode target) _)
    exact Program.ensures_mono (fun _ _ h' => h'.1)
      ((killable_closing target).ensures_killCursor given (w := ⟨w.since, _⟩) hforgotten)

theorem fair_releaseResources : KeepsFair absorbing releaseResources := by
  intro w h
  rw [ensures_releaseResources, settle_stretch]
  exact h.eased (eases_settled w.now)

theorem fair_close (loopRuns : Bool) : KeepsFair absorbing (close loopRuns) := by
  intro w h
  simp only [close, Program.ensures_bind, Program.ensures_get, Program.continues_ok,
    Stretch.cell_load, h.plain.mode]
  split
  · exact h
  · exact keeps_always (fair_killHeld none) (keeps_bind (fair_modify eases_shut)
      fun _ => fair_releaseResources) w h

theorem fair_giveUp (e : Failure) : KeepsFair absorbing (giveUp e) := by
  cases e with
  | cursorMissing id address =>
    exact keeps_bind (fair_modify eases_forget) fun _ => fair_close true
  | cancelled => exact keeps_pure ()
  | _ => exact fair_close true

/-! ## Fetches -/

theorem Fed.ensures_absorb (h : Fed w) (result : QueryResult) :
    EndsFair absorbing (absorb result) w := by
  refine Cursor.ensures_absorb fun w₁ hw₁ => ?_
  obtain rfl | ⟨message, rfl⟩ := hw₁
  · exact Fed.fair (h.moved (List.suffix_refl _) rfl rfl)
  · exact Fed.fair (h.moved (List.suffix_cons ..) rfl rfl)

/-- A batch that has come is refused if the cursor is closed. -/
theorem Fair.ensures_follow (h : Fair false w) (hfed : w.now.cursor.closed = false → Fed w)
    (x : Connection) (result : QueryResult) :
    EndsFair absorbing (follow x result) w :=
  Cursor.ensures_follow (fun _ => h) (fun hopen => (hfed hopen).ensures_absorb result)
    (fair_killHeld (some x))

/-- A fetch that comes to a batch was answered. -/
theorem exists_of_fetched {target : ServerCursor} {q : Exchange} {a : Outcome q.Answer}
    {result : QueryResult} (h : fetched target q a = .ok result) : ∃ x, a = .ok x := by
  rcases a with e | x
  · cases q <;> cases h
  · exact ⟨x, rfl⟩

theorem Fair.ensures_fetchOver (h : Fair true w) (target : ServerCursor) (x : Connection) :
    EndsFair absorbing (fetchOver target x) w := by
  rw [fetchOver_eq]
  obtain ⟨hdemands, hresumes⟩ := (h.eased (eases_notice (fetchBegins w.now.cursor target) _)).ask
    (fetchExchange w.now.cursor x target)
  refine Program.ensures_bind.2 (ensures_requestBatch.2 ⟨hdemands, fun a w' hw' => ?_⟩)
  obtain ⟨m, hm, rfl⟩ := hresumes a w' hw'
  split
  · rename_i result hresult
    obtain ⟨answer, rfl⟩ := exists_of_fetched hresult
    refine Fair.ensures_follow ((fair_answered hm _ _).eased (eases_notice _ _)) (fun hopen => ?_) x
      result
    exact (fed_answered hm (isFetch_fetchExchange ..) answer hopen).moved
      (List.suffix_cons ..) rfl rfl
  · exact fair_answered hm _ _

theorem Fair.ensures_fetching (h : Fair true w) (target : ServerCursor) :
    EndsFair absorbing (withConnection (fetchOver target)) w := by
  refine ensures_withConnection.2 ?_
  split
  · exact h.ensures_fetchOver target _
  · exact h.guarded
  · rename_i handle _ _
    obtain ⟨hdemands, hresumes⟩ := h.ask (.lease handle.resource)
    refine ⟨hdemands, fun a w' hw' => ?_⟩
    obtain ⟨m, hm, rfl⟩ := hresumes a w' hw'
    rcases a with e | x
    · exact fair_answered hm _ _
    · exact Program.ensures_mono (fun _ _ h' => h'.eased (eases_notice _ _))
        ((fair_leased hm handle.resource x).ensures_fetchOver target x)

theorem fair_fetch : KeepsFair absorbing fetch :=
  fun _ h => ensures_fetch h (fun target hs => (h.free_of_some hs).ensures_fetching target)
    fair_giveUp fair_releaseResources

/-! ## Retrievals -/

theorem Fair.ensures_wait (h : Fair false w) (hs : w.now.cursor.isSettled = false) :
    EndsFair absorbing waitBeforeRetry w := by
  obtain ⟨target, htarget⟩ := Option.isSome_iff_exists.1 (isSome_of_unsettled hs)
  refine Program.ensures_bind.2 ?_
  rw [Program.ensures_get, Program.continues_ok, Program.ensures_bind, Program.ensures_ofOutcome]
  rcases Duration.ofInterval (Stretch.cell.load w).settings.pollInterval with e | length
  · exact h
  obtain ⟨hdemands, hresumes⟩ := (h.free_of_some htarget).ask (.pause length)
  refine Program.ensures_bind.2 ⟨hdemands, fun a w' hw' => ?_⟩
  obtain ⟨m, hm, rfl⟩ := hresumes a w' hw'
  have hfair := fair_answered hm (.pause length) a
  rcases a with e | _
  · exact hfair
  change EndsFair absorbing (Program.get >>= _) _
  simp only [Program.ensures_bind, Program.ensures_get, Program.continues_ok, Stretch.cell_load]
  split
  · exact hfair.eased (m := _) (eases_put (.inl rfl) (.inl rfl) rfl rfl rfl)
  · split <;> exact hfair

theorem retrievable_fair :
    Retrievable (closing.environment absorbing) Stretch.cell (Fair false) where
  fetch w h _ := fair_fetch w h
  wait _ h hs := h.ensures_wait hs

theorem fair_takeBatch : KeepsFair absorbing takeBatch := by
  intro w h
  refine ensures_takeBatch.2 ?_
  split
  · exact h
  · exact h.eased (eases_put (.inr rfl) (.inl rfl) rfl rfl rfl)

/-! ## Lives -/

theorem Fair.ends {a : Activity} (h : Fair free w) (o : Outcome Yield) :
    closing.Ends a.absorbs w.since (w.now.record (.ended a o)) :=
  have hended := h.eased (eases_record (i := .ended a o) rfl _)
  ⟨hended.plain, hended.respects, fun _ => trivial⟩

theorem fair_begun (hm : Threaded m) (a : Activity) : Fair false ⟨m, m.record (.begun a)⟩ :=
  ⟨⟨hm.mode, hm.cleanups⟩, [.begun a], rfl, fun hs =>
    .inr ⟨⟨hs, .inl rfl, rfl⟩, by simp [Incident.asks], nofun⟩⟩

theorem operable_fair (a : Activity) :
    Operable (closing.environment absorbing) Stretch.cell (Fair false) a where
  retrieve _ := retrievable_fair
  take _ := fair_takeBatch
  close loopRuns _ := fair_close loopRuns
  interrupt := fair_modify fun _ => eases_put (.inl rfl) (.inl rfl) rfl rfl rfl
  resize _ := fair_modify fun _ => eases_put (.inl rfl) (.inl rfl) rfl rfl rfl

theorem sound_closing : closing.Sound fun _ => True where
  refl m := ⟨.refl m, trivial⟩
  respects_trans _ _ _ := .trans
  spares_trans _ _ _ _ _ := trivial
  call a m _ ha hm :=
    Program.ensures_mono (fun o _ h => h.ends o)
      ((operable_fair a).keeps_program ha _ (fair_begun hm a))
  run m before target after hc hm := by simp [hm.cleanups] at hc

/-- The first batch feeds the cursor that is made. -/
theorem Fed.ensures_start (h : Fed w) (first : QueryResult) (loopRuns : Bool) :
    EndsFair absorbing (start first loopRuns) w := by
  refine Program.ensures_bind.2 (Program.ensures_mono ?_ (h.ensures_absorb first))
  rintro (e | verdict) w₁ h₁
  · exact h₁
  simp only [Program.ensures_bind, Program.ensures_get, Stretch.cell_load, Program.continues_ok,
    h₁.plain.mode]
  split
  · exact h₁
  · exact fair_releaseResources w₁ h₁
  · exact keeps_bind (fair_killHeld none) (fun _ => fair_releaseResources) w₁ h₁
  · simp_all

theorem orderly_closing (hc : ofPlan .blocking plan = .ok c) (loopRuns : Bool) :
    closing.Orderly (Life.opening c plan.first loopRuns) := by
  obtain ⟨hmode, hcleanups⟩ : c.mode = .blocking ∧ c.cleanups = [] := by
    obtain ⟨settings, rfl⟩ := exists_of_ofPlan hc
    exact ⟨rfl, rfl⟩
  have hfed : Fed ⟨⟨c, []⟩, ⟨c, [.begun (.opening plan.first loopRuns)]⟩⟩ :=
    ⟨⟨hmode, hcleanups⟩, [_], rfl, _, List.mem_singleton_self _, rfl⟩
  refine Protocol.orderly_opening (Program.ensures_bind.2 (Program.ensures_mono ?_
    (hfed.ensures_start plan.first loopRuns)))
  rintro (e | _) w h <;> exact Fair.ends (a := .opening plan.first loopRuns) h _

/-! ## Threads that wait -/

/-- Whether a thread waits for a connection. -/
def Thread.isLeasing (t : Thread) : Bool :=
  match t.rest with
  | .ask (.lease _) _ => true
  | _ => false

theorem ensures_answering (p : Program Cursor Yield) :
    ∀ m : Moment, Ensures (answering fun _ _ => True) Moment.cell (fun _ _ => True) p m := by
  induction p with
  | done outcome => exact fun _ => trivial
  | read next ih => exact fun m => ih _ m
  | write c next ih => exact fun m => ih (m.put c)
  | note n next ih => exact fun m => ih _
  | ask q next ih => exact fun m => ⟨trivial, fun x m' _ => ih x m'⟩

/-- An activity that asks for nothing leaves the threads as they are, and a stretch leases a
    connection only with the answer that it begins with. -/
theorem proceed_quiet (a : Activity) (ts : List Thread) (p : Program Cursor Yield) {i : Incident}
    {history : List Incident} (hm : m.history = i :: history) :
    ∃ since, (Life.proceed a ts p m).moment.history = since ++ history ∧
      ((∀ j ∈ since, j.asks = false) → (Life.proceed a ts p m).threads = ts) ∧
      ((∃ j ∈ since, j.lends) → i.lends) := by
  obtain ⟨ns, m', hhistory, ⟨o, -, heq⟩ | ⟨q, next, -, -, heq⟩⟩ :=
    proceed_of_answering a ts (ensures_answering p m)
  · refine ⟨.ended a o :: (ns.map .noticed ++ [i]), ?_, fun _ => by rw [heq], ?_⟩
    · simp [heq, hhistory, hm]
    · simp [Incident.lends]
  · refine ⟨.asked q :: (ns.map .noticed ++ [i]), ?_, fun hasks => ?_, ?_⟩
    · simp [heq, hhistory, hm]
    · simpa [Incident.asks] using hasks (.asked q) List.mem_cons_self
    · simp [Incident.lends]

/-- After a step that asks for nothing no other threads wait, and a step leases a connection only to
    a thread that waits for one. -/
theorem step_quiet (hs : Life.Step anyOrder l l') (hc : l.moment.cursor.cleanups = []) :
    ∃ since, l'.moment.history = since ++ l.moment.history ∧
      ((∀ i ∈ since, i.asks = false) → ∀ t ∈ l'.threads, t ∈ l.threads) ∧
      ((∃ i ∈ since, i.lends) → ∃ t ∈ l.threads, t.isLeasing) := by
  cases hs with
  | @call _ a h =>
    obtain ⟨since, heq, hthreads, hlends⟩ := proceed_quiet a l.threads a.program
      (m := l.moment.record (.begun a)) rfl
    refine ⟨since, heq, fun hasks t ht => ?_, fun h => ?_⟩
    · rw [Life.begin, hthreads hasks] at ht
      exact ht
    · simpa [Incident.lends] using hlends h
  | run h => simp [hc] at h
  | @resume m before after a q next x _ _ =>
    obtain ⟨since, heq, hthreads, hlends⟩ := proceed_quiet a (before ++ after) (next x)
      (m := m.answer q x) rfl
    refine ⟨since, heq, fun hasks t ht => ?_, fun h => ?_⟩
    · rw [hthreads hasks] at ht
      exact Thread.mem_beside _ ht
    · refine ⟨⟨a, .ask q next⟩, by simp, ?_⟩
      have hq := hlends h
      cases q <;> simp [Incident.lends] at hq
      rfl

/-- Nothing was put back and nothing asked for, and who waits has waited before. -/
structure Dormant (since : List Incident) (l l' : Life) : Prop where
  retired : Retired l.moment l'.moment
  quiet : ∀ i ∈ since, i.asks = false
  threads : ∀ t ∈ l'.threads, t ∈ l.threads

/-- A cursor without a server cursor stays dormant where nobody waits for a connection. -/
theorem dormant_of_reaches {loopRuns : Bool} (hc : ofPlan .blocking plan = .ok c)
    (hl : Life.Reaches anyOrder (Life.opening c plan.first loopRuns) l)
    (hs : l.moment.cursor.progress.serverCursor = none)
    (hleases : ∀ t ∈ l.threads, t.isLeasing = false) (hl' : Life.Reaches anyOrder l l') :
    ∃ since, l'.moment.history = since ++ l.moment.history ∧
      ((∃ i ∈ since, i.brings) ∨ Dormant since l l') := by
  induction hl' with
  | refl => exact ⟨[], rfl, .inr ⟨.refl hs, by simp, fun _ ht => ht⟩⟩
  | @tail l₁ l₂ hreaches hstep ih =>
    obtain ⟨since, heq, hbrings | hdormant⟩ := ih
    · obtain ⟨news, hnews⟩ := Life.suffix_step hstep
      exact ⟨news ++ since, by rw [← hnews, heq, List.append_assoc],
        .inl (exists_mem_append.2 (.inr hbrings))⟩
    have horderly := sound_closing.orderly_of_reaches (hl.trans hreaches)
      (orderly_closing hc loopRuns)
    obtain ⟨news, hnews, hwanes⟩ := sound_closing.respects_step hstep horderly
    obtain ⟨news', hnews', hthreads, hlends⟩ := step_quiet hstep horderly.invariant.cleanups
    obtain rfl : news' = news := List.append_cancel_right (hnews'.symm.trans hnews)
    refine ⟨news' ++ since, by rw [hnews, heq, List.append_assoc], ?_⟩
    obtain hbrings | ⟨hretired, hcalm⟩ := hwanes hdormant.retired.serverCursor
    · exact .inl (exists_mem_append.2 (.inl hbrings))
    -- an exchange would need a connection, and nobody waits for one
    have hquiet : ∀ i ∈ news', i.asks = false := by
      intro i hi
      refine eq_false_of_ne_true fun hasks => ?_
      obtain ⟨t, ht, hleasing⟩ := hlends (hcalm ⟨i, hi, hasks⟩)
      simp [hleases t (hdormant.threads t ht)] at hleasing
    exact .inr ⟨hdormant.retired.trans hretired,
      List.forall_mem_append.2 ⟨hquiet, hdormant.quiet⟩,
      fun t ht => hdormant.threads t (hthreads hquiet t ht)⟩

/-! ## The kill of a closing -/

/-- The environment of a closing that has taken the server cursor away when it asks. -/
def emptied : Environment Moment := answering fun _ m => m.cursor.progress.serverCursor = none

theorem undisturbed_emptied : Undisturbed emptied Moment.cell
    (fun m => m.cursor.progress.serverCursor = none) where
  ask q m _ h := by
    refine ⟨h, ?_⟩
    rintro x _ rfl
    exact h
  log _ _ _ h := h
  giveBack _ _ _ _ _ h := h

/-- A closing has taken the server cursor away when it asks for something. -/
theorem ensures_close_emptied (hmode : m.cursor.mode = .blocking) (loopRuns : Bool) :
    Ensures emptied Moment.cell (fun _ _ => True) (Activity.close loopRuns).program m := by
  refine Program.ensures_bind.2 ?_
  simp only [close, Program.ensures_bind, Program.ensures_get, Program.continues_ok,
    Moment.cell_load, hmode]
  split
  · trivial
  refine Program.ensures_always.2 (Program.ensures_mono (fun o m₁ _ => ?_)
    (undisturbed_emptied.ensures_killHeld rfl id none))
  refine Program.ensures_bind.2 ?_
  rw [Program.ensures_modify, Program.continues_ok, ensures_releaseResources]
  rcases o with e | _ <;> trivial

namespace Life

/-- A kill was sent just now. -/
def AsksKill (l : Life) : Prop :=
  ∃ x ns ids earlier, l.moment.history = .asked (.killCursors x ns ids) :: earlier

/-- A closing has begun and has sent its kill, over a connection that the cursor has or that it is
    given at once. -/
inductive SendsKill (l : Life) : Life → Prop where
  | held {loopRuns : Bool} (hcall : MayCall anyOrder (.close loopRuns) l)
      (hasks : (l.begin (.close loopRuns)).AsksKill) : SendsKill l (l.begin (.close loopRuns))
  | leased {loopRuns : Bool} {m : Moment} {s : Source} {x : Connection} {ts : List Thread}
      {next : Outcome Connection → Program Cursor Yield}
      (hcall : MayCall anyOrder (.close loopRuns) l)
      (hbegin : l.begin (.close loopRuns) = ⟨m, ⟨.close loopRuns, .ask (.lease s) next⟩ :: ts⟩)
      (hasks : (proceed (.close loopRuns) ts (next (.ok x))
        (m.answer (.lease s) (.ok x))).AsksKill) :
      SendsKill l (proceed (.close loopRuns) ts (next (.ok x)) (m.answer (.lease s) (.ok x)))

/-- What has just sent a kill has no server cursor, and waits for no connection. -/
theorem AsksKill.sent {a : Activity} {ts : List Thread} {p : Program Cursor Yield}
    (hasks : (proceed a ts p m).AsksKill)
    (h : Ensures emptied Moment.cell (fun _ _ => True) p m)
    (hts : ∀ t ∈ ts, t.isLeasing = false) :
    (proceed a ts p m).moment.cursor.progress.serverCursor = none ∧
      ∀ t ∈ (proceed a ts p m).threads, t.isLeasing = false := by
  obtain ⟨x, ns, ids, earlier, hhistory⟩ := hasks
  obtain ⟨ns', m', -, ⟨o, -, heq⟩ | ⟨q, next, hs, -, heq⟩⟩ := proceed_of_answering a ts h
  · rw [heq] at hhistory
    simp at hhistory
  · rw [heq] at hhistory ⊢
    obtain ⟨hq, -⟩ := List.cons.inj hhistory
    obtain rfl : q = .killCursors x ns ids := by simpa using hq
    exact ⟨hs, List.forall_mem_cons.2 ⟨rfl, hts⟩⟩

theorem SendsKill.sent (h : l.SendsKill l₁) (hmode : l.moment.cursor.mode = .blocking)
    (hleases : ∀ t ∈ l.threads, t.isLeasing = false) : Reaches anyOrder l l₁ ∧
      l₁.moment.cursor.progress.serverCursor = none ∧ ∀ t ∈ l₁.threads, t.isLeasing = false := by
  have hclose (loopRuns : Bool) : Ensures emptied Moment.cell (fun _ _ => True)
      (Activity.close loopRuns).program (l.moment.record (.begun (.close loopRuns))) :=
    ensures_close_emptied (m := l.moment.record (.begun (.close loopRuns))) hmode loopRuns
  cases h with
  | held hcall hasks =>
    exact ⟨.single (.call hcall), hasks.sent (hclose _) hleases⟩
  | @leased loopRuns m s x ts next hcall hbegin hasks =>
    have hresume : Step anyOrder ⟨m, [] ++ ⟨.close loopRuns, .ask (.lease s) next⟩ :: ts⟩
        (proceed (.close loopRuns) ts (next (.ok x)) (m.answer (.lease s) (.ok x))) :=
      .resume (fun _ => rfl) trivial
    refine ⟨.tail (.single (.call hcall)) (hbegin ▸ hresume), ?_⟩
    obtain ⟨ns, m', -, ⟨o, -, heq⟩ | ⟨q, next', -, hnext, heq⟩⟩ :=
      proceed_of_answering (.close loopRuns) l.threads (hclose loopRuns)
    · have hthreads := congrArg Life.threads (heq.symm.trans hbegin)
      simpa [Thread.isLeasing] using hleases ⟨.close loopRuns, .ask (.lease s) next⟩
        (hthreads ▸ List.mem_cons_self)
    · obtain ⟨hm, hthreads⟩ := Life.mk.inj (heq.symm.trans hbegin)
      obtain ⟨hhead, rfl⟩ := List.cons.inj hthreads
      cases hhead
      subst hm
      exact hasks.sent (hnext (.ok x)) hleases

end Life

/-- **A closing retires the cursor when it sends its kill**, unless a batch comes in before the kill
    is answered.  When the closing begins, no thread waits for the lease of a connection
    (`hleases`); the closing sends its kill over the connection of the cursor or over one that it
    is given at once (`SendsKill`). -/
theorem retired_of_sendsKill {loopRuns : Bool} (hc : ofPlan .blocking plan = .ok c)
    (hl : Life.Reaches anyOrder (Life.opening c plan.first loopRuns) l)
    (hleases : ∀ t ∈ l.threads, t.isLeasing = false) (hsends : l.SendsKill l₁)
    (hl' : Life.Reaches anyOrder l₁ l') (hsince : l'.moment.history = since ++ l₁.moment.history)
    (hlate : ∀ i ∈ since, i.brings = false) :
    Retired l₁.moment l'.moment ∧ ∀ i ∈ since, i.asks = false := by
  have hmode := (sound_closing.orderly_of_reaches hl (orderly_closing hc loopRuns)).invariant.mode
  obtain ⟨hl₁, hs, hleases₁⟩ := hsends.sent hmode hleases
  obtain ⟨since', heq, h⟩ := dormant_of_reaches hc (hl.trans hl₁) hs hleases₁ hl'
  obtain rfl : since' = since := List.append_cancel_right (heq.symm.trans hsince)
  obtain ⟨i, hi, hbrings⟩ | hdormant := h
  · simp [hlate i hi] at hbrings
  · exact ⟨hdormant.retired, hdormant.quiet⟩

/-- A cursor whose reader waits for a batch. -/
def reading : Life :=
  (((Life.opening (sample .blocking 0) (Plan.sample 0).first true).begin (.next 2)).begin
    (.hasNext 2)).respond lively

/-- The same when it is being closed, and the kill is under way. -/
def killing : Life := (reading.begin (.close true)).respond obliging

/-- The same after the kill, when the batch has come. -/
def closedReading : Life := (killing.respond obliging).respond lively

theorem reaches_reading : Life.Reaches anyOrder
    (Life.opening (sample .blocking 0) (Plan.sample 0).first true) reading := by
  let opened := Life.opening (sample .blocking 0) (Plan.sample 0).first true
  have hopened : Life.Reaches anyOrder opened opened := .refl
  have htaken := hopened.begin (a := .next 2)
    ⟨trivial, rfl, by decide +kernel, fun _ => by decide +kernel⟩
  have hwaiting := htaken.begin (a := .hasNext 2)
    ⟨trivial, rfl, by decide +kernel, fun _ => by decide +kernel⟩
  exact hwaiting.respond lively fun _ => trivial

theorem sendsKill_killing : reading.SendsKill killing := by
  have hcall : Life.MayCall anyOrder (.close true) reading :=
    ⟨trivial, rfl, by decide +kernel, fun h => by simp [Activity.isRetrieval] at h⟩
  exact .leased (x := ⟨1, { address := {}, version := [3, 0] }⟩) hcall rfl ⟨_, _, _, _, rfl⟩

theorem retired_closedReading : Retired killing.moment closedReading.moment ∧
    ∀ i ∈ closedReading.moment.history.take 8, i.asks = false := by
  have hkilling : Life.Reaches anyOrder killing killing := .refl
  have hover : Life.Reaches anyOrder killing closedReading :=
    (hkilling.respond obliging fun _ => trivial).respond lively fun _ => trivial
  exact retired_of_sendsKill (ofPlan_sample .blocking 0) reaches_reading (by decide +kernel)
    sendsKill_killing hover (List.take_append_drop 8 _).symm (by decide +kernel)

/-- The life in which the thread before the latest goes on with an answer. -/
def Life.respondLate (answers : (q : Exchange) → Outcome q.Answer) : Life → Life
  | ⟨m, t :: ⟨a, .ask q next⟩ :: after⟩ =>
    proceed a (t :: after) (next (answers q)) (m.answer q (answers q))
  | l => l

theorem Life.Reaches.respondLate (h : Life.Reaches anyOrder l l')
    (answers : (q : Exchange) → Outcome q.Answer) :
    Life.Reaches anyOrder l (l'.respondLate answers) := by
  obtain ⟨m, _ | ⟨t, _ | ⟨⟨a, p⟩, after⟩⟩⟩ := l'
  · exact h
  · exact h
  cases p with
  | ask q next =>
    have hstep : Life.Step anyOrder ⟨m, [t] ++ ⟨a, .ask q next⟩ :: after⟩
        (Life.proceed a (t :: after) (next (answers q)) (m.answer q (answers q))) :=
      .resume (fun hnested => by simp at hnested) trivial
    exact .tail h hstep
  | _ => exact h

/-- The cursor whose kill is under way, when the batch has come before the kill was answered. -/
def revived : Life := killing.respondLate lively

/-- The same when the reader has gone on to the batch after it. -/
def refetching : Life := ((revived.begin (.next 2)).begin (.next 2)).respond lively

/-- A batch that comes in before the kill is answered is put back, and its server cursor, too: it is
    fetched from again although it was killed. -/
theorem revived_before_kill_answered :
    reading.SendsKill killing ∧ Life.Reaches anyOrder killing revived ∧
    revived.moment.cursor.progress.nextBatch.isSome ∧
    revived.moment.cursor.progress.serverCursor.map (·.id) = some 7 ∧
    Life.Reaches anyOrder revived refetching ∧
    ∃ x ns n decode earlier, refetching.moment.history
      = .asked (.getMore x ns 7 n decode) :: earlier := by
  have hkilling : Life.Reaches anyOrder killing killing := .refl
  refine ⟨sendsKill_killing, hkilling.respondLate lively, by decide +kernel, by decide +kernel, ?_,
    _, _, _, _, _, rfl⟩
  have hrevived : Life.Reaches anyOrder revived revived := .refl
  have htaken := hrevived.begin (a := .next 2)
    ⟨trivial, rfl, by decide +kernel, fun _ => by decide +kernel⟩
  have hwaiting := htaken.begin (a := .next 2)
    ⟨trivial, rfl, by decide +kernel, fun _ => by decide +kernel⟩
  exact hwaiting.respond lively fun _ => trivial

end DocumentClient.Cursor
