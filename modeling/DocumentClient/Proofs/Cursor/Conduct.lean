/-
  Every activity keeps a cursor in agreement with its ledger.

  The callers of a blocking cursor run inside one another, the activities of an
  asynchronous one alternate.  What a retrieval does is the same in both: it is stated
  once, for callers inside one another (`Proceeds`), and carried to alternating activities
  (`holds_of_discipline`).  Closing and scheduled kills differ.

  `agrees_of_reaches`: in every life that can be reached the cursor agrees with its ledger.
-/
import DocumentClient.Proofs.Cursor.Custody
import DocumentClient.Proofs.Cursor.EventLoop
import DocumentClient.Proofs.Cursor.Retrieving

namespace DocumentClient.Cursor

open Program (Ensures Environment)

namespace Reckoning

variable {mode : Mode} {plan : Plan} {m m' : Moment} {target : ServerCursor} {e : Failure}

/-! ## Callers inside one another -/

/-- Which answers come: to a blocking cursor values and ordinary failures. -/
def Admits : Mode → (q : Exchange) → Outcome q.Answer → Prop
  | .blocking => Custody.Ordinary
  | .async => fun _ _ => True

/-- Which failures come. -/
def Comes (mode : Mode) (e : Failure) : Prop := mode = .blocking → e.isOrdinary

theorem Admits.comes {q : Exchange} {x : Outcome q.Answer} (h : Admits mode q x) :
    ∀ e, x = .error e → Comes mode e := by
  intro e he hmode
  subst hmode
  exact h e he

/-- What callers of a cursor owe to each other. -/
def discipline (mode : Mode) (plan : Plan) : Discipline where
  invariant := Agrees mode plan
  tolerates m m' := (Agrees mode plan m → Agrees mode plan m') ∧ Defers plan m m'
  admits := Admits mode

/-- The rule of an exchange. -/
theorem holds_ask {q : Exchange} (h : Agrees mode plan m)
    (hr : Rightful mode plan (.asked q) m.history) :
    (discipline mode plan).environment.demands q m ∧
      ∀ x m', (discipline mode plan).environment.resumes q m x m' → Admits mode q x ∧
        ∃ m₁, Agrees mode plan m₁ ∧ Defers plan (m.record (.asked q)) m₁ ∧ m' = m₁.answer q x := by
  refine ⟨h.asked hr, ?_⟩
  rintro x _ ⟨hx, m₁, ⟨hagrees, hdefers⟩, rfl⟩
  exact ⟨hx, m₁, hagrees (h.asked hr), hdefers, rfl⟩

theorem defers_asked (q : Exchange) (m : Moment) : Defers plan m (m.record (.asked q)) :=
  ⟨trails_passed rfl rfl, fun _ => rfl⟩

theorem defers_answer {q : Exchange} {x : Outcome q.Answer}
    (hl : (ledger plan (m.answer q x).history).failure = (ledger plan m.history).failure) :
    Defers plan m (m.answer q x) :=
  ⟨trails_passed rfl hl, fun _ => rfl⟩

/-! ## Kills -/

/-- The kill of a server cursor was logged, and since then nothing has happened that matters to a
    retrieval. -/
structure Pursued (mode : Mode) (plan : Plan) (target : ServerCursor) (m m' : Moment) : Prop where
  agrees : Agrees mode plan m'
  defers : Defers plan m m'
  standing : (ledger plan m'.history).standing = .doomed target

theorem Pursued.isHeld (h : Pursued mode plan target m m') :
    (ledger plan m'.history).isHeld = false := by
  simp [Ledger.isHeld, h.standing]

theorem isHeld_of_doomed {history : List Incident}
    (h : (ledger plan history).standing = .doomed target) :
    (ledger plan history).isHeld = false := by
  simp [Ledger.isHeld, h]

theorem Pursued.noticed (h : Pursued mode plan target m m') {n : Notice}
    (hn : isKillRecord n = false) : Pursued mode plan target m (m'.record (.noticed n)) where
  agrees := h.agrees.noticed hn
  defers := h.defers.trans ⟨trails_passed (Incident.isPassing_noticed hn) rfl, fun _ => rfl⟩
  standing := h.standing

/-- A kill goes on when its exchange is answered. -/
theorem Pursued.resumed (h : Pursued mode plan target m m') {m₁ : Moment} {q : Exchange}
    {x : Outcome q.Answer} (ha : Agrees mode plan m₁)
    (hd : Defers plan (m'.record (.asked q)) m₁) :
    Pursued mode plan target m (m₁.answer q x) := by
  have hstanding : (ledger plan m₁.history).standing = .doomed target := by
    obtain ⟨later, heq⟩ := hd.suffix
    have hasked : (ledger plan (m'.record (.asked q)).history).standing = .doomed target :=
      h.standing
    have := (ledger_append_of_not_held (isHeld_of_doomed hasked) later).standing
    rw [heq] at this
    exact this.trans hasked
  have hl : ledger plan (m₁.answer q x).history = ledger plan m₁.history :=
    ledger_answer_of_not_held (isHeld_of_doomed hstanding)
  refine ⟨ha.answered hl, ?_, by rw [hl]; exact hstanding⟩
  exact ((h.defers.trans (defers_asked q m')).trans hd).trans (defers_answer (by rw [hl]))

/-- A kill may ask. -/
theorem Pursued.rightful (h : Pursued mode plan target m m') {q : Exchange}
    (hq : isFetch q = false) (hids : ∀ x ns ids, q = .killCursors x ns ids → ids = [target.id]) :
    Rightful mode plan (.asked q) m'.history := by
  cases q with
  | killCursors x ns ids => exact ⟨target, h.standing, hids x ns ids rfl⟩
  | _ => exact fun hfetch => by simp [hq] at hfetch

/-- A request of a kill comes too late to overlap it. -/
theorem overlapped_of_requested {q : Exchange} (hq : (Incident.asked q).requestsKill)
    (hd : Defers plan (m.record (.asked q)) m') (ho : Overlapped (sinceCall m'.history)) :
    Overlapped (sinceCall m.history) := by
  obtain ⟨later, heq, hlater⟩ := hd.later
  rw [heq, sinceCall_append fun i hi => (hlater i hi).1, Moment.record_history,
    sinceCall_cons rfl] at ho
  exact overlapped_of_cons (by simp) (ho.of_append (List.mem_cons_self ..) hq)

/-- What a kill keeps once it is logged; when it is requested at once, nothing overlaps it. -/
theorem sendable_discipline (m : Moment) :
    Sendable (discipline mode plan).environment
      (fun m' => Pursued mode plan target m m' ∧
        (Overlapped (sinceCall m'.history) → Overlapped (sinceCall m.history)))
      (fun m' => Pursued mode plan target m m' ∧
        (Overlapped (sinceCall m'.history) → Overlapped (sinceCall m.history)))
      (Comes mode) target where
  send x ns m' h := by
    obtain ⟨hdemands, hresumes⟩ := holds_ask h.1.agrees
      (h.1.rightful (q := .killCursors x ns [target.id]) rfl (by simp))
    refine ⟨hdemands, fun x m'' hm => ?_⟩
    obtain ⟨hx, m₁, ha, hd, rfl⟩ := hresumes x m'' hm
    exact ⟨⟨h.1.resumed ha hd, fun ho =>
      h.2 (overlapped_of_requested rfl hd (overlapped_of_answer ho))⟩, hx.comes⟩
  fails e m' h := ⟨h.1.noticed rfl, fun ho => h.2 (overlapped_of_noticed _ ho)⟩
  back x m' h := ⟨h.1.noticed rfl, fun ho => h.2 (overlapped_of_noticed _ ho)⟩

theorem killable_discipline (m : Moment) :
    Killable (discipline mode plan).environment Moment.cell (Pursued mode plan target m)
      (Pursued mode plan target m) (Comes mode) target where
  lease source m' h := by
    obtain ⟨hdemands, hresumes⟩ := holds_ask h.agrees
      (h.rightful (q := .lease source) rfl (by simp))
    refine ⟨hdemands, fun x m'' hm => ?_⟩
    obtain ⟨hx, m₁, ha, hd, rfl⟩ := hresumes x m'' hm
    rcases x with e | x
    · exact ⟨h.resumed ha hd, hx.comes e rfl⟩
    · exact h.resumed ha hd
  send x ns m' h := by
    obtain ⟨hdemands, hresumes⟩ := holds_ask h.agrees
      (h.rightful (q := .killCursors x ns [target.id]) rfl (by simp))
    refine ⟨hdemands, fun x m'' hm => ?_⟩
    obtain ⟨hx, m₁, ha, hd, rfl⟩ := hresumes x m'' hm
    exact ⟨h.resumed ha hd, hx.comes⟩
  fails e m' h := h.noticed rfl
  back x m' h := h.noticed rfl
  noSource m' h _ _ := ⟨h, fun _ => rfl⟩

theorem Due.pursued (h : Due mode plan target m) :
    Pursued mode plan target m (m.record (.noticed (killBegins m.cursor.mode target))) := by
  rw [h.flavour]
  exact ⟨h.logged, ⟨trails_record rfl rfl (by simp) rfl, fun _ => rfl⟩, h.standing⟩

theorem trails_forgotten (m : Moment) : Trails plan m (m.put m.cursor.forget) := trails_put id rfl

/-- The server cursor that is to be killed is killed. -/
theorem Condemned.holds_killHeld (h : Condemned mode plan target m) (given : Option Connection) :
    (discipline mode plan).Holds (fun o m' => (∀ e, o = .error e → Comes mode e ∧
        e.isOrdinary = false) ∧ Pursued mode plan target (m.put m.cursor.forget) m')
      (killHeld given) m := by
  simp only [killHeld, Program.ensures_bind, Program.ensures_get, Program.continues_ok,
    Moment.cell_load, h.serverCursor, Program.ensures_modify, Moment.cell_store]
  exact Program.ensures_mono (fun o m' h' => ⟨h'.2, h'.1⟩)
    ((killable_discipline (m.put m.cursor.forget)).ensures_killCursor given h.forgotten.pursued)

/-- The same over a given connection: the kill is requested at once, and nothing overlaps it. -/
theorem Condemned.holds_killHeld_over (h : Condemned mode plan target m) (x : Connection) :
    (discipline mode plan).Holds (fun o m' => (∀ e, o = .error e → Comes mode e ∧
        e.isOrdinary = false) ∧ Pursued mode plan target (m.put m.cursor.forget) m' ∧
        (Overlapped (sinceCall m'.history) → Overlapped (sinceCall m.history)))
      (killHeld (some x)) m := by
  simp only [killHeld, Program.ensures_bind, Program.ensures_get, Program.continues_ok,
    Moment.cell_load, h.serverCursor, Program.ensures_modify, Moment.cell_store]
  exact Program.ensures_mono (fun o m' h' => ⟨h'.2, h'.1⟩)
    ((sendable_discipline (m.put m.cursor.forget)).ensures_killCursor_over x
      ⟨h.forgotten.pursued, fun ho => overlapped_of_noticed _ ho⟩)

theorem eq_cancelled (h : e.isOrdinary = false) : e = .cancelled := by
  cases e <;> first | rfl | simp [Failure.isOrdinary] at h

/-! ## Closing -/

/-- A cursor was closed. -/
structure Shut (mode : Mode) (plan : Plan) (m m' : Moment) : Prop where
  agrees : Agrees mode plan m'
  trails : Trails plan m m'
  closed : m'.cursor.closed

/-- A cursor that is to be closed: it holds no server cursor, or one that is to be killed. -/
def Closing (mode : Mode) (plan : Plan) (m : Moment) : Prop :=
  (Agrees mode plan m ∧ (ledger plan m.history).isHeld = false) ∨
    ∃ target, Condemned mode plan target m

/-- A cursor without a server cursor is closed and releases its resources. -/
theorem Agrees.shut_settled (h : Agrees mode plan m)
    (hheld : (ledger plan m.history).isHeld = false) :
    Shut mode plan m (m.put { m.cursor with closed := true }).settled := by
  have hcursor := Moment.settled_cursor (m.put { m.cursor with closed := true })
  have hput : Trails plan m (m.put { m.cursor with closed := true }) :=
    trails_put (fun _ => rfl) rfl
  have htrails := hput.trans (defers_settled _).toTrails
  refine ⟨?_, htrails, by rw [hcursor]; rfl⟩
  -- whether the resources were released before or not, their flag is set
  rcases hr : m.cursor.released with _ | _
  · have hshut := h.shut hheld
    have hsettled : (m.put { m.cursor with closed := true }).settled
        = (dues m.cursor).foldl (fun m n => m.record (.noticed n))
          (m.put { m.cursor with closed := true, released := true }) := by
      rw [Moment.foldl_record, Moment.settled, Moment.put_cursor, hr, if_neg (by simp)]
      rfl
    rw [hsettled]
    exact Moment.of_notices (fun _ _ hn h => h.noticed hn) (fun _ => isKillRecord_of_mem_dues) hshut
  · have hsettled : (m.put { m.cursor with closed := true }).settled
        = m.put { m.cursor with closed := true, released := true } := by
      rw [Moment.settled, Moment.put_cursor, hr, if_pos rfl, ← hr]
    rw [hsettled]
    exact h.shut hheld

theorem holds_releaseResources {Q : Outcome Unit → Moment → Prop} :
    (discipline mode plan).Holds Q releaseResources m ↔ Q (.ok ()) m.settled :=
  ensures_releaseResources.trans (by rw [Moment.settle_eq rfl])

/-- On a running loop an open cursor is closed at once. -/
theorem Closing.shut_now (h : Closing .async plan m) : Shut .async plan m m.shut := by
  unfold Moment.shut
  rcases h with ⟨ha, hheld⟩ | ⟨target, hc⟩
  · rw [ha.serverCursor_of_not_held hheld]
    exact ha.shut_settled hheld
  · rw [hc.serverCursor]
    exact ⟨hc.scheduled true, trails_put (fun _ => rfl) rfl, rfl⟩

theorem Closing.flavour (h : Closing mode plan m) : m.cursor.mode = mode := by
  rcases h with ⟨ha, -⟩ | ⟨target, hc⟩
  · exact ha.flavour
  · exact hc.flavour

/-- Once no server cursor is held, closing comes to its end. -/
theorem Agrees.holds_last {m₁ : Moment} (h : Agrees mode plan m₁)
    (hheld : (ledger plan m₁.history).isHeld = false) (ht : Trails plan m m₁) :
    (discipline mode plan).Holds (fun o m' => o = .ok () ∧ Shut mode plan m m')
      (do Program.modify fun c => { c with closed := true }; releaseResources) m₁ := by
  simp only [Program.ensures_bind, Program.ensures_modify, Program.continues_ok,
    Moment.cell_load, Moment.cell_store]
  have hshut := h.shut_settled hheld
  exact holds_releaseResources.2 ⟨rfl, hshut.agrees, ht.trans hshut.trails, hshut.closed⟩

/-- Outside an event loop a server cursor that is held is killed first. -/
theorem Closing.holds_kill (h : Closing .blocking plan m) :
    (discipline .blocking plan).Holds (fun o m' => o = .ok () ∧ Shut .blocking plan m m')
      ((killHeld none).always
        (do Program.modify fun c => { c with closed := true }; releaseResources)) m := by
  refine Program.ensures_always.2 ?_
  have hrest : ∀ o m', o = .ok () ∧ Shut .blocking plan m m' →
      Program.Continues (discipline .blocking plan).environment Moment.cell
        (fun o m' => o = .ok () ∧ Shut .blocking plan m m')
        (fun _ => Program.ofOutcome (.ok ())) o m' := by
    rintro o m' ⟨rfl, hshut⟩
    exact ⟨rfl, hshut⟩
  rcases h with ⟨ha, hheld⟩ | ⟨target, hc⟩
  · simp only [killHeld, Program.ensures_bind, Program.ensures_get, Program.continues_ok,
      Moment.cell_load, ha.serverCursor_of_not_held hheld, Program.ensures_pure]
    exact Program.ensures_mono hrest (ha.holds_last hheld (.refl m))
  · refine Program.ensures_mono ?_ (hc.holds_killHeld none)
    rintro (e | a) m₁ ⟨hcomes, hpursued⟩
    · obtain ⟨hordinary, hnot⟩ := hcomes e rfl
      simp [hordinary rfl] at hnot
    · exact Program.ensures_mono hrest (hpursued.agrees.holds_last hpursued.isHeld
        ((trails_forgotten m).trans hpursued.defers.toTrails))

/-- In an event loop that runs, the kill is scheduled. -/
theorem Closing.holds_schedule (h : Closing .async plan m) :
    (discipline .async plan).Holds (fun o m' => o = .ok () ∧ Shut .async plan m m')
      (do Program.modify fun c => { c with closed := true }; scheduleCleanup true) m := by
  simp only [Program.ensures_bind, Program.ensures_modify, Program.continues_ok,
    Moment.cell_load, Moment.cell_store]
  have hshut := h.shut_now
  unfold Moment.shut at hshut
  rcases hs : m.cursor.progress.serverCursor with _ | target
  · rw [hs] at hshut
    simp only [scheduleCleanup, Program.ensures_bind, Program.ensures_get, Program.continues_ok,
      Moment.cell_load, Moment.put_cursor, hs]
    exact holds_releaseResources.2 ⟨rfl, hshut⟩
  · rw [hs] at hshut
    simp only [scheduleCleanup, Program.ensures_bind, Program.ensures_get, Program.continues_ok,
      Moment.cell_load, Moment.put_cursor, hs, Program.ensures_modify, Moment.cell_store]
    exact ⟨rfl, hshut⟩

/-- A cursor that is to be closed is closed. -/
theorem Closing.holds_close (h : Closing mode plan m) {loopRuns : Bool}
    (hloop : mode = .async → loopRuns = true) :
    (discipline mode plan).Holds (fun o m' => o = .ok () ∧ Shut mode plan m m')
      (close loopRuns) m := by
  simp only [close, Program.ensures_bind, Program.ensures_get, Program.continues_ok,
    Moment.cell_load, h.flavour]
  split
  · rename_i hclosed
    rcases h with ⟨ha, -⟩ | ⟨target, hc⟩
    · exact ⟨rfl, ha, .refl m, hclosed⟩
    · simp [hc.open_] at hclosed
  cases mode with
  | blocking => exact h.holds_kill
  | async =>
    obtain rfl := hloop rfl
    exact h.holds_schedule

/-- A failing fetch closes the cursor, unless it was the task that was cancelled. -/
theorem Failing.holds_giveUp (h : Failing mode plan e m) :
    (discipline mode plan).Holds (fun o m' => o = .ok () ∧ Concludes mode plan (some e) m')
      (giveUp e) m := by
  have hdone : e ≠ .cancelled → ∀ m', Closing mode plan m' → Trails plan m m' →
      (discipline mode plan).Holds (fun o m'' => o = .ok () ∧ Concludes mode plan (some e) m'')
        (close true) m' := by
    intro hne m' hc ht
    refine Program.ensures_mono ?_ (hc.holds_close fun _ => rfl)
    rintro o m'' ⟨rfl, hshut⟩
    exact ⟨rfl, h.concludes hne hshut.agrees (ht.trans hshut.trails) hshut.closed⟩
  cases h.cause with
  | closed htallies hclear hclosed =>
    have ha : Agrees mode plan m := ⟨h.posted, htallies⟩
    have hheld := ha.not_held_of_closed hclosed
    cases e with
    | cursorMissing number address =>
      simp only [giveUp, Program.ensures_bind, Program.ensures_modify, Program.continues_ok,
        Moment.cell_load, Moment.cell_store]
      have hnone : m.cursor.forget.progress.serverCursor = m.cursor.progress.serverCursor :=
        (ha.serverCursor_of_not_held hheld).symm
      exact hdone (by simp) _
        (.inl ⟨ha.put rfl rfl rfl id rfl ha.woken ha.bare hnone rfl, hheld⟩) (trails_forgotten m)
    | cancelled => exact ⟨rfl, h.concludes_now ha hclear⟩
    | _ => exact hdone (by simp) m (.inl ⟨ha, hheld⟩) (.refl m)
  | cancelled htallies hclear => exact ⟨rfl, h.concludes_now ⟨h.posted, htallies⟩ hclear⟩
  | condemned he hholding hs hf =>
    rw [giveUp_of_condemns he]
    refine hdone ?_ m (.inr ⟨_, h.posted, hholding, hs⟩) (.refl m)
    rintro rfl
    simp [condemns] at he
  | missing hholding hs hf =>
    simp only [giveUp, Program.ensures_bind, Program.ensures_modify, Program.continues_ok,
      Moment.cell_load, Moment.cell_store]
    have ha : Agrees mode plan (m.put m.cursor.forget) := by
      refine ⟨⟨h.toFramed.put rfl rfl (h.paid_of_eq rfl id rfl) h.woken h.bare, h.delivered,
        h.posted.left⟩, ?_⟩
      rw [Moment.put_history, hs]
      exact ⟨rfl, hholding.attempts, hholding.cleanups⟩
    exact hdone (by simp) _ (.inl ⟨ha, by simp [Ledger.isHeld, hs]⟩) (trails_forgotten m)

/-! ## Fetching -/

/-- How a fetch ends that was made over a connection. -/
def Fetched (mode : Mode) (plan : Plan) : Outcome Verdict → Moment → Prop
  | .ok _, m => Concludes mode plan none m
  | .error e, m => Failing mode plan e m

theorem Fetched.noticed {o : Outcome Verdict} (h : Fetched mode plan o m) {n : Notice}
    (hn : isKillRecord n = false) : Fetched mode plan o (m.record (.noticed n)) := by
  rcases o with e | v
  · exact Failing.noticed h hn
  · exact Concludes.noticed h hn

/-- A batch has come in for a retrieval that is under way and was not overlapped. -/
structure Receiving (mode : Mode) (plan : Plan) (result : QueryResult) (m : Moment) : Prop
    extends Arriving mode plan result m where
  under : m.ended Activity.isRetrieval < m.begun Activity.isRetrieval
  apart : ¬ Overlapped (sinceCall m.history)

theorem Receiving.noticed {result : QueryResult} (h : Receiving mode plan result m) {n : Notice}
    (hn : isKillRecord n = false) : Receiving mode plan result (m.record (.noticed n)) where
  toArriving := h.toArriving.noticed hn
  under := by
    rw [Moment.record_begun, Moment.record_ended]
    exact h.under
  apart ho := h.apart (overlapped_of_noticed n ho)

theorem Receiving.clear {result : QueryResult} (h : Receiving mode plan result m) :
    (ledger plan m.history).failure = none := by
  obtain ⟨l, hl, -, hfailure⟩ := h.prior
  rw [hl]
  exact hfailure

/-- A retrieval goes on when its batch was absorbed. -/
theorem Receiving.concludes {result : QueryResult} (h : Receiving mode plan result m)
    (ha : Agrees mode plan m') (ht : m'.history = m.history) : Concludes mode plan none m' := by
  refine concludes_of_clear ha ?_ ?_ ?_
  · have hcounts : ∀ p, m'.begun p = m.begun p ∧ m'.ended p = m.ended p := fun p => by
      simp only [Moment.begun, Moment.ended, ht, and_self]
    rw [(hcounts _).1, (hcounts _).2]
    exact h.under
  · rw [ht]
    exact h.clear
  · rw [ht]
    exact h.apart

/-- After a batch that has reached the limit, the server cursor is killed over the same
    connection. -/
theorem Receiving.holds_killHeld {result : QueryResult} (h : Receiving mode plan result m)
    {c : Cursor} (hc : Condemned mode plan target (m.put c)) (x : Connection) (v : Verdict) :
    (discipline mode plan).Holds (Fetched mode plan) (do killHeld (some x); return v)
      (m.put c) := by
  refine Program.ensures_bind.2 (Program.ensures_mono ?_ (hc.holds_killHeld_over x))
  rintro o m' ⟨hcomes, hpursued, hlate⟩
  have ht : Trails plan (m.put c) m' :=
    (trails_forgotten (m.put c)).trans hpursued.defers.toTrails
  have hunder : m'.ended Activity.isRetrieval < m'.begun Activity.isRetrieval := by
    rw [ht.counts.1, ht.counts.2]
    exact h.under
  have hclear : (ledger plan m'.history).failure = none := ht.failure.trans h.clear
  have hapart : ¬ Overlapped (sinceCall m'.history) := fun ho => h.apart (hlate ho)
  have ha := hpursued.agrees
  rcases o with e | a
  · obtain rfl := eq_cancelled (hcomes e rfl).2
    exact ⟨ha.toFramed, ha.delivered, hunder, fun ho => absurd ho hapart, fun hne => absurd rfl hne,
      .cancelled ha.tallies hclear⟩
  · exact concludes_of_clear ha hunder hclear hapart

/-- The rule of a batch: what survives its records holds when it is absorbed. -/
theorem holds_absorb {P : Moment → Prop} {Q : Outcome Verdict → Moment → Prop}
    {result : QueryResult}
    (hnotice : ∀ n m, isKillRecord n = false → P m → P (m.record (.noticed n))) (h : P m)
    (hQ : ∀ m₁ after, P m₁ →
      m₁.cursor.progress.advance m₁.cursor.limit m₁.cursor.batchSize result = after →
        Q (.ok after.2) (m₁.put { m₁.cursor with progress := after.1 })) :
    (discipline mode plan).Holds Q (absorb result) m := by
  obtain ⟨after, hafter⟩ : ∃ after, m.cursor.progress.advance m.cursor.limit m.cursor.batchSize
    result = after := ⟨_, rfl⟩
  refine (ensures_absorb_iff hafter).2 ?_
  have hnone : ∀ n ∈ dropRecords after.2, isKillRecord n = false :=
    fun _ => isKillRecord_of_mem_dropRecords
  have hlogged := Moment.of_notices (P := fun m' => P m' ∧ m'.cursor = m.cursor)
    (fun _ _ hn h => ⟨hnotice _ _ hn h.1, h.2⟩) hnone ⟨h, rfl⟩
  change Q _ (Moment.put { m.cursor with progress := after.1 }
    ((dropRecords after.2).foldl (fun m n => m.record (.noticed n)) m))
  generalize (dropRecords after.2).foldl (fun m n => m.record (.noticed n)) m = m₁ at hlogged ⊢
  obtain ⟨h₁, hcursor⟩ := hlogged
  rw [← hcursor] at hafter ⊢
  exact hQ m₁ after h₁ hafter

/-- What a fetch does with a batch. -/
theorem Receiving.holds_follow {result : QueryResult} (h : Receiving mode plan result m)
    (connection : Connection) :
    (discipline mode plan).Holds (Fetched mode plan) (follow connection result) m := by
  refine Program.ensures_bind.2 ?_
  simp only [Program.ensures_get, Program.continues_ok, Moment.cell_load]
  rw [if_neg (by simp [h.open_])]
  refine Program.ensures_bind.2 (holds_absorb (P := Receiving mode plan result)
    (fun _ _ hn h => h.noticed hn) h fun m₁ after h₁ hafter => ?_)
  obtain ⟨hgoing, hkill⟩ := h₁.toArriving.absorbed hafter
  rw [Program.continues_ok]
  split
  · rename_i hv
    obtain ⟨target, hcondemned⟩ := hkill hv
    exact h₁.holds_killHeld hcondemned connection _
  · rename_i hv
    exact h₁.concludes (hgoing hv) rfl

/-- The rule of an exchange of a fetch. -/
theorem Midway.holds_ask (h : Midway mode plan target m) {q : Exchange}
    (hq : ∀ x ns ids, q ≠ .killCursors x ns ids) :
    (discipline mode plan).environment.demands q m ∧
      ∀ x m', (discipline mode plan).environment.resumes q m x m' →
        ∃ m₁, Midway mode plan target m₁ ∧ m' = m₁.answer q x := by
  obtain ⟨hdemands, hresumes⟩ := Reckoning.holds_ask h.toAgrees (h.rightful hq)
  refine ⟨hdemands, fun x m' hm => ?_⟩
  obtain ⟨-, m₁, ha, hd, rfl⟩ := hresumes x m' hm
  exact ⟨m₁, h.deferred ha ((defers_asked q m).trans hd), rfl⟩

/-- A fetch that finds the cursor closed does nothing with its batch. -/
theorem Midway.holds_follow (h : Midway mode plan target m) (hc : m.cursor.closed)
    (connection : Connection) (result : QueryResult) :
    (discipline mode plan).Holds (Fetched mode plan) (follow connection result) m := by
  refine Program.ensures_bind.2 ?_
  simp only [Program.ensures_get, Program.continues_ok, Moment.cell_load]
  rw [if_pos hc]
  exact h.found_closed hc .fetching

/-- A fetch is made over a connection. -/
theorem Midway.holds_fetchOver (h : Midway mode plan target m) (connection : Connection) :
    (discipline mode plan).Holds (Fetched mode plan) (fetchOver target connection) m := by
  have hbegins : Midway mode plan target
      (m.record (.noticed (fetchBegins m.cursor target))) :=
    h.passed (Incident.isPassing_noticed (by simp)) (rightful_noticed (by simp)) rfl
  have hfetch := isFetch_fetchExchange m.cursor connection target
  obtain ⟨hdemands, hresumes⟩ := hbegins.holds_ask (q := fetchExchange m.cursor connection target)
    (fun x ns ids heq => by simp [heq, isFetch] at hfetch)
  rw [fetchOver_eq]
  refine Program.ensures_bind.2 (ensures_requestBatch.2 ⟨hdemands, fun x m' hm => ?_⟩)
  obtain ⟨m₁, h₁, rfl⟩ := hresumes x m' hm
  rcases hf : fetched target _ x with e | result
  · exact h₁.failed ((fetchOutcome_of_isFetch hfetch target x).trans (congrArg some hf))
  · have hx := (fetchOutcome_of_isFetch hfetch target x).trans (congrArg some hf)
    have hends : isKillRecord (fetchEnds m.cursor target result) = false := by simp
    rcases hc : m₁.cursor.closed with _ | _
    · have hreceiving : Receiving mode plan result (m₁.answer _ x) := by
        refine ⟨h₁.arrived hc hx, ?_, fun ho => ?_⟩
        · rw [Moment.answer, Moment.record_begun, Moment.record_ended]
          exact h₁.under
        · have := h₁.overlapped (overlapped_of_answer ho)
          simp [hc] at this
      exact (hreceiving.noticed hends).holds_follow connection
    · have hanswered := (h₁.answered (x := x) (ledger_answer_of_closed hc)).passed
        (Incident.isPassing_noticed hends) (rightful_noticed hends) rfl
      exact hanswered.holds_follow hc connection result

/-- A fetch is made over the connection of the cursor, or over one that is leased. -/
theorem Midway.holds_fetching (h : Midway mode plan target m)
    (hsource : m.cursor.source.isSome) :
    (discipline mode plan).Holds (Fetched mode plan) (withConnection (fetchOver target)) m := by
  refine ensures_withConnection.2 ?_
  simp only [Moment.cell_load]
  split
  · exact h.holds_fetchOver _
  · rename_i hnone
    simp [hnone] at hsource
  · rename_i handle _ _
    obtain ⟨hdemands, hresumes⟩ := h.holds_ask (q := .lease handle.resource) (by simp)
    refine ⟨hdemands, fun x m' hm => ?_⟩
    obtain ⟨m₁, h₁, rfl⟩ := hresumes x m' hm
    rcases x with e | x
    · exact h₁.failed rfl
    · have hanswered : Midway mode plan target (m₁.answer (.lease handle.resource) (.ok x)) :=
        h₁.answered (ledger_answer_of_none fun _ => rfl)
      exact Program.ensures_mono (fun o m'' h'' => h''.noticed rfl) (hanswered.holds_fetchOver x)

/-- From where a retrieval may end well, it goes on to where it may end. -/
def Proceeds {α : Type} (mode : Mode) (plan : Plan) (p : Program Cursor α) (m : Moment) : Prop :=
  Concludes mode plan none m → (discipline mode plan).Holds
    (fun o m' => Concludes mode plan (failureOf o) m') p m

theorem proceeds_fetch (hb : m.cursor.hasBatch = false) : Proceeds mode plan fetch m := by
  intro h
  simp only [fetch, Program.ensures_bind, Program.ensures_get, Program.continues_ok,
    Moment.cell_load]
  rcases hs : m.cursor.progress.serverCursor with _ | target
  · exact h
  have hmidway := h.midway hs (by simpa [hasBatch] using hb)
  have hsource : m.cursor.source.isSome := by
    rw [h.source]
    exact (h.holding (h.standing hs)).sourced
  refine Program.ensures_bind.2 (Program.ensures_attempt.2
    (Program.ensures_mono ?_ (hmidway.holds_fetching hsource)))
  rintro (e | v) m₁ h₁
  · simp only [Program.continues_ok]
    refine Program.ensures_bind.2 (Program.ensures_mono ?_ (Failing.holds_giveUp h₁))
    rintro _ m₂ ⟨rfl, h₂⟩
    exact h₂
  · simp only [Program.continues_ok]
    split
    · exact h₁
    · exact holds_releaseResources.2 (Concludes.settled h₁)

/-! ## Retrieving -/

section
variable {α β : Type}

theorem proceeds_bind {p : Program Cursor α} {f : α → Program Cursor β}
    (hp : Proceeds mode plan p m) (hf : ∀ a m', Proceeds mode plan (f a) m') :
    Proceeds mode plan (p >>= f) m := by
  intro h
  refine Program.ensures_bind.2 (Program.ensures_mono ?_ (hp h))
  rintro (e | a) m' h'
  · exact h'
  · exact hf a m' h'

theorem proceeds_pure (a : α) : Proceeds mode plan (pure a : Program Cursor α) m := id

theorem proceeds_fail (e : Failure) : Proceeds mode plan (Program.fail e : Program Cursor α) m :=
  fun h => h.failed e

/-- A look at the cursor. -/
theorem proceeds_get {f : Cursor → Program Cursor β}
    (hf : Proceeds mode plan (f m.cursor) m) : Proceeds mode plan (Program.get >>= f) m :=
  fun h => Program.ensures_bind.2 (hf h)

end

theorem proceeds_ensureOpen : Proceeds mode plan ensureOpen m := by
  refine proceeds_get ?_
  split
  · exact proceeds_fail _
  · exact proceeds_pure ()

theorem proceeds_takeBatch : Proceeds mode plan takeBatch m := by
  intro h
  refine ensures_takeBatch.2 ?_
  simp only [Moment.cell_load, Moment.cell_store]
  split
  · exact h.failed _
  · exact h.put (h.toAgrees.put rfl rfl rfl id rfl h.woken (fun _ => rfl) rfl rfl) id

/-- What others have done while a retrieval paused. -/
theorem Concludes.paused (h : Concludes mode plan none m) {q : Exchange} (ha : Agrees mode plan m')
    (hd : Defers plan (m.record (.asked q)) m') {failure : Option Failure}
    (hblamed : Overlapped (sinceCall m'.history) →
      ∃ e, failure = some e ∧ Blamed plan m'.history e) :
    Concludes mode plan failure m' := by
  have ht : Trails plan m m' := (defers_asked q m).toTrails.trans hd.toTrails
  refine ⟨ha, ?_, fun hf => ?_, fun e hu he => ?_, hblamed⟩
  · rw [ht.counts.1, ht.counts.2]
    exact h.under
  · rw [ht.failure] at hf
    rw [ht.counts.1, ht.counts.2]
    exact (h.own hf).imp_left ht.closed
  · rw [ht.untilCall] at hu
    rw [ht.failure] at he
    have := h.concluding.fetched e hu he
    simp at this

/-- A pause may fail. -/
theorem Concludes.holds_pause (h : Concludes mode plan none m) (length : Duration) :
    (discipline mode plan).Holds (fun o m' => Agrees mode plan m' ∧
        Defers plan (m.record (.asked (.pause length))) m' ∧
        ∀ e, o = .error e → Blamed plan m'.history e) (Program.pause length) m := by
  obtain ⟨hdemands, hresumes⟩ := holds_ask (q := .pause length) h.toAgrees
    fun hfetch => by simp [isFetch] at hfetch
  refine ⟨hdemands, fun x m' hm => ?_⟩
  obtain ⟨-, m₁, ha, hd, rfl⟩ := hresumes x m' hm
  have hl : ledger plan (m₁.answer (.pause length) x).history = ledger plan m₁.history :=
    ledger_answer_of_none fun _ => rfl
  refine ⟨ha.answered hl, hd.trans (defers_answer (by rw [hl])), fun e he => ?_⟩
  subst he
  have hmem : .answered (.pause length) (.error e) (!m₁.cursor.closed)
      ∈ sinceCall (m₁.answer (.pause length) (.error e)).history := by
    rw [Moment.answer, Moment.record_history, sinceCall_cons rfl]
    exact List.mem_cons_self ..
  exact .paused hmem

theorem proceeds_waitBeforeRetry : Proceeds mode plan waitBeforeRetry m := by
  refine proceeds_get fun h => Program.ensures_bind.2 ?_
  rcases Duration.ofInterval m.cursor.settings.pollInterval with e | length
  · exact h.failed e
  rw [Program.ensures_ofOutcome, Program.continues_ok]
  refine Program.ensures_bind.2 (Program.ensures_mono ?_ (h.holds_pause length))
  rintro (e | u) m' ⟨ha, hd, hfailed⟩
  · exact h.paused ha hd fun _ => ⟨e, rfl, hfailed e rfl⟩
  simp only [Program.ensures_bind, Program.ensures_get, Program.continues_ok, Moment.cell_load]
  split
  · rename_i hi
    have hconcludes := h.paused ha hd fun _ => ⟨.interrupted, rfl, .interrupted (ha.woken hi)⟩
    exact hconcludes.put (ha.put rfl rfl rfl id rfl (by simp) ha.bare rfl rfl) id
  split
  · exact h.paused ha hd fun _ => ⟨_, rfl, .closed _⟩
  · rename_i hc
    refine h.paused ha hd fun ho => ?_
    rcases hd.overlapped ho with ho | hclosed
    · exact absurd (overlapped_of_record rfl (by simp) ho) h.not_overlapped
    · exact absurd hclosed hc

theorem proceeds_awaitBatch (rounds : Nat) : ∀ m, Proceeds mode plan (awaitBatch rounds) m := by
  induction rounds with
  | zero => exact fun m => proceeds_pure _
  | succ rounds ih =>
    intro m
    rw [awaitBatch_succ]
    refine proceeds_get ?_
    split
    · exact proceeds_pure _
    rename_i hb
    split
    · exact proceeds_pure _
    refine proceeds_bind (proceeds_fetch (eq_false_of_ne_true hb)) fun _ m' => ?_
    refine proceeds_bind ?_ fun _ => ih
    refine proceeds_get ?_
    split
    · exact proceeds_pure ()
    · exact proceeds_waitBeforeRetry

theorem proceeds_hasNext (rounds : Nat) : Proceeds mode plan (hasNext rounds) m :=
  proceeds_bind proceeds_ensureOpen fun _ => proceeds_awaitBatch rounds

theorem proceeds_next (rounds : Nat) : Proceeds mode plan (next rounds) m := by
  refine proceeds_bind (proceeds_hasNext rounds) fun available m' => ?_
  cases available with
  | ready => exact proceeds_bind proceeds_takeBatch fun _ _ => proceeds_pure _
  | ended => exact proceeds_pure _
  | pending => exact proceeds_pure _

theorem proceeds_tryNext : Proceeds mode plan tryNext m := by
  rw [tryNext_eq]
  refine proceeds_bind proceeds_ensureOpen fun _ m₁ => proceeds_bind ?_ fun _ m₂ => ?_
  · refine proceeds_get ?_
    split
    · exact proceeds_pure ()
    · rename_i hs
      simp only [isSettled, Bool.or_eq_true, not_or] at hs
      exact proceeds_fetch (eq_false_of_ne_true hs.1)
  · refine proceeds_get ?_
    split
    · exact proceeds_bind proceeds_takeBatch fun _ _ => proceeds_pure _
    · exact proceeds_pure _

theorem proceeds_program {a : Activity} (ha : a.isRetrieval) : Proceeds mode plan a.program m := by
  cases a, ha using Activity.retrieval_cases with
  | hasNext rounds => exact proceeds_bind (proceeds_hasNext rounds) fun _ _ => proceeds_pure _
  | next rounds => exact proceeds_bind (proceeds_next rounds) fun _ _ => proceeds_pure _
  | tryNext => exact proceeds_bind proceeds_tryNext fun _ _ => proceeds_pure _

/-! ## Operations beside a retrieval -/

section
variable {a : Activity}

theorem defers_ended (hr : a.isRetrieval = false) (o : Outcome Yield) :
    Defers plan m (m.record (.ended a o)) :=
  ⟨trails_record rfl hr (by simp) rfl, fun _ => rfl⟩

theorem defers_begun (hr : a.isRetrieval = false) (hc : ∀ loopRuns, a ≠ .close loopRuns) :
    Defers plan m (m.record (.begun a)) :=
  ⟨trails_record hr rfl (by simpa using hc) (ledger_begun_failure a _), fun _ => rfl⟩

/-- What has come of the closing of a cursor since it began. -/
theorem defers_of_shut {loopRuns : Bool}
    (h : Shut mode plan (m.record (.begun (.close loopRuns))) m') : Defers plan m m' := by
  obtain ⟨later, heq, hlater⟩ := h.trails.later
  refine ⟨⟨⟨later ++ [.begun (.close loopRuns)], by simp [heq], fun i hi => ?_⟩, fun _ => h.closed,
    h.trails.nextBatch, h.trails.failure.trans (ledger_begun_failure _ _), fun _ => .inr h.closed⟩,
    fun hc => ?_⟩
  · rcases List.mem_append.1 hi with hi | hi
    · exact hlater i hi
    · obtain rfl := List.mem_singleton.1 hi
      exact ⟨rfl, rfl⟩
  · simp [h.closed] at hc

theorem defers_resized (n : Int) : Defers plan m
    ((m.put { m.cursor with batchSize := n }).record (.begun (.setBatchSize n))) := by
  have hput : Defers plan m (m.put { m.cursor with batchSize := n }) :=
    ⟨trails_put id rfl, fun _ => rfl⟩
  exact hput.trans (defers_begun rfl (by simp))

theorem defers_interrupted : Defers plan m
    ((m.record (.begun .interrupt)).put { m.cursor with interrupted := true }) := by
  have hbegun : Defers plan m (m.record (.begun .interrupt)) := defers_begun rfl (by simp)
  exact hbegun.trans ⟨trails_put id rfl, fun _ => rfl⟩

/-- What an operation leaves that runs beside a retrieval. -/
theorem holds_beside (ha : a.isOperation) (hr : a.isRetrieval = false)
    (hloop : mode = .async → a.onLoop) (h : Agrees mode plan m) :
    (discipline mode plan).Holds (fun o m' => Agrees mode plan (m'.record (.ended a o)) ∧
        Defers plan m (m'.record (.ended a o))) a.program (m.record (.begun a)) := by
  have hend : ∀ m' o, a.isCleanup = false → Agrees mode plan m' → Defers plan m m' →
      Agrees mode plan (m'.record (.ended a o)) ∧ Defers plan m (m'.record (.ended a o)) :=
    fun m' o hcleanup h' hd => ⟨h'.ended hcleanup hr o, hd.trans (defers_ended hr o)⟩
  cases a, ha using Activity.operation_cases with
  | close loopRuns =>
    refine Program.ensures_bind.2 (Program.ensures_mono ?_
      (Closing.holds_close (h.closing loopRuns) hloop))
    rintro _ m' ⟨rfl, hshut⟩
    exact hend m' _ rfl hshut.agrees (defers_of_shut hshut)
  | interrupt => exact hend _ _ rfl h.interrupted defers_interrupted
  | setBatchSize n => exact hend _ _ rfl (h.resized n) (defers_resized n)
  | _ => cases hr

end

/-! ## Making -/

/-- Before its first batch a cursor has done nothing. -/
theorem arriving_of_ofPlan {c : Cursor} (hc : ofPlan mode plan = .ok c) (loopRuns : Bool) :
    Arriving mode plan plan.first ⟨c, [.begun (.opening plan.first loopRuns)]⟩ := by
  have hsourced := isSome_source_of_ofPlan hc
  obtain ⟨settings, rfl⟩ := exists_of_ofPlan hc
  constructor
  case toFramed =>
    exact ⟨rfl, rfl, rfl, rfl, ⟨trivial, trivial⟩, by simp, by simp, fun _ => rfl, Nat.le_refl 0⟩
  case toUntried => exact ⟨rfl, rfl, rfl, rfl⟩
  case prior => exact ⟨_, rfl, rfl, rfl⟩
  case sourced => exact hsourced

/-- A cursor is made: its first batch is absorbed like any other. -/
theorem Arriving.holds_start (h : Arriving mode plan plan.first m) {loopRuns : Bool}
    (hloop : mode = .async → loopRuns = true) :
    (discipline mode plan).Holds (fun _ m' => Agrees mode plan m') (start plan.first loopRuns)
      m := by
  refine Program.ensures_bind.2 (holds_absorb (P := Arriving mode plan plan.first)
    (fun _ _ hn h => h.noticed hn) h fun m₁ after h₁ hafter => ?_)
  obtain ⟨hgoing, hkill⟩ := h₁.absorbed hafter
  have hmode : (m₁.put { m₁.cursor with progress := after.1 }).cursor.mode = mode := h₁.flavour
  generalize m₁.put { m₁.cursor with progress := after.1 } = m₂ at hgoing hkill hmode ⊢
  simp only [Program.ensures_bind, Program.ensures_get, Program.continues_ok, Moment.cell_load,
    hmode]
  split
  · rename_i hv
    exact hgoing (by simp [hv])
  · rename_i hv
    exact holds_releaseResources.2 (hgoing (by simp [hv])).settled
  · rename_i hv
    obtain ⟨target, hcondemned⟩ := hkill hv
    refine Program.ensures_bind.2 (Program.ensures_mono ?_ (hcondemned.holds_killHeld none))
    rintro (e | _) m₃ ⟨-, hpursued⟩
    · exact hpursued.agrees
    · exact holds_releaseResources.2 hpursued.agrees.settled
  · rename_i hv
    obtain ⟨target, hcondemned⟩ := hkill hv
    obtain rfl := hloop rfl
    simp only [scheduleCleanup, Program.ensures_bind, Program.ensures_get, Program.continues_ok,
      Moment.cell_load, hcondemned.serverCursor, Program.ensures_modify, Moment.cell_store]
    exact hcondemned.scheduled _

/-! ## Blocking cursors -/

theorem sound_discipline (plan : Plan) :
    (discipline .blocking plan).Sound (fun _ => True) (Agrees .blocking plan) where
  refl m := ⟨id, .refl m⟩
  trans _ _ _ h h' := ⟨fun ha => h'.1 (h.1 ha), h.2.trans h'.2⟩
  keeps _ _ ha ht := ht.1 ha
  idle m ha := by
    have ht := ha.tallies
    rcases hs : (ledger plan m.history).standing with _ | target | target
    · rw [hs] at ht
      exact Bygone.cleanups ht
    · exact (ha.holding hs).cleanups
    · rw [hs] at ht
      rcases Killing.tried ht with ⟨-, hnone⟩ | ⟨hmode, -⟩
      · exact hnone
      · simp at hmode
  resting _ := id
  alone a m _ ha h := by
    rcases hr : a.isRetrieval with _ | _
    · exact Program.ensures_mono (fun _ _ h' => h'.1) (holds_beside ha hr (by simp) h)
    · exact Program.ensures_mono (fun _ _ h' => h'.ended hr) (proceeds_program hr (h.called hr))
  inside a m _ ha hr h :=
    Program.ensures_mono (fun _ _ h' => ⟨fun _ => h'.1, h'.2⟩) (holds_beside ha hr (by simp) h)

/-! ## Alternating activities -/

/-- What the activities of a cursor on a running loop promise. -/
def protocol (plan : Plan) : Protocol where
  invariant := Agrees .async plan
  respects m m' := m.history <:+ m'.history
  spares := Defers plan
  admits _ _ := True

/-- What a retrieval does, or the making of a cursor, it does among alternating activities too. -/
theorem holds_of_discipline {α : Type} {Q : Outcome α → Moment → Prop} {p : Program Cursor α} :
    ∀ {w : Stretch}, w.since.history <:+ w.now.history →
      (discipline .async plan).Holds Q p w.now →
      (protocol plan).Holds true (fun o w' => Q o w'.now ∧ w'.since.history <:+ w'.now.history)
        p w := by
  induction p with
  | done outcome => exact fun hw h => ⟨h, hw⟩
  | read next ih => exact fun hw h => ih _ hw h
  | write c next ih => exact fun hw h => ih (w := ⟨_, _⟩) hw h
  | note n next ih => exact fun hw h => ih (w := ⟨_, _⟩) (hw.trans (List.suffix_cons ..)) h
  | ask q next ih =>
    intro w hw h
    refine ⟨.absorbing h.1 (hw.trans (List.suffix_cons ..)), ?_⟩
    rintro x _ ⟨-, m₁, ha, -, hd, rfl⟩
    exact ih x (List.suffix_cons ..) (h.2 x _ ⟨trivial, m₁, ⟨fun _ => ha, hd rfl⟩, rfl⟩)

/-- What a scheduled kill keeps once it is logged. -/
structure Chasing (plan : Plan) (target : ServerCursor) (w : Stretch) : Prop where
  agrees : Agrees .async plan w.now
  defers : Defers plan w.since w.now
  standing : (ledger plan w.now.history).standing = .doomed target

theorem Chasing.ends {w : Stretch} (h : Chasing plan target w) :
    (protocol plan).Ends false w.since w.now :=
  ⟨h.agrees, h.defers.suffix, fun _ => h.defers⟩

theorem Chasing.passed {w : Stretch} (h : Chasing plan target w) {i : Incident} (hi : i.isPassing)
    (hr : Rightful .async plan i w.now.history)
    (hl : ledger plan (i :: w.now.history) = ledger plan w.now.history) :
    Chasing plan target ⟨w.since, w.now.record i⟩ :=
  ⟨h.agrees.record hi hr hl, h.defers.trans ⟨trails_passed hi (by rw [hl]), fun _ => rfl⟩,
    by rw [Moment.record_history, hl]; exact h.standing⟩

/-- A scheduled kill asks and is answered. -/
theorem Chasing.ask {w : Stretch} (h : Chasing plan target w) {q : Exchange}
    (hr : Rightful .async plan (.asked q) w.now.history) :
    ((protocol plan).environment false).demands q w ∧
      ∀ x w', ((protocol plan).environment false).resumes q w x w' →
        Chasing plan target w' := by
  have hasked := h.passed (i := .asked q) rfl hr rfl
  refine ⟨hasked.ends, ?_⟩
  rintro x _ ⟨-, m₁, ha, ⟨later, heq⟩, -, rfl⟩
  have hstanding : (ledger plan m₁.history).standing = .doomed target := by
    rw [← heq]
    exact (ledger_append_of_not_held (isHeld_of_doomed hasked.standing) later).standing.trans
      hasked.standing
  have hm₁ : Chasing plan target ⟨m₁, m₁⟩ := ⟨ha, .refl m₁, hstanding⟩
  exact hm₁.passed rfl trivial (ledger_answer_of_not_held (isHeld_of_doomed hstanding))

theorem killable_protocol : Killable ((protocol plan).environment false) Stretch.cell
    (Chasing plan target) (Chasing plan target) (fun _ => True) target where
  lease source w h := by
    obtain ⟨hdemands, hresumes⟩ := h.ask (q := .lease source) fun hf => by simp [isFetch] at hf
    refine ⟨hdemands, fun x w' hw' => ?_⟩
    rcases x with e | x
    · exact ⟨hresumes _ w' hw', trivial⟩
    · exact hresumes _ w' hw'
  send x ns w h := by
    obtain ⟨hdemands, hresumes⟩ := h.ask (q := .killCursors x ns [target.id])
      ⟨target, h.standing, rfl⟩
    exact ⟨hdemands, fun x w' hw' => ⟨hresumes x w' hw', fun _ _ => trivial⟩⟩
  fails e w h := h.passed rfl (rightful_noticed rfl) rfl
  back x w h := h.passed rfl (rightful_noticed rfl) rfl
  noSource w h _ _ := ⟨h, trivial⟩

/-- A scheduled kill that has begun goes through. -/
theorem behaves_cleanup {w : Stretch} (h : Due .async plan target w.now)
    (hd : Defers plan w.since w.now) :
    (protocol plan).Behaves (.cleanup target) w (Activity.cleanup target).program := by
  have hlogged : Chasing plan target
      ⟨w.since, w.now.record (.noticed (killBegins w.now.cursor.mode target))⟩ :=
    ⟨h.pursued.agrees, hd.trans h.pursued.defers, h.pursued.standing⟩
  refine Program.ensures_bind.2 (Program.ensures_always.2 (Program.ensures_mono ?_
    (killable_protocol.ensures_killCursor none hlogged)))
  rintro o w' ⟨h', -⟩
  have hends : ∀ outcome, (protocol plan).Ends false w'.since
      (w'.now.settled.record (.ended (.cleanup target) outcome)) := by
    intro outcome
    have hsettled : Defers plan w'.now w'.now.settled := defers_settled w'.now
    have hstanding : (ledger plan w'.now.settled.history).standing = .doomed target := by
      obtain ⟨later, heq⟩ := hsettled.suffix
      rw [← heq]
      exact (ledger_append_of_not_held (isHeld_of_doomed h'.standing) later).standing.trans
        h'.standing
    have hdefers := (h'.defers.trans hsettled).trans
      (defers_ended (a := .cleanup target) rfl outcome)
    refine ⟨h'.agrees.settled.finished (isHeld_of_doomed hstanding) ?_ target outcome,
      hdefers.suffix, fun _ => hdefers⟩
    rw [Moment.settled_cursor]
  rw [ensures_releaseResources]
  change Ensures _ _ _ _ (settle ((protocol plan).environment false) Stretch.cell w')
  rw [settle_stretch]
  rcases o with e | _
  · exact hends (.error e)
  · exact hends (.ok .nothing)

/-- A retrieval behaves, from its call on. -/
theorem behaves_retrieval {a : Activity} (ha : a.isRetrieval) (h : Agrees .async plan m) :
    (protocol plan).Behaves a ⟨m, m.record (.begun a)⟩ a.program := by
  have habsorbs : a.absorbs = true := by simp [Activity.absorbs, ha]
  have hcalled := holds_of_discipline (w := ⟨m, m.record (.begun a)⟩) (List.suffix_cons ..)
    (proceeds_program ha (h.called ha))
  unfold Protocol.Behaves
  rw [habsorbs]
  refine Program.ensures_mono (fun o w' h' => ?_) hcalled
  exact .absorbing (Concludes.ended h'.1 ha) (h'.2.trans (List.suffix_cons ..))

/-- An operation that asks nothing behaves beside a retrieval. -/
theorem ends_beside {a : Activity} (hr : a.isRetrieval = false) (hcleanup : a.isCleanup = false)
    (ha : Agrees .async plan m') (hd : Defers plan m m') (o : Outcome Yield) :
    (protocol plan).Ends false m (m'.record (.ended a o)) := by
  have hdefers : Defers plan m (m'.record (.ended a o)) := hd.trans (defers_ended hr o)
  exact ⟨ha.ended hcleanup hr o, hdefers.suffix, fun _ => hdefers⟩

theorem behaves_close (h : Agrees .async plan m) : (protocol plan).Behaves (.close true)
    ⟨m, m.record (.begun (.close true))⟩ (Activity.close true).program := by
  have hclosing : Closing .async plan (m.record (.begun (.close true))) := h.closing true
  refine Program.ensures_bind.2 (holds_close_async h.flavour (fun hc => ?_) fun hc => ?_)
  · have hshut := hclosing.shut_now
    exact ends_beside rfl rfl hshut.agrees (defers_of_shut hshut) _
  · rcases hclosing with ⟨ha, -⟩ | ⟨target, hcondemned⟩
    · exact ends_beside rfl rfl ha (defers_of_shut ⟨ha, .refl _, hc⟩) _
    · exact absurd (hcondemned.open_.symm.trans hc) Bool.false_ne_true

theorem sound_protocol (plan : Plan) : (protocol plan).Sound Activity.onLoop where
  refl m := ⟨List.suffix_rfl, .refl m⟩
  respects_trans _ _ _ := List.IsSuffix.trans
  spares_trans _ _ _ := .trans
  call a m hoffered ha h := by
    cases a, ha using Activity.operation_cases with
    | close loopRuns =>
      obtain rfl : loopRuns = true := hoffered
      exact behaves_close h
    | interrupt => exact ends_beside rfl rfl h.interrupted defers_interrupted _
    | setBatchSize n => exact ends_beside rfl rfl (h.resized n) (defers_resized n) _
    | _ => exact behaves_retrieval rfl h
  run m before target after hc h := by
    refine behaves_cleanup (h.begun_cleanup hc) ?_
    have hput : Defers plan m (m.put { m.cursor with cleanups := before ++ after }) :=
      ⟨trails_put id rfl, fun _ => rfl⟩
    exact hput.trans (defers_begun rfl (by simp))

end Reckoning

/-! ## Whole lives -/

/-- How a cursor lives: the callers of a blocking one run inside one another and call anything,
    and exchanges fail in ordinary ways; the activities of an asynchronous one alternate on a
    running loop, and may be cancelled. -/
def regime : Mode → Regime
  | .blocking => ⟨true, fun _ => True, Custody.Ordinary⟩
  | .async => ⟨false, Activity.onLoop, fun _ _ => True⟩

namespace Reckoning

variable {mode : Mode} {plan : Plan} {c : Cursor} {l : Life}

/-- The making of a cursor leaves it in agreement with its ledger. -/
theorem holds_opening (hc : ofPlan mode plan = .ok c) :
    (discipline mode plan).Holds
      (fun o m => Agrees mode plan (m.record (.ended (.opening plan.first true) o)))
      (Activity.opening plan.first true).program
      ⟨c, [.begun (.opening plan.first true)]⟩ := by
  refine Program.ensures_bind.2 (Program.ensures_mono ?_
    ((arriving_of_ofPlan hc true).holds_start fun _ => rfl))
  rintro (e | _) m h
  · exact h.ended rfl rfl _
  · exact h.ended rfl rfl _

/-- **A cursor is at any time as its ledger tells.** -/
theorem agrees_of_reaches (hc : ofPlan mode plan = .ok c)
    (hl : Life.Reaches (regime mode) (Life.opening c plan.first true) l) :
    Agrees mode plan l.moment := by
  cases mode with
  | blocking =>
    exact (sound_discipline plan).invariant_of_reaches hl
      (Discipline.stacked_proceed (holds_opening hc))
  | async =>
    refine (sound_protocol plan).invariant_of_reaches hl (Protocol.orderly_opening ?_)
    refine Program.ensures_mono (fun o w' h' => ?_)
      (holds_of_discipline (w := ⟨_, _⟩) (List.suffix_cons ..) (holds_opening hc))
    exact .absorbing h'.1 (h'.2.trans (List.suffix_cons ..))

end Reckoning

/-- A blocking cursor that has handed out its first batch, and waits for a connection. -/
def awaiting : Life :=
  ((Life.opening (sample .blocking 2) (Plan.sample 2).first true).begin .tryNext).begin (.next 2)

theorem reaches_awaiting : Life.Reaches (regime .blocking)
    (Life.opening (sample .blocking 2) (Plan.sample 2).first true) awaiting := by
  have hopened : Life.Reaches (regime .blocking)
      (Life.opening (sample .blocking 2) (Plan.sample 2).first true) _ := .refl
  have htaken := hopened.begin (a := .tryNext)
    ⟨trivial, rfl, by decide +kernel, fun _ => List.isEmpty_iff.1 (by decide +kernel)⟩
  exact htaken.begin (a := .next 2)
    ⟨trivial, rfl, by decide +kernel, fun _ => List.isEmpty_iff.1 (by decide +kernel)⟩

end DocumentClient.Cursor
