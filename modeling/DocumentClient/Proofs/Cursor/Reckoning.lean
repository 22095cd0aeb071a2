/-
  A cursor and its ledger.

  `Agrees` says that a cursor is what the ledger of its history tells: it holds the server
  cursor that is held, it has tried once to kill the one that is to be killed (or, in an
  event loop, has scheduled that), and no other.  It holds whenever an activity waits or
  has ended.  In between a cursor may be behind its ledger: a batch has come in and is
  still to be absorbed (`Arriving`), a server cursor is to be given up and is still held
  (`Condemned`), or its kill is still to be logged (`Due`).

  `Trails` and `Defers` bound what an activity may do while a retrieval waits.
-/
import DocumentClient.Proofs.Cursor.Ledger
import DocumentClient.Proofs.Cursor.Scheduling

namespace DocumentClient.Cursor

/-! ## Incidents in passing -/

/-- Whether an incident begins and ends nothing, and is no attempt to kill. -/
def Incident.isPassing : Incident → Bool
  | .begun _ => false
  | .ended _ _ => false
  | i => !i.attempts

section
variable {i : Incident}

theorem Incident.begins_of_isPassing (h : i.isPassing) (p : Activity → Bool) :
    i.begins p = false := by
  cases i <;> simp_all [isPassing, begins]

theorem Incident.ends_of_isPassing (h : i.isPassing) (p : Activity → Bool) : i.ends p = false := by
  cases i <;> simp_all [isPassing, ends]

theorem Incident.attempts_of_isPassing (h : i.isPassing) : i.attempts = false := by
  cases i <;> simp_all [isPassing]

theorem Incident.isPassing_noticed {n : Notice} (h : isKillRecord n = false) :
    (Incident.noticed n).isPassing := by
  simp [isPassing, attempts, h]

theorem Ledger.enter_batchSize (h : i.isPassing) (limit : Int) (l : Ledger) :
    (l.enter limit i).batchSize = l.batchSize := by
  cases i with
  | answered q x wasOpen =>
    cases wasOpen with
    | true =>
      simp only [Ledger.enter, answer]
      split
      · split
        · rfl
        · rfl
        · rename_i e _
          cases e <;> rfl
      · rfl
    | false => rfl
  | begun a => simp [Incident.isPassing] at h
  | _ => rfl

end

namespace Moment

theorem record_attempts (i : Incident) (m : Moment) :
    (m.record i).attempts = m.attempts + if i.attempts then 1 else 0 :=
  List.countP_cons

@[simp] theorem put_attempts (c : Cursor) (m : Moment) : (m.put c).attempts = m.attempts := rfl

theorem passed_begun {i : Incident} (h : i.isPassing) (p : Activity → Bool) (m : Moment) :
    (m.record i).begun p = m.begun p := by
  rw [record_begun, Incident.begins_of_isPassing h]
  rfl

theorem passed_ended {i : Incident} (h : i.isPassing) (p : Activity → Bool) (m : Moment) :
    (m.record i).ended p = m.ended p := by
  rw [record_ended, Incident.ends_of_isPassing h]
  rfl

theorem passed_unfinished {i : Incident} (h : i.isPassing) (m : Moment) :
    (m.record i).unfinished = m.unfinished :=
  record_unfinished (Incident.begins_of_isPassing h _) (Incident.ends_of_isPassing h _) m

/-- What survives a notice that is no record of a kill survives several. -/
theorem of_notices {P : Moment → Prop}
    (hnotice : ∀ n m, isKillRecord n = false → P m → P (m.record (.noticed n))) {ns : List Notice}
    (hns : ∀ n ∈ ns, isKillRecord n = false) {m : Moment} (h : P m) :
    P (ns.foldl (fun m n => m.record (.noticed n)) m) := by
  induction ns generalizing m with
  | nil => exact h
  | cons n ns ih =>
    exact ih (fun n hn => hns n (List.mem_cons_of_mem _ hn))
      (hnotice n m (hns n (List.mem_cons_self ..)) h)

/-- What survives such notices and the flag survives the release of the resources. -/
theorem of_settled {P : Moment → Prop}
    (hnotice : ∀ n m, isKillRecord n = false → P m → P (m.record (.noticed n)))
    (hflag : ∀ m : Moment, P m → P (m.put { m.cursor with released := true })) {m : Moment}
    (h : P m) : P m.settled := by
  unfold settled
  split
  · exact h
  · have hdues : ∀ n ∈ dues m.cursor, isKillRecord n = false := fun _ => isKillRecord_of_mem_dues
    have := of_notices hnotice hdues (hflag m h)
    rwa [foldl_record] at this

end Moment

namespace Reckoning

variable {mode : Mode} {plan : Plan} {m m' : Moment} {i : Incident} {target : ServerCursor}

/-! ## What a cursor and its ledger have in common -/

/-- What holds of a cursor in any activity. -/
structure Framed (mode : Mode) (plan : Plan) (m : Moment) : Prop where
  flavour : m.cursor.mode = mode
  limit : m.cursor.limit = plan.limit
  source : m.cursor.source = plan.source
  batchSize : m.cursor.batchSize = (ledger plan m.history).batchSize
  conducted : Conducted mode plan m.history
  /-- A closed cursor has released its resources, or a kill will. -/
  paid : m.cursor.closed → m.cursor.released ∨ 0 < m.unfinished
  woken : m.cursor.interrupted → .begun .interrupt ∈ m.history
  bare : (ledger plan m.history).failure ≠ none → m.cursor.progress.nextBatch = none
  counted : m.ended Activity.isRetrieval ≤ m.begun Activity.isRetrieval

/-- No batch is still to be absorbed, and a fetch that has failed is under way or has closed the
    cursor. -/
structure Posted (mode : Mode) (plan : Plan) (m : Moment) : Prop extends Framed mode plan m where
  delivered : m.cursor.progress.delivered = (ledger plan m.history).delivered
  left : (ledger plan m.history).failure ≠ none →
    m.cursor.closed ∨ m.ended Activity.isRetrieval < m.begun Activity.isRetrieval

/-- An open cursor that has not tried to kill anything, nor scheduled it. -/
structure Untried (m : Moment) : Prop where
  open_ : m.cursor.closed = false
  attempts : m.attempts = 0
  cleanups : m.cursor.cleanups = []
  unfinished : m.unfinished = 0

/-- A cursor that holds a server cursor. -/
structure Holding (plan : Plan) (target : ServerCursor) (m : Moment) : Prop extends Untried m where
  serverCursor : m.cursor.progress.serverCursor = some target
  sourced : plan.source.isSome

/-- A cursor that holds none, and has nothing to kill. -/
structure Bygone (m : Moment) : Prop where
  serverCursor : m.cursor.progress.serverCursor = none
  attempts : m.attempts = 0
  cleanups : m.cursor.cleanups = []

/-- A cursor that has tried to kill a server cursor or, in an event loop, has scheduled that. -/
structure Killing (mode : Mode) (plan : Plan) (target : ServerCursor) (m : Moment) : Prop where
  serverCursor : m.cursor.progress.serverCursor = none
  sourced : plan.source.isSome
  tried : m.attempts = 1 ∧ m.cursor.cleanups = [] ∨
    mode = .async ∧ m.attempts = 0 ∧ m.cursor.cleanups = [target]

/-- A cursor is as it should be where its server cursor stands so. -/
def Tallies (mode : Mode) (plan : Plan) (m : Moment) : Standing → Prop
  | .gone => Bygone m
  | .held target => Holding plan target m
  | .doomed target => Killing mode plan target m

/-- A cursor is as its ledger tells. -/
structure Agrees (mode : Mode) (plan : Plan) (m : Moment) : Prop extends Posted mode plan m where
  tallies : Tallies mode plan m (ledger plan m.history).standing

/-- A server cursor is to be killed, and still held. -/
structure Condemned (mode : Mode) (plan : Plan) (target : ServerCursor) (m : Moment) : Prop
    extends Posted mode plan m, Holding plan target m where
  standing : (ledger plan m.history).standing = .doomed target

/-- A server cursor is to be killed, and was forgotten. -/
structure Due (mode : Mode) (plan : Plan) (target : ServerCursor) (m : Moment) : Prop
    extends Posted mode plan m, Bygone m where
  sourced : plan.source.isSome
  standing : (ledger plan m.history).standing = .doomed target

/-- A batch has come in, and is still to be absorbed. -/
structure Arriving (mode : Mode) (plan : Plan) (result : QueryResult) (m : Moment) : Prop
    extends Framed mode plan m, Untried m where
  prior : ∃ l : Ledger, ledger plan m.history = l.receive plan.limit result ∧
    m.cursor.progress.delivered = l.delivered ∧ l.failure = none
  sourced : result.cursor.isSome → plan.source.isSome

/-! ## Holding -/

theorem Agrees.holding (h : Agrees mode plan m)
    (hs : (ledger plan m.history).standing = .held target) : Holding plan target m := by
  have := h.tallies
  rwa [hs] at this

/-- A server cursor that the cursor holds is held by the ledger. -/
theorem Agrees.standing (h : Agrees mode plan m)
    (hs : m.cursor.progress.serverCursor = some target) :
    (ledger plan m.history).standing = .held target := by
  have ht := h.tallies
  rcases hst : (ledger plan m.history).standing with _ | held | doomed
  · rw [hst] at ht
    have hnone : m.cursor.progress.serverCursor = none := Bygone.serverCursor ht
    simp [hs] at hnone
  · rw [hst] at ht
    have hsome : m.cursor.progress.serverCursor = some held := Holding.serverCursor ht
    rw [hs] at hsome
    cases hsome
    rfl
  · rw [hst] at ht
    have hnone : m.cursor.progress.serverCursor = none := Killing.serverCursor ht
    simp [hs] at hnone

theorem Agrees.serverCursor_of_not_held (h : Agrees mode plan m)
    (hs : (ledger plan m.history).isHeld = false) : m.cursor.progress.serverCursor = none := by
  have ht := h.tallies
  rcases hst : (ledger plan m.history).standing with _ | held | doomed
  · rw [hst] at ht
    exact Bygone.serverCursor ht
  · simp [Ledger.isHeld, hst] at hs
  · rw [hst] at ht
    exact Killing.serverCursor ht

/-- A closed cursor holds no server cursor. -/
theorem Agrees.not_held_of_closed (h : Agrees mode plan m) (hc : m.cursor.closed) :
    (ledger plan m.history).isHeld = false := by
  rcases hst : (ledger plan m.history).standing with _ | held | doomed
  · simp [Ledger.isHeld, hst]
  · have := (h.holding hst).open_
    simp [hc] at this
  · simp [Ledger.isHeld, hst]

/-! ## Incidents -/

/-- What holds of a cursor in any activity survives an incident in passing. -/
theorem Framed.record (h : Framed mode plan m) (hi : i.isPassing)
    (hr : Rightful mode plan i m.history)
    (hbare : (ledger plan (i :: m.history)).failure ≠ none →
      m.cursor.progress.nextBatch = none) : Framed mode plan (m.record i) where
  flavour := h.flavour
  limit := h.limit
  source := h.source
  batchSize := by
    rw [Moment.record_cursor, Moment.record_history, ledger_cons, Ledger.enter_batchSize hi]
    exact h.batchSize
  conducted := ⟨hr, h.conducted⟩
  paid hc := by
    rw [Moment.passed_unfinished hi]
    exact h.paid hc
  woken hw := List.mem_cons_of_mem _ (h.woken hw)
  bare := hbare
  counted := by
    rw [Moment.passed_begun hi, Moment.passed_ended hi]
    exact h.counted

/-- What is posted stays posted where no retrieval ends, the ledger books no failure and no
    documents, and the debts stay paid; the batch size and the schedule may change. -/
theorem Posted.step (h : Posted mode plan m) {batchSize : Int} {cleanups : List ServerCursor}
    (hr : Rightful mode plan i m.history) (he : i.ends Activity.isRetrieval = false)
    (hsize : batchSize = (ledger plan (i :: m.history)).batchSize)
    (hfailure : (ledger plan (i :: m.history)).failure = (ledger plan m.history).failure)
    (hdelivered : (ledger plan (i :: m.history)).delivered = (ledger plan m.history).delivered)
    (hpaid : m.cursor.released ∨
      ((m.put { m.cursor with batchSize := batchSize, cleanups := cleanups }).record i).unfinished
        = m.unfinished) :
    Posted mode plan
      ((m.put { m.cursor with batchSize := batchSize, cleanups := cleanups }).record i) := by
  have hended : (m.record i).ended Activity.isRetrieval = m.ended Activity.isRetrieval := by
    simp [Moment.record_ended, he]
  have hbegun : m.begun Activity.isRetrieval ≤ (m.record i).begun Activity.isRetrieval := by
    simp [Moment.record_begun]
  constructor
  case toFramed =>
    exact { h.toFramed with
      batchSize := hsize
      conducted := ⟨hr, h.conducted⟩
      paid := fun hc => hpaid.elim .inl fun hu => by
        rw [hu]
        exact h.paid hc
      woken := fun hw => List.mem_cons_of_mem _ (h.woken hw)
      bare := fun hf => h.bare (hfailure ▸ hf)
      counted := hended ▸ Nat.le_trans h.counted hbegun }
  case delivered => exact h.delivered.trans hdelivered.symm
  case left =>
    exact fun hf => (h.left (hfailure ▸ hf)).imp_right fun hlt =>
      hended ▸ Nat.lt_of_lt_of_le hlt hbegun

theorem Posted.record (h : Posted mode plan m) (hi : i.isPassing)
    (hr : Rightful mode plan i m.history)
    (hl : ledger plan (i :: m.history) = ledger plan m.history) : Posted mode plan (m.record i) :=
  h.step hr (Incident.ends_of_isPassing hi _) (hl ▸ h.batchSize) (by rw [hl]) (by rw [hl])
    (.inr (Moment.passed_unfinished hi _))

/-- An incident that is no attempt to kill, and neither begins nor ends a scheduled kill. -/
theorem Untried.record (h : Untried m) (ha : i.attempts = false)
    (hb : i.begins Activity.isCleanup = false) (he : i.ends Activity.isCleanup = false) :
    Untried (m.record i) where
  open_ := h.open_
  attempts := by
    rw [Moment.record_attempts, ha]
    exact h.attempts
  cleanups := h.cleanups
  unfinished := (Moment.record_unfinished hb he m).trans h.unfinished

theorem Untried.passed (h : Untried m) (hi : i.isPassing) : Untried (m.record i) :=
  h.record (Incident.attempts_of_isPassing hi) (Incident.begins_of_isPassing hi _)
    (Incident.ends_of_isPassing hi _)

theorem Tallies.record {s : Standing} (h : Tallies mode plan m s) (ha : i.attempts = false)
    (hb : i.begins Activity.isCleanup = false) (he : i.ends Activity.isCleanup = false) :
    Tallies mode plan (m.record i) s := by
  have hattempts : (m.record i).attempts = m.attempts := by
    rw [Moment.record_attempts, ha]
    rfl
  cases s with
  | gone => exact { (show Bygone m from h) with attempts := hattempts.trans (Bygone.attempts h) }
  | held target =>
    have hholding : Holding plan target m := h
    exact { hholding.toUntried.record ha hb he with
      serverCursor := hholding.serverCursor, sourced := hholding.sourced }
  | doomed target =>
    have hkilling : Killing mode plan target m := h
    exact { hkilling with tried := by rw [hattempts]; exact hkilling.tried }

theorem Agrees.record (h : Agrees mode plan m) (hi : i.isPassing)
    (hr : Rightful mode plan i m.history)
    (hl : ledger plan (i :: m.history) = ledger plan m.history) :
    Agrees mode plan (m.record i) where
  toPosted := h.toPosted.record hi hr hl
  tallies := by
    rw [Moment.record_history, hl]
    exact h.tallies.record (Incident.attempts_of_isPassing hi) (Incident.begins_of_isPassing hi _)
      (Incident.ends_of_isPassing hi _)

/-- What is noticed in passing is rightful. -/
theorem rightful_noticed {n : Notice} {history : List Incident} (h : isKillRecord n = false) :
    Rightful mode plan (.noticed n) history := fun hkill => by
  simp [h] at hkill

theorem Agrees.noticed (h : Agrees mode plan m) {n : Notice} (hn : isKillRecord n = false) :
    Agrees mode plan (m.record (.noticed n)) :=
  h.record (Incident.isPassing_noticed hn) (rightful_noticed hn) rfl

theorem Agrees.asked (h : Agrees mode plan m) {q : Exchange}
    (hr : Rightful mode plan (.asked q) m.history) : Agrees mode plan (m.record (.asked q)) :=
  h.record rfl hr rfl

/-- An answer that the ledger does not count. -/
theorem Agrees.answered (h : Agrees mode plan m) {q : Exchange} {x : Outcome q.Answer}
    (hl : ledger plan (m.answer q x).history = ledger plan m.history) :
    Agrees mode plan (m.answer q x) :=
  h.record rfl trivial hl

section
variable {q : Exchange} {x : Outcome q.Answer}

/-- Only answers to fetches from a server cursor that is held count. -/
theorem ledger_answer_of_not_held (h : (ledger plan m.history).isHeld = false) :
    ledger plan (m.answer q x).history = ledger plan m.history := by
  simp only [Moment.answer, Moment.record_history, ledger_cons]
  rcases m.cursor.closed with _ | _
  · exact Ledger.answer_of_not_held h q x
  · rfl

theorem ledger_answer_of_held (hs : (ledger plan m.history).standing = .held target)
    (hc : m.cursor.closed = false) :
    ledger plan (m.answer q x).history = match fetchOutcome target q x with
      | none => ledger plan m.history
      | some (.ok result) => (ledger plan m.history).receive plan.limit result
      | some (.error e) => (ledger plan m.history).fail target e := by
  simp only [Moment.answer, Moment.record_history, ledger_cons, hc]
  exact Ledger.answer_of_held hs q x

/-- An answer that says nothing of a fetch does not count. -/
theorem ledger_answer_of_none (h : ∀ target, fetchOutcome target q x = none) :
    ledger plan (m.answer q x).history = ledger plan m.history := by
  rcases hs : (ledger plan m.history).standing with _ | target | _
  · exact ledger_answer_of_not_held (by simp [Ledger.isHeld, hs])
  · rcases hc : m.cursor.closed with _ | _
    · rw [ledger_answer_of_held hs hc, h target]
    · simp [Moment.answer, hc, Ledger.enter_unanswered]
  · exact ledger_answer_of_not_held (by simp [Ledger.isHeld, hs])

end

/-! ## Changes of the cursor -/

/-- What a cursor changes besides its setup. -/
theorem Framed.put (h : Framed mode plan m) {c : Cursor} (hsetup : c.setup = m.cursor.setup)
    (hsize : c.batchSize = m.cursor.batchSize)
    (hpaid : c.closed → c.released ∨ 0 < (m.put c).unfinished)
    (hwoken : c.interrupted → .begun .interrupt ∈ m.history)
    (hbare : (ledger plan m.history).failure ≠ none → c.progress.nextBatch = none) :
    Framed mode plan (m.put c) where
  flavour := (congrArg Setup.mode hsetup).trans h.flavour
  limit := (congrArg Setup.limit hsetup).trans h.limit
  source := (congrArg Setup.source hsetup).trans h.source
  batchSize := hsize.trans h.batchSize
  conducted := h.conducted
  paid := hpaid
  woken := hwoken
  bare := hbare
  counted := h.counted

/-- A cursor that stays open or closed, and has its schedule. -/
theorem Framed.paid_of_eq (h : Framed mode plan m) {c : Cursor}
    (hclosed : c.closed = m.cursor.closed) (hreleased : m.cursor.released → c.released)
    (hcleanups : c.cleanups = m.cursor.cleanups) :
    c.closed → c.released ∨ 0 < (m.put c).unfinished := by
  intro hc
  rw [Moment.put_unfinished hcleanups]
  exact (h.paid (hclosed ▸ hc)).imp_left hreleased

theorem Tallies.put {s : Standing} (h : Tallies mode plan m s) {c : Cursor}
    (hserver : c.progress.serverCursor = m.cursor.progress.serverCursor)
    (hclosed : c.closed = m.cursor.closed) (hcleanups : c.cleanups = m.cursor.cleanups) :
    Tallies mode plan (m.put c) s := by
  cases s with
  | gone =>
    have hbygone : Bygone m := h
    exact ⟨hserver.trans hbygone.serverCursor, hbygone.attempts,
      hcleanups.trans hbygone.cleanups⟩
  | held target =>
    have hholding : Holding plan target m := h
    exact ⟨⟨hclosed.trans hholding.open_, hholding.attempts, hcleanups.trans hholding.cleanups,
      (Moment.put_unfinished hcleanups).trans hholding.unfinished⟩,
      hserver.trans hholding.serverCursor, hholding.sourced⟩
  | doomed target =>
    have hkilling : Killing mode plan target m := h
    refine ⟨hserver.trans hkilling.serverCursor, hkilling.sourced, ?_⟩
    rw [Moment.put_attempts, Moment.put_cursor, hcleanups]
    exact hkilling.tried

/-- A batch that is handed out, and flags, do not concern the ledger. -/
theorem Agrees.put (h : Agrees mode plan m) {c : Cursor} (hsetup : c.setup = m.cursor.setup)
    (hsize : c.batchSize = m.cursor.batchSize) (hclosed : c.closed = m.cursor.closed)
    (hreleased : m.cursor.released → c.released) (hcleanups : c.cleanups = m.cursor.cleanups)
    (hwoken : c.interrupted → .begun .interrupt ∈ m.history)
    (hbare : (ledger plan m.history).failure ≠ none → c.progress.nextBatch = none)
    (hserver : c.progress.serverCursor = m.cursor.progress.serverCursor)
    (hdelivered : c.progress.delivered = m.cursor.progress.delivered) :
    Agrees mode plan (m.put c) where
  toFramed := h.toFramed.put hsetup hsize (h.paid_of_eq hclosed hreleased hcleanups) hwoken hbare
  delivered := hdelivered.trans h.delivered
  left hf := (h.left hf).imp_left fun hc => hclosed.trans hc
  tallies := h.tallies.put hserver hclosed hcleanups

theorem Agrees.settled (h : Agrees mode plan m) : Agrees mode plan m.settled :=
  Moment.of_settled (fun _ _ hn h => h.noticed hn)
    (fun _ h => h.put rfl rfl rfl (fun _ => rfl) rfl h.woken h.bare rfl rfl) h

/-- A cursor without a server cursor is closed, and releases its resources. -/
theorem Agrees.shut (h : Agrees mode plan m) (hheld : (ledger plan m.history).isHeld = false) :
    Agrees mode plan (m.put { m.cursor with closed := true, released := true }) where
  toFramed := h.toFramed.put rfl rfl (fun _ => .inl rfl) h.woken h.bare
  delivered := h.delivered
  left _ := .inl rfl
  tallies := by
    have ht := h.tallies
    rw [Moment.put_history]
    rcases hs : (ledger plan m.history).standing with _ | target | target
    · rw [hs] at ht
      exact { (show Bygone m from ht) with }
    · simp [Ledger.isHeld, hs] at hheld
    · rw [hs] at ht
      exact { (show Killing mode plan target m from ht) with }

/-- A server cursor that is to be killed is forgotten. -/
theorem Condemned.forgotten (h : Condemned mode plan target m) :
    Due mode plan target (m.put m.cursor.forget) where
  toFramed := h.toFramed.put rfl rfl (h.paid_of_eq rfl id rfl) h.woken h.bare
  delivered := h.delivered
  left := h.left
  serverCursor := rfl
  attempts := h.attempts
  cleanups := h.cleanups
  sourced := h.sourced
  standing := h.standing

/-- A kill that is due is logged, and thereby tried. -/
theorem Due.logged (h : Due mode plan target m) :
    Agrees mode plan (m.record (.noticed (killBegins mode target))) where
  toPosted := h.toPosted.step (fun _ => ⟨target, h.standing, rfl⟩) rfl h.batchSize rfl rfl
    (.inr (Moment.record_unfinished rfl rfl _))
  tallies := by
    have hs : (ledger plan (m.record (.noticed (killBegins mode target))).history).standing
        = .doomed target := h.standing
    rw [hs]
    refine ⟨h.serverCursor, h.sourced, .inl ⟨?_, h.cleanups⟩⟩
    rw [Moment.record_attempts, h.attempts]
    simp [Incident.attempts]

/-- In an event loop a kill that is due is scheduled. -/
theorem Condemned.scheduled (h : Condemned .async plan target m) (closed : Bool) :
    Agrees .async plan (m.put { m.cursor.forget with
      closed := closed, cleanups := m.cursor.cleanups ++ [target] }) where
  toFramed := by
    have hone : (m.put { m.cursor.forget with
        closed := closed, cleanups := m.cursor.cleanups ++ [target] }).unfinished = 1 := by
      rw [m.scheduled_unfinished rfl, h.unfinished]
      rfl
    refine h.toFramed.put rfl rfl (fun _ => .inr ?_) h.woken h.bare
    rw [hone]
    decide
  delivered := h.delivered
  left := by
    intro hf
    rcases h.left hf with hc | hlt
    · simp [h.open_] at hc
    · exact .inr hlt
  tallies := by
    rw [Moment.put_history, h.standing]
    exact ⟨rfl, h.sourced, .inr ⟨rfl, h.attempts, by simp [h.cleanups]⟩⟩

/-! ## Activities -/

section
variable {a : Activity}

theorem ledger_begun_failure (a : Activity) (history : List Incident) :
    (ledger plan (.begun a :: history)).failure = (ledger plan history).failure := by
  cases a with
  | close loopRuns =>
    simp only [ledger_cons, Ledger.enter, Ledger.close]
    split <;> rfl
  | _ => rfl

theorem ledger_begun_delivered (a : Activity) (history : List Incident) :
    (ledger plan (.begun a :: history)).delivered = (ledger plan history).delivered := by
  cases a with
  | close loopRuns =>
    simp only [ledger_cons, Ledger.enter, Ledger.close]
    split <;> rfl
  | _ => rfl

/-- What holds of a cursor when an activity has begun that is no scheduled kill. -/
theorem Posted.begun (h : Posted mode plan m) (ha : a.isCleanup = false)
    (hsize : (ledger plan (.begun a :: m.history)).batchSize = m.cursor.batchSize) :
    Posted mode plan (m.record (.begun a)) :=
  h.step trivial rfl hsize.symm (ledger_begun_failure a _) (ledger_begun_delivered a _)
    (.inr (Moment.record_unfinished (i := .begun a) ha rfl _))

/-- An activity begins that the ledger does not count. -/
theorem Agrees.begun (h : Agrees mode plan m) (ha : a.isCleanup = false)
    (hl : ledger plan (.begun a :: m.history) = ledger plan m.history) :
    Agrees mode plan (m.record (.begun a)) where
  toPosted := h.toPosted.begun ha (by rw [hl]; exact h.batchSize.symm)
  tallies := by
    rw [Moment.record_history, hl]
    exact h.tallies.record rfl ha rfl

/-- The closing of a cursor begins: a server cursor that is held is to be killed. -/
theorem Agrees.closing (h : Agrees mode plan m) (loopRuns : Bool) :
    (Agrees mode plan (m.record (.begun (.close loopRuns))) ∧
      (ledger plan (m.record (.begun (.close loopRuns))).history).isHeld = false) ∨
    ∃ target, Condemned mode plan target (m.record (.begun (.close loopRuns))) := by
  have hclose : ledger plan (.begun (.close loopRuns) :: m.history)
      = (ledger plan m.history).close := rfl
  by_cases hheld : (ledger plan m.history).isHeld = true
  · right
    rcases hs : (ledger plan m.history).standing with _ | target | _
    · simp [Ledger.isHeld, hs] at hheld
    · have hholding := h.holding hs
      have hdoomed : (ledger plan m.history).close
          = { ledger plan m.history with standing := .doomed target } := by
        simp only [Ledger.close, hs]
      refine ⟨target, ⟨h.toPosted.begun rfl ?_, { hholding.toUntried.record rfl rfl rfl with
        serverCursor := hholding.serverCursor, sourced := hholding.sourced }, ?_⟩⟩
      · rw [hclose, hdoomed]
        exact h.batchSize.symm
      · rw [Moment.record_history, hclose, hdoomed]
    · simp [Ledger.isHeld, hs] at hheld
  · left
    have hl : ledger plan (.begun (.close loopRuns) :: m.history) = ledger plan m.history :=
      Ledger.close_of_not_held (eq_false_of_ne_true hheld)
    refine ⟨h.begun rfl hl, ?_⟩
    rw [Moment.record_history, hl]
    exact eq_false_of_ne_true hheld

/-- The batch size is changed. -/
theorem Agrees.resized (h : Agrees mode plan m) (n : Int) :
    Agrees mode plan ((m.put { m.cursor with batchSize := n }).record
      (.begun (.setBatchSize n))) where
  toPosted := h.toPosted.step trivial rfl rfl rfl rfl
    (.inr ((Moment.record_unfinished rfl rfl _).trans (Moment.put_unfinished rfl)))
  tallies :=
    have ht : Tallies mode plan (m.put { m.cursor with batchSize := n })
      (ledger plan m.history).standing := h.tallies.put rfl rfl rfl
    ht.record rfl rfl rfl

/-- An interruption is asked for. -/
theorem Agrees.interrupted (h : Agrees mode plan m) :
    Agrees mode plan ((m.record (.begun .interrupt)).put { m.cursor with interrupted := true }) :=
  (h.begun (a := .interrupt) rfl rfl).put rfl rfl rfl id rfl (fun _ => List.mem_cons_self ..) h.bare
    rfl rfl

/-- An activity ends that is no retrieval and no scheduled kill. -/
theorem Agrees.ended (h : Agrees mode plan m) (ha : a.isCleanup = false)
    (hr : a.isRetrieval = false) (o : Outcome Yield) :
    Agrees mode plan (m.record (.ended a o)) where
  toPosted := h.toPosted.step (fun hret => absurd hret (by simp [hr])) hr h.batchSize rfl rfl
    (.inr (Moment.record_unfinished (i := .ended a o) rfl ha _))
  tallies := h.tallies.record rfl rfl ha

/-- A scheduled kill begins. -/
theorem Agrees.begun_cleanup (h : Agrees mode plan m) {before after : List ServerCursor}
    (hc : m.cursor.cleanups = before ++ target :: after) :
    Due mode plan target ((m.put { m.cursor with cleanups := before ++ after }).record
      (.begun (.cleanup target))) := by
  obtain ⟨hs, hkilling⟩ : (ledger plan m.history).standing = .doomed target ∧
      (m.cursor.progress.serverCursor = none ∧ plan.source.isSome) ∧ m.attempts = 0 ∧
      m.cursor.cleanups = [target] := by
    have ht := h.tallies
    rcases hs : (ledger plan m.history).standing with _ | held | doomed
    · rw [hs] at ht
      have hnone : m.cursor.cleanups = [] := Bygone.cleanups ht
      simp [hnone] at hc
    · rw [hs] at ht
      have hnone : m.cursor.cleanups = [] := (show Holding plan held m from ht).cleanups
      simp [hnone] at hc
    · rw [hs] at ht
      have hkilling : Killing mode plan doomed m := ht
      rcases hkilling.tried with ⟨-, hnone⟩ | ⟨-, hattempts, hone⟩
      · simp [hnone] at hc
      · rw [hone] at hc
        obtain rfl : target = doomed := by
          rcases before with _ | ⟨t, before⟩
          · simp only [List.nil_append, List.cons.injEq] at hc
            exact hc.1.symm
          · simp at hc
        exact ⟨rfl, ⟨hkilling.serverCursor, hkilling.sourced⟩, hattempts, hone⟩
  have hempty : before ++ after = [] := by
    have := congrArg List.length (hkilling.2.2.symm.trans hc)
    simp only [List.length_cons, List.length_nil, List.length_append] at this
    exact List.length_eq_zero_iff.1 (by rw [List.length_append]; omega)
  constructor
  case toPosted =>
    exact h.toPosted.step trivial rfl h.batchSize rfl rfl (.inr (m.begun_unfinished hc))
  case toBygone =>
    refine ⟨hkilling.1.1, ?_, hempty⟩
    rw [Moment.record_attempts]
    exact hkilling.2.1
  case sourced => exact hkilling.1.2
  case standing => exact hs

/-- A scheduled kill ends, and the resources were released. -/
theorem Agrees.finished (h : Agrees mode plan m) (hheld : (ledger plan m.history).isHeld = false)
    (hr : m.cursor.released) (target : ServerCursor) (o : Outcome Yield) :
    Agrees mode plan (m.record (.ended (.cleanup target) o)) where
  toPosted := h.toPosted.step nofun rfl h.batchSize rfl rfl (.inl hr)
  tallies := by
    have hattempts : (m.record (.ended (.cleanup target) o)).attempts = m.attempts :=
      Moment.record_attempts ..
    have ht := h.tallies
    rw [Moment.record_history, ledger_cons, Ledger.enter_ended]
    rcases hs : (ledger plan m.history).standing with _ | held | doomed
    · rw [hs] at ht
      exact { (show Bygone m from ht) with attempts := hattempts.trans (Bygone.attempts ht) }
    · simp [Ledger.isHeld, hs] at hheld
    · rw [hs] at ht
      have hkilling : Killing mode plan doomed m := ht
      exact { hkilling with tried := by rw [hattempts]; exact hkilling.tried }

end

end Reckoning

end DocumentClient.Cursor
