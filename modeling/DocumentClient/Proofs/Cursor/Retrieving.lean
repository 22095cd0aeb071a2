/-
  A retrieval and what others do meanwhile.

  While a retrieval waits others may close the cursor, change its batch size or ask for an
  interruption, and a kill may go on; `Defers` bounds what comes of that: as long as the
  cursor is open its server cursor stays, and if it was closed in time it is closed now.
  `Midway` is what a fetch can count on between its exchanges, `Failing` what is left when
  it has failed, and `Concludes` how a retrieval may end.
-/
import DocumentClient.Proofs.Cursor.Reckoning

namespace DocumentClient.Cursor.Reckoning

variable {mode : Mode} {plan : Plan} {m m' : Moment} {i : Incident} {target : ServerCursor}
  {e : Failure}

/-! ## What others do -/

/-- What comes to pass besides retrievals. -/
structure Trails (plan : Plan) (m m' : Moment) : Prop where
  later : ∃ later, m'.history = later ++ m.history ∧ ∀ i ∈ later,
    i.begins Activity.isRetrieval = false ∧ i.ends Activity.isRetrieval = false
  closed : m.cursor.closed → m'.cursor.closed
  nextBatch : m'.cursor.progress.nextBatch = m.cursor.progress.nextBatch
  failure : (ledger plan m'.history).failure = (ledger plan m.history).failure
  overlapped : Overlapped (sinceCall m'.history) →
    Overlapped (sinceCall m.history) ∨ m'.cursor.closed

/-- What others may do while a retrieval waits. -/
structure Defers (plan : Plan) (m m' : Moment) : Prop extends Trails plan m m' where
  live : m'.cursor.closed = false →
    m'.cursor.progress.serverCursor = m.cursor.progress.serverCursor

theorem Trails.refl (m : Moment) : Trails plan m m :=
  ⟨⟨[], rfl, by simp⟩, id, rfl, rfl, .inl⟩

theorem Trails.trans {m₁ m₂ m₃ : Moment} (h : Trails plan m₁ m₂) (h' : Trails plan m₂ m₃) :
    Trails plan m₁ m₃ where
  later := by
    obtain ⟨later, heq, hlater⟩ := h.later
    obtain ⟨later', heq', hlater'⟩ := h'.later
    refine ⟨later' ++ later, by rw [heq', heq, List.append_assoc], fun i hi => ?_⟩
    rcases List.mem_append.1 hi with hi | hi
    · exact hlater' i hi
    · exact hlater i hi
  closed hc := h'.closed (h.closed hc)
  nextBatch := h'.nextBatch.trans h.nextBatch
  failure := h'.failure.trans h.failure
  overlapped ho := by
    rcases h'.overlapped ho with ho | hc
    · exact (h.overlapped ho).imp_right h'.closed
    · exact .inr hc

theorem Defers.refl (m : Moment) : Defers plan m m := ⟨.refl m, fun _ => rfl⟩

theorem Defers.trans {m₁ m₂ m₃ : Moment} (h : Defers plan m₁ m₂) (h' : Defers plan m₂ m₃) :
    Defers plan m₁ m₃ where
  toTrails := h.toTrails.trans h'.toTrails
  live hc := (h'.live hc).trans (h.live (Moment.open_of_open h'.closed hc))

theorem Trails.suffix (h : Trails plan m m') : m.history <:+ m'.history := by
  obtain ⟨later, heq, -⟩ := h.later
  exact ⟨later, heq.symm⟩

theorem Trails.untilCall (h : Trails plan m m') : untilCall m'.history = untilCall m.history := by
  obtain ⟨later, heq, hlater⟩ := h.later
  rw [heq, untilCall_append fun i hi => (hlater i hi).1]

theorem Trails.mem_sinceCall (h : Trails plan m m') (hi : i ∈ sinceCall m.history) :
    i ∈ sinceCall m'.history := by
  obtain ⟨later, heq, hlater⟩ := h.later
  rw [heq, sinceCall_append fun i hi => (hlater i hi).1]
  exact List.mem_append_right _ hi

theorem Trails.counts (h : Trails plan m m') :
    m'.begun Activity.isRetrieval = m.begun Activity.isRetrieval ∧
      m'.ended Activity.isRetrieval = m.ended Activity.isRetrieval := by
  obtain ⟨later, heq, hlater⟩ := h.later
  have hb : later.countP (Incident.begins Activity.isRetrieval) = 0 :=
    List.countP_eq_zero.2 fun i hi => by simp [(hlater i hi).1]
  have he : later.countP (Incident.ends Activity.isRetrieval) = 0 :=
    List.countP_eq_zero.2 fun i hi => by simp [(hlater i hi).2]
  constructor
  · rw [Moment.begun, heq, List.countP_append, hb, Nat.zero_add]
    rfl
  · rw [Moment.ended, heq, List.countP_append, he, Nat.zero_add]
    rfl

theorem Trails.blamed (ht : Trails plan m m') (h : Blamed plan m.history e) :
    Blamed plan m'.history e := by
  cases h with
  | closed found => exact .closed found
  | before h => exact .before (ht.failure.trans h)
  | since hanswered hfailed => exact .since (ht.mem_sinceCall hanswered) hfailed
  | paused hanswered => exact .paused (ht.mem_sinceCall hanswered)
  | interrupted h => exact .interrupted (ht.suffix.subset h)

theorem overlapped_of_cons {history : List Incident}
    (hi : ∀ loopRuns, i ≠ .begun (.close loopRuns)) (h : Overlapped (i :: history)) :
    Overlapped history := by
  rcases h.cons with h | ⟨⟨loopRuns, heq⟩, -⟩
  · exact h
  · exact absurd heq (hi loopRuns)

theorem overlapped_of_record (hb : i.begins Activity.isRetrieval = false)
    (hc : ∀ loopRuns, i ≠ .begun (.close loopRuns))
    (h : Overlapped (sinceCall (m.record i).history)) : Overlapped (sinceCall m.history) := by
  rw [Moment.record_history, sinceCall_cons hb] at h
  exact overlapped_of_cons hc h

theorem overlapped_of_noticed (n : Notice)
    (h : Overlapped (sinceCall (m.record (.noticed n)).history)) :
    Overlapped (sinceCall m.history) :=
  overlapped_of_record rfl (by simp) h

theorem overlapped_of_answer {q : Exchange} {x : Outcome q.Answer}
    (h : Overlapped (sinceCall (m.answer q x).history)) : Overlapped (sinceCall m.history) :=
  overlapped_of_record rfl (by simp) h

/-- An incident that neither begins nor ends a retrieval, closes nothing, and does not fail a
    fetch. -/
theorem trails_record (hb : i.begins Activity.isRetrieval = false)
    (he : i.ends Activity.isRetrieval = false) (hc : ∀ loopRuns, i ≠ .begun (.close loopRuns))
    (hf : (ledger plan (i :: m.history)).failure = (ledger plan m.history).failure) :
    Trails plan m (m.record i) where
  later := ⟨[i], rfl, by simpa using ⟨hb, he⟩⟩
  closed := id
  nextBatch := rfl
  failure := hf
  overlapped ho := .inl (overlapped_of_record hb hc ho)

theorem trails_passed (hi : i.isPassing)
    (hf : (ledger plan (i :: m.history)).failure = (ledger plan m.history).failure) :
    Trails plan m (m.record i) :=
  trails_record (Incident.begins_of_isPassing hi _) (Incident.ends_of_isPassing hi _)
    (fun _ heq => by simp [heq, Incident.isPassing] at hi) hf

theorem trails_put {c : Cursor} (hc : m.cursor.closed → c.closed)
    (hb : c.progress.nextBatch = m.cursor.progress.nextBatch) : Trails plan m (m.put c) :=
  ⟨⟨[], rfl, by simp⟩, hc, hb, rfl, .inl⟩

theorem defers_settled (m : Moment) : Defers plan m m.settled := by
  refine Moment.of_settled (P := Defers plan m) (fun n m' hn h => ?_) (fun m' h => ?_) (.refl m)
  · exact h.trans ⟨trails_passed (Incident.isPassing_noticed hn) rfl, fun _ => rfl⟩
  · exact h.trans ⟨trails_put id rfl, fun _ => rfl⟩

/-! ## How a retrieval may end -/

/-- A retrieval is under way, and may end with a failure or without. -/
structure Concludes (mode : Mode) (plan : Plan) (failure : Option Failure) (m : Moment) : Prop
    extends Agrees mode plan m where
  under : m.ended Activity.isRetrieval < m.begun Activity.isRetrieval
  own : (ledger plan m.history).failure ≠ none →
    m.cursor.closed ∨ m.ended Activity.isRetrieval + 1 < m.begun Activity.isRetrieval
  concluding : Concluding plan failure m.history

/-- A retrieval may end well where no fetch has failed and the cursor was not closed. -/
theorem concludes_of_clear (h : Agrees mode plan m)
    (hunder : m.ended Activity.isRetrieval < m.begun Activity.isRetrieval)
    (hclear : (ledger plan m.history).failure = none)
    (ho : ¬ Overlapped (sinceCall m.history)) : Concludes mode plan none m where
  toAgrees := h
  under := hunder
  own hf := absurd hclear hf
  concluding := ⟨fun e _ he => by simp [hclear] at he, fun h => absurd h ho⟩

/-- A retrieval that may end well may end with any failure. -/
theorem Concludes.failed (h : Concludes mode plan none m) (e : Failure) :
    Concludes mode plan (some e) m where
  toAgrees := h.toAgrees
  under := h.under
  own := h.own
  concluding :=
    ⟨fun e' hu he => by simpa using h.concluding.fetched e' hu he,
      fun ho => by
        obtain ⟨e', he, -⟩ := h.concluding.overlapped ho
        simp at he⟩

theorem Concludes.not_overlapped (h : Concludes mode plan none m) :
    ¬ Overlapped (sinceCall m.history) := fun ho => by
  obtain ⟨e, he, -⟩ := h.concluding.overlapped ho
  simp at he

/-- A retrieval begins. -/
theorem Agrees.called (h : Agrees mode plan m) {a : Activity} (ha : a.isRetrieval) :
    Concludes mode plan none (m.record (.begun a)) := by
  have hl : ledger plan (.begun a :: m.history) = ledger plan m.history := by
    cases a, ha using Activity.retrieval_cases <;> rfl
  have hcleanup := Activity.isCleanup_of_isOperation (Activity.isOperation_of_isRetrieval ha)
  have hb : (m.record (.begun a)).begun Activity.isRetrieval
      = m.begun Activity.isRetrieval + 1 := by
    rw [Moment.record_begun]
    simp [Incident.begins, ha]
  have he : (m.record (.begun a)).ended Activity.isRetrieval = m.ended Activity.isRetrieval :=
    Moment.record_ended ..
  refine ⟨h.begun hcleanup hl, ?_, fun hf => ?_, fun e hu he => ?_, fun ho => ?_⟩
  · rw [hb, he]
    exact Nat.lt_succ_of_le h.counted
  · rw [hb, he]
    rw [Moment.record_history, hl] at hf
    exact (h.left hf).imp_right Nat.succ_lt_succ
  · rw [Moment.record_history, untilCall_begun ha] at hu
    rw [Moment.record_history, hl, hu] at he
    simp at he
  · rw [Moment.record_history, sinceCall_begun ha] at ho
    exact absurd ho not_overlapped_nil

/-- A retrieval ends. -/
theorem Concludes.ended {o : Outcome Yield} (h : Concludes mode plan (failureOf o) m)
    {a : Activity} (ha : a.isRetrieval) : Agrees mode plan (m.record (.ended a o)) := by
  have hcleanup := Activity.isCleanup_of_isOperation (Activity.isOperation_of_isRetrieval ha)
  have he : (m.record (.ended a o)).ended Activity.isRetrieval
      = m.ended Activity.isRetrieval + 1 := by
    rw [Moment.record_ended]
    simp [Incident.ends, ha]
  have hb : (m.record (.ended a o)).begun Activity.isRetrieval = m.begun Activity.isRetrieval :=
    Moment.record_begun ..
  constructor
  case toPosted =>
    constructor
    case toFramed =>
      exact { h.toFramed with
        conducted := ⟨fun _ => h.concluding, h.conducted⟩
        paid := fun hc => by
          rw [Moment.record_unfinished (i := .ended a o) rfl hcleanup]
          exact h.paid hc
        woken := fun hw => List.mem_cons_of_mem _ (h.woken hw)
        counted := by
          rw [hb, he]
          exact h.under }
    case delivered => exact h.delivered
    case left =>
      rw [hb, he]
      exact h.own
  case tallies => exact h.tallies.record rfl rfl hcleanup

/-- A retrieval goes on with what does not concern the ledger. -/
theorem Concludes.put {failure : Option Failure} (h : Concludes mode plan failure m) {c : Cursor}
    (ha : Agrees mode plan (m.put c)) (hc : m.cursor.closed → c.closed) :
    Concludes mode plan failure (m.put c) where
  toAgrees := ha
  under := h.under
  own hf := (h.own hf).imp_left hc
  concluding := h.concluding

theorem Concludes.noticed {failure : Option Failure} (h : Concludes mode plan failure m)
    {n : Notice} (hn : isKillRecord n = false) :
    Concludes mode plan failure (m.record (.noticed n)) where
  toAgrees := h.toAgrees.noticed hn
  under := by
    rw [Moment.record_begun, Moment.record_ended]
    exact h.under
  own := by
    rw [Moment.record_begun, Moment.record_ended]
    exact h.own
  concluding := by
    have ht : Trails plan m (m.record (.noticed n)) :=
      trails_passed (Incident.isPassing_noticed hn) rfl
    refine ⟨fun e hu he => ?_, fun ho => ?_⟩
    · rw [ht.untilCall] at hu
      exact h.concluding.fetched e hu he
    · obtain ⟨e, he, hb⟩ := h.concluding.overlapped (overlapped_of_noticed n ho)
      exact ⟨e, he, ht.blamed hb⟩

theorem Concludes.settled {failure : Option Failure} (h : Concludes mode plan failure m) :
    Concludes mode plan failure m.settled :=
  Moment.of_settled (fun _ _ hn h => h.noticed hn)
    (fun _ h => h.put (h.toAgrees.put rfl rfl rfl (fun _ => rfl) rfl h.woken h.bare rfl rfl) id) h

/-! ## Fetches -/

/-- What a fetch can count on between its exchanges. -/
structure Midway (mode : Mode) (plan : Plan) (target : ServerCursor) (m : Moment) : Prop
    extends Agrees mode plan m where
  under : m.ended Activity.isRetrieval < m.begun Activity.isRetrieval
  nextBatch : m.cursor.progress.nextBatch = none
  clear : (ledger plan m.history).failure = none
  early : (untilCall m.history).countP Incident.attempts = 0
  live : m.cursor.closed = false → m.cursor.progress.serverCursor = some target
  overlapped : Overlapped (sinceCall m.history) → m.cursor.closed

/-- A fetch begins. -/
theorem Concludes.midway (h : Concludes mode plan none m)
    (hs : m.cursor.progress.serverCursor = some target)
    (hb : m.cursor.progress.nextBatch = none) : Midway mode plan target m where
  toAgrees := h.toAgrees
  under := h.under
  nextBatch := hb
  clear := sound_ledger _ (Ledger.isHeld_of_standing (h.standing hs))
  early := by
    have hnone : m.history.countP Incident.attempts = 0 := (h.holding (h.standing hs)).attempts
    exact Nat.le_zero.1 (hnone ▸ untilCall_suffix.sublist.countP_le)
  live _ := hs
  overlapped ho := absurd ho h.not_overlapped

theorem Midway.deferred (h : Midway mode plan target m) (ha : Agrees mode plan m')
    (hd : Defers plan m m') : Midway mode plan target m' where
  toAgrees := ha
  under := by
    rw [hd.counts.1, hd.counts.2]
    exact h.under
  nextBatch := hd.nextBatch.trans h.nextBatch
  clear := hd.failure.trans h.clear
  early := by
    rw [hd.untilCall]
    exact h.early
  live hc := (hd.live hc).trans (h.live (Moment.open_of_open hd.closed hc))
  overlapped ho := by
    rcases hd.overlapped ho with ho | hc
    · exact hd.closed (h.overlapped ho)
    · exact hc

theorem Midway.passed (h : Midway mode plan target m) (hi : i.isPassing)
    (hr : Rightful mode plan i m.history)
    (hl : ledger plan (i :: m.history) = ledger plan m.history) :
    Midway mode plan target (m.record i) :=
  h.deferred (h.toAgrees.record hi hr hl)
    ⟨trails_passed hi (by rw [hl]), fun _ => rfl⟩

/-- A fetch may ask. -/
theorem Midway.rightful (h : Midway mode plan target m) {q : Exchange}
    (hq : ∀ x ns ids, q ≠ .killCursors x ns ids) : Rightful mode plan (.asked q) m.history := by
  cases q with
  | killCursors x ns ids => exact absurd rfl (hq x ns ids)
  | _ => exact fun _ => h.early

theorem Midway.held (h : Midway mode plan target m) (hc : m.cursor.closed = false) :
    (ledger plan m.history).standing = .held target :=
  h.standing (h.live hc)

/-! ## Fetches that fail -/

/-- Whether a fetch that fails so gives a server cursor up alive. -/
def condemns : Failure → Bool
  | .cancelled => false
  | .cursorMissing _ _ => false
  | _ => true

/-- How a fetch has come to fail. -/
inductive Cause (mode : Mode) (plan : Plan) (m : Moment) : Failure → Prop
  /-- The cursor was closed meanwhile. -/
  | closed {e : Failure} (h : Tallies mode plan m (ledger plan m.history).standing)
      (hclear : (ledger plan m.history).failure = none) (hc : m.cursor.closed) : Cause mode plan m e
  | cancelled (h : Tallies mode plan m (ledger plan m.history).standing)
      (hclear : (ledger plan m.history).failure = none) : Cause mode plan m .cancelled
  /-- The server cursor is to be killed. -/
  | condemned {e : Failure} {target : ServerCursor} (he : condemns e) (h : Holding plan target m)
      (hs : (ledger plan m.history).standing = .doomed target)
      (hf : (ledger plan m.history).failure = some e) : Cause mode plan m e
  /-- The server does not know it. -/
  | missing {id : Int} {address : Address} {target : ServerCursor} (h : Holding plan target m)
      (hs : (ledger plan m.history).standing = .gone)
      (hf : (ledger plan m.history).failure = some (.cursorMissing id address)) :
      Cause mode plan m (.cursorMissing id address)

/-- A fetch has failed, and nothing was done about it. -/
structure Failing (mode : Mode) (plan : Plan) (e : Failure) (m : Moment) : Prop
    extends Framed mode plan m where
  delivered : m.cursor.progress.delivered = (ledger plan m.history).delivered
  under : m.ended Activity.isRetrieval < m.begun Activity.isRetrieval
  blamed : Overlapped (sinceCall m.history) → Blamed plan m.history e
  /-- Only a cancelled kill is no failure of the fetch itself. -/
  own : e ≠ .cancelled → Blamed plan m.history e
  cause : Cause mode plan m e

theorem Failing.posted (h : Failing mode plan e m) : Posted mode plan m :=
  ⟨h.toFramed, h.delivered, fun _ => .inr h.under⟩

theorem Cause.noticed (h : Cause mode plan m e) {n : Notice} (hn : isKillRecord n = false) :
    Cause mode plan (m.record (.noticed n)) e := by
  cases h with
  | closed h hclear hc => exact .closed (h.record hn rfl rfl) hclear hc
  | cancelled h hclear => exact .cancelled (h.record hn rfl rfl) hclear
  | condemned he h hs hf =>
    exact .condemned he ⟨h.toUntried.record hn rfl rfl, h.serverCursor, h.sourced⟩ hs hf
  | missing h hs hf =>
    exact .missing ⟨h.toUntried.record hn rfl rfl, h.serverCursor, h.sourced⟩ hs hf

theorem Failing.noticed (h : Failing mode plan e m) {n : Notice} (hn : isKillRecord n = false) :
    Failing mode plan e (m.record (.noticed n)) where
  toFramed := h.toFramed.record (Incident.isPassing_noticed hn) (rightful_noticed hn) h.bare
  delivered := h.delivered
  under := by
    rw [Moment.record_begun, Moment.record_ended]
    exact h.under
  blamed ho := by
    have ht : Trails plan m (m.record (.noticed n)) :=
      trails_passed (Incident.isPassing_noticed hn) rfl
    exact ht.blamed (h.blamed (overlapped_of_noticed n ho))
  own he := by
    have ht : Trails plan m (m.record (.noticed n)) :=
      trails_passed (Incident.isPassing_noticed hn) rfl
    exact ht.blamed (h.own he)
  cause := h.cause.noticed hn

theorem giveUp_of_condemns (he : condemns e) : giveUp e = close true := by
  cases e <;> first | rfl | simp [condemns] at he

theorem fail_of_condemns (he : condemns e) (l : Ledger) :
    l.fail target e = { l with standing := .doomed target, failure := some e } := by
  cases e <;> first | rfl | simp [condemns] at he

section
variable {q : Exchange} {x : Outcome q.Answer}

/-- An answer to a fetch, apart from the batch that it brings or the failure that it is. -/
theorem Midway.answered (h : Midway mode plan target m)
    (hl : ledger plan (m.answer q x).history = ledger plan m.history) :
    Midway mode plan target (m.answer q x) :=
  h.passed rfl trivial hl

theorem ledger_answer_of_closed (hc : m.cursor.closed) :
    ledger plan (m.answer q x).history = ledger plan m.history := by
  simp [Moment.answer, hc, Ledger.enter_unanswered]

/-- An answer brings a batch. -/
theorem Midway.arrived (h : Midway mode plan target m) (hc : m.cursor.closed = false)
    {result : QueryResult} (hx : fetchOutcome target q x = some (.ok result)) :
    Arriving mode plan result (m.answer q x) := by
  have hheld := h.held hc
  have hholding := h.holding hheld
  have hl : ledger plan (m.answer q x).history
      = (ledger plan m.history).receive plan.limit result := by
    rw [ledger_answer_of_held hheld hc, hx]
  constructor
  case toFramed => exact h.toFramed.record rfl trivial fun _ => h.nextBatch
  case toUntried => exact hholding.toUntried.passed rfl
  case prior => exact ⟨_, hl, h.delivered, h.clear⟩
  case sourced => exact fun _ => hholding.sourced

/-- An answer fails a fetch. -/
theorem Midway.failed (h : Midway mode plan target m)
    (hx : fetchOutcome target q x = some (.error e)) :
    Failing mode plan e (m.answer q x) := by
  have hframed : Framed mode plan (m.answer q x) :=
    h.toFramed.record rfl trivial fun _ => h.nextBatch
  have hunder : (m.answer q x).ended Activity.isRetrieval
      < (m.answer q x).begun Activity.isRetrieval := by
    rw [Moment.answer, Moment.record_begun, Moment.record_ended]
    exact h.under
  by_cases hc : m.cursor.closed = true
  · have hblamed : Blamed plan (m.answer q x).history e := by
      have hmem : .answered q x false ∈ sinceCall (m.answer q x).history := by
        rw [Moment.answer, hc, Moment.record_history, sinceCall_cons rfl]
        exact List.mem_cons_self ..
      exact .since hmem hx
    have hl : ledger plan (m.answer q x).history = ledger plan m.history :=
      ledger_answer_of_closed hc
    have ha := h.toAgrees.answered hl
    exact ⟨hframed, ha.delivered, hunder, fun _ => hblamed, fun _ => hblamed,
      .closed ha.tallies (by rw [hl]; exact h.clear) hc⟩
  · have hopen := eq_false_of_ne_true hc
    have hheld := h.held hopen
    have hholding := h.holding hheld
    have hholding' : Holding plan target (m.answer q x) :=
      ⟨hholding.toUntried.passed rfl, hholding.serverCursor, hholding.sourced⟩
    have hl : ledger plan (m.answer q x).history = (ledger plan m.history).fail target e := by
      rw [ledger_answer_of_held hheld hopen, hx]
    have hdelivered : ((ledger plan m.history).fail target e).delivered
        = (ledger plan m.history).delivered := by
      cases e <;> rfl
    have hapart : ¬ Overlapped (sinceCall (m.answer q x).history) := fun ho =>
      hc (h.overlapped (overlapped_of_answer ho))
    refine ⟨hframed, ?_, hunder, fun ho => absurd ho hapart, fun hne => .before ?_, ?_⟩
    · rw [hl, hdelivered]
      exact h.delivered
    · rw [hl]
      cases e <;> first | rfl | exact absurd rfl hne
    · cases he : condemns e with
      | true =>
        rw [fail_of_condemns he] at hl
        exact .condemned he hholding' (by rw [hl]) (by rw [hl])
      | false =>
        cases e with
        | cancelled =>
          have hsame : ledger plan (m.answer q x).history = ledger plan m.history := hl
          exact .cancelled (h.toAgrees.answered hsame).tallies (by rw [hsame]; exact h.clear)
        | cursorMissing id address => exact .missing hholding' (by rw [hl]; rfl) (by rw [hl]; rfl)
        | _ => simp [condemns] at he

end

/-- A fetch finds the cursor closed when its batch has come. -/
theorem Midway.found_closed (h : Midway mode plan target m) (hc : m.cursor.closed)
    (found : ClosedWhen) : Failing mode plan (.cursorClosed found) m where
  toFramed := h.toFramed
  delivered := h.delivered
  under := h.under
  blamed _ := .closed found
  own _ := .closed found
  cause := .closed h.tallies h.clear hc

theorem Failing.failure_eq (h : Failing mode plan e m) {e' : Failure}
    (he : (ledger plan m.history).failure = some e') : e' = e := by
  cases h.cause with
  | closed _ hclear _ => simp [hclear] at he
  | cancelled _ hclear => simp [hclear] at he
  | condemned _ _ _ hf => exact Option.some.inj (he.symm.trans hf)
  | missing _ _ hf => exact Option.some.inj (he.symm.trans hf)

/-- A retrieval may end with a failure of its fetch for which nothing is to be done. -/
theorem Failing.concludes_now (h : Failing mode plan e m) (ha : Agrees mode plan m)
    (hclear : (ledger plan m.history).failure = none) : Concludes mode plan (some e) m where
  toAgrees := ha
  under := h.under
  own hf := absurd hclear hf
  concluding :=
    ⟨fun _ _ he => congrArg some (h.failure_eq he).symm, fun ho => ⟨e, rfl, h.blamed ho⟩⟩

/-- A retrieval may end with the failure of its fetch, once the cursor was closed for it. -/
theorem Failing.concludes (h : Failing mode plan e m) (hne : e ≠ .cancelled)
    (ha : Agrees mode plan m') (ht : Trails plan m m') (hc : m'.cursor.closed) :
    Concludes mode plan (some e) m' where
  toAgrees := ha
  under := by
    rw [ht.counts.1, ht.counts.2]
    exact h.under
  own _ := .inl hc
  concluding := by
    refine ⟨fun _ _ he => ?_, fun _ => ⟨e, rfl, ht.blamed (h.own hne)⟩⟩
    rw [ht.failure] at he
    exact congrArg some (h.failure_eq he).symm

/-! ## Batches -/

theorem Arriving.noticed {result : QueryResult} (h : Arriving mode plan result m) {n : Notice}
    (hn : isKillRecord n = false) : Arriving mode plan result (m.record (.noticed n)) where
  toFramed := h.toFramed.record (Incident.isPassing_noticed hn) (rightful_noticed hn) h.bare
  toUntried := h.toUntried.passed (Incident.isPassing_noticed hn)
  prior := h.prior
  sourced := h.sourced

/-- Where the server cursor stands that a batch has left to the cursor. -/
def standingAfter : Option ServerCursor → Verdict → Standing
  | some target, .limitReached => .doomed target
  | some target, _ => .held target
  | none, _ => .gone

/-- How the ledger takes a batch, told by its fate. -/
theorem standing_of_fate {limit : Int} {result : QueryResult} {after : Progress}
    {v : Verdict} {l : Ledger} (h : Progress.Fate limit l.batchSize result after v)
    (hd : after.delivered = l.delivered + result.results.length) :
    (l.receive limit result).standing = standingAfter after.serverCursor v := by
  unfold Ledger.receive
  cases h with
  | ended h hs => simp [h, hs, standingAfter]
  | limitReached h hl hs => simp [h, hs, ← hd, hl, standingAfter]
  | dropped h hl hf hs => simp [h, hs, ← hd, hl, hf, standingAfter]
  | kept h hl hf hs => simp [h, hs, ← hd, hl, hf, standingAfter]

/-- A batch is absorbed. -/
theorem Arriving.absorbed {result : QueryResult} (h : Arriving mode plan result m)
    {after : Progress × Verdict}
    (hafter : m.cursor.progress.advance m.cursor.limit m.cursor.batchSize result = after) :
    (after.2.followUp ≠ .kill → Agrees mode plan (m.put { m.cursor with progress := after.1 })) ∧
    (after.2.followUp = .kill →
      ∃ target, Condemned mode plan target (m.put { m.cursor with progress := after.1 })) := by
  obtain ⟨l, hl, hdelivered, hfailure⟩ := h.prior
  have hclear : (ledger plan m.history).failure = none := by
    rw [hl]
    exact hfailure
  have hsize : m.cursor.batchSize = l.batchSize := by
    rw [h.batchSize, hl]
    rfl
  have hfate : Progress.Fate m.cursor.limit m.cursor.batchSize result after.1 after.2 := by
    rw [← hafter]
    exact Progress.advance_fate _ _ _ _
  have hd : after.1.delivered = l.delivered + result.results.length := by
    rw [← hafter, Progress.advance_delivered, hdelivered]
  rw [h.limit, hsize] at hfate
  have hstanding := standing_of_fate hfate hd
  rw [← hl] at hstanding
  have hposted : Posted mode plan (m.put { m.cursor with progress := after.1 }) := by
    refine ⟨h.toFramed.put rfl rfl (h.paid_of_eq rfl id rfl) h.woken fun hf => absurd hclear hf,
      ?_, fun hf => absurd hclear hf⟩
    rw [Moment.put_history, hl]
    exact hd
  have huntried : Untried (m.put { m.cursor with progress := after.1 }) :=
    ⟨h.open_, h.attempts, h.cleanups, (Moment.put_unfinished rfl).trans h.unfinished⟩
  obtain ⟨p, v⟩ := after
  have hgone : p.serverCursor = none →
      Agrees mode plan (m.put { m.cursor with progress := p }) := fun hs => by
    rw [hs] at hstanding
    refine ⟨hposted, ?_⟩
    rw [Moment.put_history, hstanding]
    exact ⟨hs, huntried.attempts, huntried.cleanups⟩
  cases hfate with
  | ended _ hs => exact ⟨fun _ => hgone hs, fun hv => by simp [Verdict.followUp] at hv⟩
  | dropped _ _ _ hs => exact ⟨fun _ => hgone hs, fun hv => by simp [Verdict.followUp] at hv⟩
  | @limitReached target hsome _ hs =>
    rw [hs] at hstanding
    refine ⟨fun hv => by simp [Verdict.followUp] at hv, fun _ => ⟨target, hposted, ?_, hstanding⟩⟩
    exact ⟨huntried, hs, h.sourced (by simp [hsome])⟩
  | @kept target hsome _ _ hs =>
    rw [hs] at hstanding
    refine ⟨fun _ => ⟨hposted, ?_⟩, fun hv => by simp [Verdict.followUp] at hv⟩
    rw [Moment.put_history, hstanding]
    exact ⟨huntried, hs, h.sourced (by simp [hsome])⟩

end DocumentClient.Cursor.Reckoning
