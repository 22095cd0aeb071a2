/-
  The last batch of a cursor.

  A batch is the last one if the limit is negative, or the batch size when it is absorbed.
  `Final` says when it has come, as the first batch or to a fetch, and `Told` what its ledger
  tells: the server cursor is to be killed if the limit was reached, and gone otherwise.
  `Afterwards` is the shape of a life since then: nothing is fetched, the call under way may
  still kill, and then nothing but scheduled kills waits.

  `Final.afterwards`: so it is where calls take turns, whatever is called later.
-/
import DocumentClient.Proofs.Cursor.Alone
import DocumentClient.Proofs.Cursor.Unreleased

namespace DocumentClient.Cursor

open Program (Ensures Environment)

variable {mode : Mode} {plan : Plan} {c : Cursor} {l l' l₁ : Life} {m m' : Moment} {a : Activity}
  {result : QueryResult} {base since news : List Incident} {loopRuns : Bool}

/-! ## Histories -/

/-- Whether an incident is part of a fetch. -/
def Incident.fetches : Incident → Bool
  | .asked q => isFetch q
  | .answered q _ _ => isFetch q
  | _ => false

/-- The batches that are handed out in a history, in this order. -/
def handedOut (history : List Incident) : List (List Value) :=
  history.reverse.filterMap Incident.handedOut

/-- The documents that arrive in a history, in this order. -/
def arrivals (history : List Incident) : List Value := history.reverse.flatMap Incident.arrivals

theorem handedOut_append (later earlier : List Incident) :
    handedOut (later ++ earlier) = handedOut earlier ++ handedOut later := by
  simp [handedOut]

theorem handedOut_cons (i : Incident) (history : List Incident) :
    handedOut (i :: history) = handedOut history ++ i.handedOut.toList := by
  cases h : i.handedOut <;> simp [handedOut, h]

/-- Only the end of an activity hands something out. -/
theorem handedOut_cons_of_none {i : Incident} (hi : i.handedOut = none) (history : List Incident) :
    handedOut (i :: history) = handedOut history := by
  simp [handedOut_cons, hi]

theorem handedOut_notices (ns : List Notice) (history : List Incident) :
    handedOut (ns.map .noticed ++ history) = handedOut history := by
  simp [handedOut, Incident.handedOut]

theorem fetches_of_mem_notices {ns : List Notice} {i : Incident} (hi : i ∈ ns.map .noticed) :
    i.fetches = false := by
  obtain ⟨n, -, rfl⟩ := List.mem_map.1 hi
  rfl

theorem Incident.arrivals_of_fetches {i : Incident} (h : i.fetches = false) : i.arrivals = [] := by
  cases i with
  | answered q x wasOpen => exact arrivals_of_not_isFetch h x wasOpen
  | _ => rfl

/-- Where nothing is fetched nothing arrives. -/
theorem arrivals_append (hquiet : ∀ i ∈ since, i.fetches = false) :
    arrivals (since ++ base) = arrivals base := by
  have hnone : arrivals since = [] := List.flatMap_eq_nil_iff.2 fun i hi =>
    Incident.arrivals_of_fetches (hquiet i (List.mem_reverse.1 hi))
  rw [arrivals, List.reverse_append, List.flatMap_append]
  exact (congrArg (arrivals base ++ ·) hnone).trans (List.append_nil _)

theorem Incident.fetches_of_isShown {i : Incident} (h : i.isShown = false) : i.fetches = false := by
  cases i with
  | asked q => exact h
  | answered q x wasOpen => exact h
  | _ => rfl

/-- What does not show fetches nothing and hands nothing out. -/
theorem quiet_of_twins {first : List Value} (h : Books first [] [] m) (h' : Books first [] [] m')
    (htwins : Twins m' m) (hnews : m'.history = news ++ m.history) :
    (∀ i ∈ news, i.fetches = false) ∧ handedOut news = [] := by
  have hquiet : ∀ i ∈ news, i.fetches = false := by
    have hshown : news.filter Incident.isShown ++ m.shown = m.shown := by
      have := htwins.shown
      rwa [Moment.shown, hnews, List.filter_append] at this
    intro i hi
    refine Incident.fetches_of_isShown (eq_false_of_ne_true ?_)
    exact List.filter_eq_nil_iff.1 (List.append_left_eq_self.1 hshown) i hi
  refine ⟨hquiet, ?_⟩
  have harrivals : m'.arrivals = m.arrivals := by
    change arrivals m'.history = _
    rw [hnews, arrivals_append hquiet]
    rfl
  have hhanded : m'.handedOut = m.handedOut ++ handedOut news := by
    change handedOut m'.history = _
    rw [hnews, handedOut_append]
    rfl
  have horder := h'.order
  have hbefore := h.order
  rw [harrivals, ← hbefore, hhanded] at horder
  simp only [Moment.atHand, htwins.nextBatch, List.append_nil, List.flatten_append,
    List.append_assoc, List.append_cancel_left_eq] at horder
  have hempty : (handedOut news).flatten = [] := List.append_left_eq_self.1 horder
  refine List.eq_nil_iff_forall_not_mem.2 fun batch hbatch => ?_
  have hfilled : batch ≠ [] := h'.filled batch (hhanded ▸ List.mem_append_right _ hbatch)
  exact hfilled (List.flatten_eq_nil_iff.1 hempty batch hbatch)

/-! ## The last batch -/

/-- A batch that is the last one has come, after a history: the first one, or the answer to a
    fetch. -/
inductive Final (plan : Plan) (c : Cursor) (loopRuns : Bool) :
    QueryResult → List Incident → Life → Prop
  | first (h : isFinalBatch plan.limit plan.batchSize) :
      Final plan c loopRuns plan.first [] (Life.opening c plan.first loopRuns)
  | fetched {m : Moment} {before after : List Thread} {a : Activity} {q : Exchange}
      {next : Outcome q.Answer → Program Cursor Yield} {x : Outcome q.Answer}
      {target : ServerCursor} {result : QueryResult}
      (hl : (Life.opening c plan.first loopRuns).TakesTurns
        ⟨m, before ++ ⟨a, .ask q next⟩ :: after⟩)
      (hq : isFetch q) (hs : m.cursor.progress.serverCursor = some target)
      (hx : fetched target q x = .ok result) (hsize : m.cursor.batchSize < 0) :
      Final plan c loopRuns result (m.answer q x).history
        (Life.proceed a (before ++ after) (next x) (m.answer q x))

/-! ## The ledger of the last batch -/

/-- How the server cursor stands after the last batch: to be killed, or gone. -/
def Standing.last (limit delivered : Int) : Option ServerCursor → Standing
  | none => .gone
  | some target =>
    if DocumentClient.limitReached limit delivered then .doomed target else .gone

theorem Ledger.standing_of_final {ledger : Ledger} {limit : Int}
    (h : isFinalBatch limit ledger.batchSize) : (ledger.receive limit result).standing =
      .last limit (ledger.receive limit result).delivered result.cursor := by
  rcases hcursor : result.cursor with _ | target <;>
    simp [Ledger.receive, Standing.last, hcursor, h]

section
variable {q : Exchange} {next : Outcome q.Answer → Program Cursor Yield}
  {before after : List Thread}

/-- What fetches is alone. -/
theorem alone_of_isFetch (hc : ofPlan mode plan = .ok c)
    (hl : (Life.opening c plan.first loopRuns).TakesTurns ⟨m, before ++ ⟨a, .ask q next⟩ :: after⟩)
    (hq : isFetch q) : before = [] ∧ after = [] ∧ a.isCleanup = false ∧ Asks q m.cursor ∧
      ∀ x, Departs (next x) (m.answer q x) := by
  have hpoised := poised_of_takesTurns hc hl
  have hidling := idling_of_takesTurns hl
  generalize hlife : (⟨m, before ++ ⟨a, .ask q next⟩ :: after⟩ : Life) = l at hpoised hidling
  cases hpoised with
  | waits ha hasks hnext =>
    obtain ⟨rfl, hthreads⟩ := Life.mk.inj hlife
    obtain ⟨rfl, hself⟩ | ⟨-, hnil⟩ := List.append_eq_singleton_iff.1 hthreads
    · cases hself
      exact ⟨rfl, rfl, ha, hasks, hnext⟩
    · simp at hnil
  | rests hrest _ _ =>
    subst hlife
    have hself : ⟨a, .ask q next⟩ ∈ before ++ (⟨a, .ask q next⟩ : Thread) :: after :=
      List.mem_append_cons_self
    obtain ⟨q', next', heq, hnone, -⟩ := hidling _ hself (hrest _ hself)
    cases heq
    simp [hq] at hnone

end

theorem Final.takesTurns (h : Final plan c loopRuns result base l₁) :
    (Life.opening c plan.first loopRuns).TakesTurns l₁ := by
  cases h with
  | first _ => exact .refl
  | fetched hl _ _ _ _ => exact .tail hl (.resume _)

/-- What the history up to the last batch tells. -/
structure Told (plan : Plan) (result : QueryResult) (base : List Incident) : Prop where
  standing : (ledger plan base).standing
    = .last plan.limit (ledger plan base).delivered result.cursor
  order : (handedOut base).flatten ++ result.results = plan.first.results ++ arrivals base

theorem Told.not_held (h : Told plan result base) : (ledger plan base).isHeld = false := by
  rw [Ledger.isHeld, h.standing]
  rcases result.cursor with _ | target
  · rfl
  · rcases hl : DocumentClient.limitReached plan.limit (ledger plan base).delivered with _ | _ <;>
      simp [Standing.last, hl]

/-- The books of a cursor, where calls take turns. -/
theorem books_of_takesTurns (hc : ofPlan mode plan = .ok c)
    (hl : (Life.opening c plan.first loopRuns).TakesTurns l) :
    Books plan.first.results [] [] l.moment :=
  books_of_reaches hc hl.reaches

theorem Final.told (h : Final plan c true result base l₁) (hc : ofPlan mode plan = .ok c)
    (hregular : ∀ i ∈ base, i.Regular) : Told plan result base := by
  cases h with
  | first h =>
    have hsize : isFinalBatch plan.limit (⟨.gone, 0, plan.batchSize, none⟩ : Ledger).batchSize := h
    exact ⟨Ledger.standing_of_final hsize, (List.append_nil _).symm⟩
  | @fetched m before after a q next x target _ hl hq hs hx hsize =>
    obtain ⟨-, -, -, hasks, -⟩ := alone_of_isFetch hc hl hq
    obtain ⟨hreaches, -⟩ := reaches_of_takesTurns hc hl
      fun i hi => hregular i (List.mem_cons_of_mem _ hi)
    have hagrees : Reckoning.Agrees mode plan m := Reckoning.agrees_of_reaches hc hreaches
    have hledger : ledger plan (m.answer q x).history
        = (ledger plan m.history).receive plan.limit result := by
      rw [Reckoning.ledger_answer_of_held (hagrees.standing hs) hasks.intact.isOpen,
        fetchOutcome_of_isFetch hq, hx]
    have hbooks := (books_of_takesTurns hc hl).order
    refine ⟨?_, ?_⟩
    · rw [hledger]
      refine Ledger.standing_of_final ?_
      have hneg : (ledger plan m.history).batchSize < 0 := hagrees.batchSize ▸ hsize
      simp [isFinalBatch, hneg]
    · have hatHand : m.atHand = [] := by simp [Moment.atHand, (hasks.fetches hq).2]
      have harrived : (Incident.answered q x (!m.cursor.closed)).arrivals = result.results := by
        rw [hasks.intact.isOpen]
        change received q x = _
        rw [received_of_fetched target, hx]
      have hhanded : handedOut (m.answer q x).history = m.handedOut := by
        simp [handedOut, Moment.handedOut, Moment.answer, Incident.handedOut]
      have harrivals : arrivals (m.answer q x).history = m.arrivals ++ result.results := by
        rw [← harrived]
        simp [arrivals, Moment.arrivals, Moment.answer]
      have hbefore : m.handedOut.flatten = plan.first.results ++ m.arrivals := by
        simpa [hatHand] using hbooks
      rw [hhanded, harrivals, hbefore, List.append_assoc]

/-! ## Afterwards -/

/-- What has happened since a history: nothing was fetched. -/
structure Unfetched (base since : List Incident) (m : Moment) : Prop where
  history : m.history = since ++ base
  quiet : ∀ i ∈ since, i.fetches = false

theorem Unfetched.append (h : Unfetched base since m) (hnews : ∀ i ∈ news, i.fetches = false)
    (hm : m'.history = news ++ m.history) : Unfetched base (news ++ since) m' where
  history := by rw [hm, h.history, List.append_assoc]
  quiet i hi := (List.mem_append.1 hi).elim (hnews i) (h.quiet i)

theorem Unfetched.record (h : Unfetched base since m) {i : Incident} (hi : i.fetches = false) :
    Unfetched base (i :: since) (m.record i) :=
  (h.append (by simpa using hi) rfl : Unfetched base ([i] ++ since) (m.record i))

/-- How a life goes on after the last batch: the call under way may still kill, and hands the
    batch out at its end if at all; then at most scheduled kills wait. -/
inductive Afterwards (base : List Incident) : Life → Prop
  | waits {m : Moment} {a : Activity} {q : Exchange}
      {next : Outcome q.Answer → Program Cursor Yield} {since : List Incident}
      (h : Unfetched base since m) (hnone : handedOut since = []) (ha : a.isCleanup = false)
      (hintact : Intact m.cursor) (hq : isFetch q = false)
      (hnext : ∀ x, Departs (next x) (m.answer q x)) :
      Afterwards base ⟨m, [⟨a, .ask q next⟩]⟩
  | rests {l : Life} {since : List Incident} (h : Unfetched base since l.moment)
      (hhanded : handedOut since = [] ∨
        ∃ batch, handedOut since = [batch] ∧ l.moment.cursor.progress.nextBatch = none)
      (hrest : l.AtRest) (hs : l.moment.cursor.progress.serverCursor = none) : Afterwards base l

/-- The call under way goes on without a server cursor. -/
theorem afterwards_proceed {p : Program Cursor Yield} (ha : a.isCleanup = false)
    (hp : Departs p m) (h : Unfetched base since m) (hnone : handedOut since = [])
    (hs : (Life.proceed a [] p m).moment.cursor.progress.serverCursor = none) :
    Afterwards base (Life.proceed a [] p m) := by
  obtain ⟨ns, m', hhistory, hproceed⟩ := proceed_of_answering a [] hp
  have h' : Unfetched base (ns.map .noticed ++ since) m' :=
    h.append (fun _ => fetches_of_mem_notices) hhistory
  have hnone' : handedOut (ns.map .noticed ++ since) = [] :=
    (handedOut_notices ns since).trans hnone
  obtain ⟨o, hleaves, heq⟩ | ⟨q, next, hasks, hnext, heq⟩ := hproceed <;> rw [heq] at hs ⊢
  · refine .rests (h'.record (i := .ended a o) rfl) ?_ (by simp [Life.AtRest]) hs
    rw [handedOut_cons, hnone']
    rcases hbatch : batchOf o with _ | batch
    · exact .inl (by simp [Incident.handedOut, hbatch])
    · exact .inr ⟨batch, by simp [Incident.handedOut, hbatch], hleaves.taken (by simp [hbatch])⟩
  · have hq : isFetch q = false := by
      rcases hq : isFetch q with _ | _
      · rfl
      · have hsome := (hasks.fetches hq).1
        have hs' : m'.cursor.progress.serverCursor = none := hs
        simp [hs'] at hsome
    exact .waits (h'.record (i := .asked q) hq) ((handedOut_cons_of_none rfl _).trans hnone') ha
      ⟨hasks.intact.isOpen, hasks.intact.unreleased, hasks.intact.unscheduled⟩ hq hnext

/-- An operation is called when the last batch has come. -/
theorem afterwards_begin (h : Unfetched base since l.moment)
    (hhanded : handedOut since = [] ∨
      ∃ batch, handedOut since = [batch] ∧ l.moment.cursor.progress.nextBatch = none)
    (hrest : l.AtRest) (hs : l.moment.cursor.progress.serverCursor = none) (ha : a.isOperation) :
    Afterwards base (l.begin a) := by
  obtain ⟨o, m', ⟨htakes, ns, hhistory⟩, heq⟩ := proceed_of_silent a l.threads
    (silent_notices (silent_program_of_none (m := l.moment.record (.begun a)) hs ha))
  have h' := ((h.record (i := .begun a) rfl).append (fun _ => fetches_of_mem_notices)
    hhistory).record (i := .ended a o) rfl
  rw [Life.begin, heq]
  refine .rests h' ?_ hrest (htakes.serverCursor.trans hs)
  rw [handedOut_cons, handedOut_notices, handedOut_cons_of_none rfl]
  rcases hbatch : batchOf o with _ | batch
  · have hsame : m'.cursor.progress.nextBatch = l.moment.cursor.progress.nextBatch :=
      htakes.untaken hbatch
    simpa [Incident.handedOut, hbatch, hsame] using hhanded
  · obtain ⟨hbefore, hafter⟩ := htakes.taken batch hbatch
    obtain hnone | ⟨earlier, -, hnone⟩ := hhanded
    · exact .inr ⟨batch, by simp [Incident.handedOut, hbatch, hnone], hafter⟩
    · simp [hnone] at hbefore

theorem Afterwards.turn (h : Afterwards base l) (hturn : l.Turn l') (hidling : l.Idling)
    (hs' : l'.moment.cursor.progress.serverCursor = none)
    (hbooks : Books plan.first.results [] [] l.moment)
    (hbooks' : Books plan.first.results [] [] l'.moment) : Afterwards base l' := by
  cases h with
  | @waits m a q next since h hnone ha hintact hq hnext =>
    obtain ⟨x, rfl⟩ := hturn.of_waits ha hintact.unscheduled
    exact afterwards_proceed ha (hnext x) (h.record hq) ((handedOut_cons_of_none rfl _).trans hnone)
      hs'
  | rests h hhanded hrest hs =>
    obtain ⟨a, ha, rfl⟩ | ⟨hrest', htwins⟩ := (hturn.shows hidling).2 hrest
    · exact afterwards_begin h hhanded hrest hs ha
    · obtain ⟨news, hnews⟩ := Life.suffix_step hturn.step
      obtain ⟨hquiet, hnone⟩ := quiet_of_twins hbooks hbooks' htwins hnews.symm
      refine .rests (h.append hquiet hnews.symm) ?_ hrest' hs'
      rw [handedOut_append, hnone, List.append_nil, htwins.nextBatch]
      exact hhanded

/-- After the last batch no server cursor is held. -/
theorem serverCursor_of_told (htold : Told plan result base)
    (hagrees : Reckoning.Agrees mode plan m) (hsuffix : base <:+ m.history) :
    m.cursor.progress.serverCursor = none := by
  obtain ⟨later, heq⟩ := hsuffix
  refine hagrees.serverCursor_of_not_held ?_
  rw [← heq]
  exact (ledger_append_of_not_held htold.not_held later).isHeld.trans htold.not_held

/-! ## Lives after the last batch -/

theorem Life.TakesTurns.suffix (h : l.TakesTurns l') : l.moment.history <:+ l'.moment.history := by
  induction h with
  | refl => exact List.suffix_refl _
  | tail _ hturn ih => exact ih.trans (Life.suffix_step hturn.step)

theorem Final.suffix (h : Final plan c loopRuns result base l₁) : base <:+ l₁.moment.history := by
  cases h with
  | first _ => exact List.nil_suffix
  | fetched _ _ _ _ _ => exact Life.suffix_proceed ..

/-- What holds of a life after the last batch, where all that happens is regular. -/
structure Ending (mode : Mode) (plan : Plan) (c : Cursor) (result : QueryResult)
    (base : List Incident) (l : Life) : Prop where
  told : Told plan result base
  suffix : base <:+ l.moment.history
  reaches : Life.Reaches (regime mode) (Life.opening c plan.first true) l
  plain : mode = .blocking → ∀ t ∈ l.threads, t.activity.isCleanup = false
  agrees : Reckoning.Agrees mode plan l.moment
  books : Books plan.first.results [] [] l.moment

theorem Final.ending (h : Final plan c true result base l₁) (hc : ofPlan mode plan = .ok c)
    (hl : l₁.TakesTurns l) (hregular : ∀ i ∈ l.moment.history, i.Regular) :
    Ending mode plan c result base l := by
  have hsuffix : base <:+ l.moment.history := h.suffix.trans hl.suffix
  have hall := h.takesTurns.trans hl
  obtain ⟨hreaches, hplain⟩ := reaches_of_takesTurns hc hall hregular
  exact ⟨h.told hc fun i hi => hregular i (hsuffix.subset hi), hsuffix, hreaches, hplain,
    Reckoning.agrees_of_reaches hc hreaches, books_of_takesTurns hc hall⟩

theorem Ending.serverCursor (h : Ending mode plan c result base l) :
    l.moment.cursor.progress.serverCursor = none :=
  serverCursor_of_told h.told h.agrees h.suffix

/-- How the server cursor of the last batch stands. -/
theorem Ending.standing (h : Ending mode plan c result base l) :
    (ledger plan l.moment.history).standing
      = .last plan.limit l.moment.cursor.progress.delivered result.cursor := by
  obtain ⟨later, heq⟩ := h.suffix
  have halike := ledger_append_of_not_held h.told.not_held later
  rw [heq] at halike
  rw [halike.standing, h.told.standing, ← halike.delivered, h.agrees.delivered]

theorem unfetched_nil (m : Moment) : Unfetched m.history [] m := ⟨rfl, by simp⟩

theorem Final.afterwards_begun (h : Final plan c loopRuns result base l₁)
    (hc : ofPlan mode plan = .ok c) (hs : l₁.moment.cursor.progress.serverCursor = none) :
    Afterwards base l₁ := by
  cases h with
  | first _ =>
    have hbegun := (unfetched_nil ⟨c, []⟩).record (i := .begun (.opening plan.first loopRuns)) rfl
    exact afterwards_proceed rfl (Intact.departs_opening (intact_of_ofPlan hc) plan.first loopRuns)
      hbegun rfl hs
  | fetched hl hq _ _ _ =>
    obtain ⟨rfl, rfl, ha, -, hnext⟩ := alone_of_isFetch hc hl hq
    exact afterwards_proceed ha (hnext _) (unfetched_nil _) rfl hs

/-- After the last batch at most its call and scheduled kills go on, as long as no server cursor is
    held. -/
theorem Final.afterwards (h : Final plan c loopRuns result base l₁) (hc : ofPlan mode plan = .ok c)
    (hl : l₁.TakesTurns l) (hnone : ∀ b, l₁.TakesTurns b → b.TakesTurns l →
      b.moment.cursor.progress.serverCursor = none) : Afterwards base l := by
  induction hl with
  | refl => exact h.afterwards_begun hc (hnone _ .refl .refl)
  | @tail b l' hb hturn ih =>
    have hall := h.takesTurns.trans hb
    exact (ih fun b' hb' hrest => hnone b' hb' (.tail hrest hturn)).turn hturn
      (idling_of_takesTurns hall) (hnone l' (.tail hb hturn) .refl) (books_of_takesTurns hc hall)
      (books_of_takesTurns hc (.tail hall hturn))

/-- What was handed out since, and what is at hand, is the last batch. -/
theorem Unfetched.batch (h : Unfetched base since m) (hbooks : Books plan.first.results [] [] m)
    (hlast : (handedOut base).flatten ++ result.results = plan.first.results ++ arrivals base) :
    (handedOut since).flatten ++ m.atHand = result.results := by
  have horder : (handedOut m.history).flatten ++ m.atHand
      = plan.first.results ++ arrivals m.history := by
    have horder := hbooks.order
    simp only [List.append_nil] at horder
    exact horder
  rw [h.history, handedOut_append, arrivals_append h.quiet, ← hlast, List.flatten_append,
    List.append_assoc] at horder
  exact List.append_cancel_left horder

theorem atHand_of_nextBatch (h : m.cursor.progress.nextBatch = none) : m.atHand = [] := by
  simp [Moment.atHand, h]

/-- It is at hand, or was handed out. -/
theorem Afterwards.batch (h : Afterwards base l)
    (hbooks : Books plan.first.results [] [] l.moment)
    (hlast : (handedOut base).flatten ++ result.results = plan.first.results ++ arrivals base) :
    ∃ since, Unfetched base since l.moment ∧
      (handedOut since = [] ∧ l.moment.atHand = result.results ∨
        handedOut since = [result.results] ∧ l.moment.atHand = []) := by
  cases h with
  | waits h hnone _ _ _ _ =>
    exact ⟨_, h, .inl ⟨hnone, by simpa [hnone] using h.batch hbooks hlast⟩⟩
  | rests h hhanded _ _ =>
    refine ⟨_, h, ?_⟩
    have hbatch := h.batch hbooks hlast
    obtain hnone | ⟨batch, hone, htaken⟩ := hhanded
    · exact .inl ⟨hnone, by simpa [hnone] using hbatch⟩
    · have hempty := atHand_of_nextBatch htaken
      simp only [hone, hempty, List.flatten_cons, List.flatten_nil, List.append_nil] at hbatch
      exact .inr ⟨hbatch ▸ hone, hempty⟩

end DocumentClient.Cursor
