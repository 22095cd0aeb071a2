/-
  What becomes of a cursor after its last batch.

  `LastBatch` says it: nothing is fetched any more; the batch is handed out once at most, and
  can be taken until the cursor is closed; a server cursor that is still alive is killed if the
  limit was reached, and dropped otherwise; and what the cursor owns is released, after the kill
  if there is one.

  On a running loop the ledger of the last batch tells what is killed (`lastBatch_onLoop`).  Off
  the loop a life is the same but for names, unless the first batch calls for a kill: that kill is
  left out, and nothing is asked any more (`Forgone`).

  `lastBatch_of_takesTurns`: so it is where calls take turns and no exchange is cut short.
-/
import DocumentClient.Proofs.Cursor.Finality
import DocumentClient.Proofs.Cursor.Loopless

namespace DocumentClient.Cursor

open Program (Ensures Environment)

variable {mode : Mode} {plan : Plan} {c : Cursor} {l l' l₁ : Life} {m m' : Moment}
  {result : QueryResult} {base since : List Incident} {loopRuns : Bool}

/-! ## Taking a batch -/

/-- The cursor after the batch at hand was taken. -/
def taken (c : Cursor) : Cursor := { c with progress := { c.progress with nextBatch := none } }

theorem nextBatch_of_atHand {batch : List Value} (h : m.atHand = batch) (hne : batch ≠ []) :
    m.cursor.progress.nextBatch = some batch := by
  subst h
  rcases hb : m.cursor.progress.nextBatch with _ | documents
  · simp [Moment.atHand, hb] at hne
  · simp [Moment.atHand, hb]

section
variable {batch : List Value}

theorem silent_hasNext_of_hasBatch (hopen : m.cursor.closed = false)
    (hb : m.cursor.progress.nextBatch = some batch) (rounds : Nat) :
    Silent (fun o m' => o = .ok .ready ∧ m' = m) (hasNext (rounds + 1)) m := by
  simp [hasNext, ensureOpen, awaitBatch, Program.ensures_bind, hopen, Cursor.hasBatch, hb]

theorem silent_takeBatch_of_hasBatch (hb : m.cursor.progress.nextBatch = some batch) :
    Silent (fun o m' => o = .ok batch ∧ m' = m.put (taken m.cursor)) takeBatch m := by
  refine ensures_takeBatch.2 ?_
  split
  · rename_i hnone
    simp [hb] at hnone
  · rename_i documents hsome
    obtain rfl : batch = documents := Option.some.inj (hb.symm.trans hsome)
    exact ⟨rfl, rfl⟩

theorem silent_next_of_hasBatch (hopen : m.cursor.closed = false)
    (hb : m.cursor.progress.nextBatch = some batch) (rounds : Nat) :
    Silent (fun o m' => o = .ok (.batch batch) ∧ m' = m.put (taken m.cursor))
      (next (rounds + 1)) m := by
  refine Program.ensures_bind.2
    (Program.ensures_mono ?_ (silent_hasNext_of_hasBatch hopen hb rounds))
  rintro _ _ ⟨rfl, rfl⟩
  refine Program.ensures_bind.2 (Program.ensures_mono ?_ (silent_takeBatch_of_hasBatch hb))
  rintro _ _ ⟨rfl, rfl⟩
  exact ⟨rfl, rfl⟩

theorem silent_tryNext_of_hasBatch (hopen : m.cursor.closed = false)
    (hb : m.cursor.progress.nextBatch = some batch) :
    Silent (fun o m' => o = .ok (some batch) ∧ m' = m.put (taken m.cursor)) tryNext m := by
  have hhas : m.cursor.hasBatch := by simp [Cursor.hasBatch, hb]
  have htaken : Silent (Program.Continues silence Moment.cell
      (fun o m' => o = .ok (some batch) ∧ m' = m.put (taken m.cursor))
      fun documents => pure (some documents)) takeBatch m := by
    refine Program.ensures_mono ?_ (silent_takeBatch_of_hasBatch hb)
    rintro _ _ ⟨rfl, rfl⟩
    exact ⟨rfl, rfl⟩
  simpa [tryNext, ensureOpen, Program.ensures_bind, hopen, hhas] using htaken

end

/-- The last batch can be taken. -/
theorem ready_of_atHand (hopen : l.moment.cursor.closed = false)
    (hbatch : handedOut since = [] ∧ l.moment.atHand = result.results ∨
      handedOut since = [result.results] ∧ l.moment.atHand = [])
    (hne : l.moment.atHand ≠ []) :
    (∀ rounds, l.AtOnce (.hasNext (rounds + 1)) (.ok (.availability .ready)) l.moment.cursor ∧
      l.AtOnce (.next (rounds + 1)) (.ok (.retrieval (.batch result.results)))
        (taken l.moment.cursor)) ∧
    l.AtOnce .tryNext (.ok (.attempted (some result.results))) (taken l.moment.cursor) := by
  have hathand : l.moment.atHand = result.results := (hbatch.resolve_right fun h => hne h.2).2
  have hb := nextBatch_of_atHand hathand (hathand ▸ hne)
  refine ⟨fun rounds => ⟨?_, ?_⟩, ?_⟩
  · exact atOnce_of_silent
      (silent_map (silent_hasNext_of_hasBatch (m := l.moment.record _) hopen hb rounds))
  · exact atOnce_of_silent
      (silent_map (silent_next_of_hasBatch (m := l.moment.record _) hopen hb rounds))
  · exact atOnce_of_silent
      (silent_map (silent_tryNext_of_hasBatch (m := l.moment.record _) hopen hb))

/-! ## The last batch -/

/-- What has become of a cursor since its last batch has come, which makes it kill its server
    cursor or not. -/
structure LastBatch (plan : Plan) (result : QueryResult) (kills : Bool) (since : List Incident)
    (l : Life) : Prop where
  /-- Nothing is fetched any more. -/
  quiet : ∀ i ∈ since, i.fetches = false
  /-- The batch is at hand until it is handed out, and no other is. -/
  batch : handedOut since = [] ∧ l.moment.atHand = result.results ∨
    handedOut since = [result.results] ∧ l.moment.atHand = []
  /-- It can be taken from a cursor that is open. -/
  ready : l.AtRest → l.moment.cursor.closed = false → l.moment.atHand ≠ [] →
    (∀ rounds, l.AtOnce (.hasNext (rounds + 1)) (.ok (.availability .ready)) l.moment.cursor ∧
      l.AtOnce (.next (rounds + 1)) (.ok (.retrieval (.batch result.results)))
        (taken l.moment.cursor)) ∧
    l.AtOnce .tryNext (.ok (.attempted (some result.results))) (taken l.moment.cursor)
  /-- The kill is tried once: it is requested, or given up since no connection is to be had for
      it. -/
  killed : kills → l.threads = [] → l.moment.cursor.cleanups = [] → l.moment.attempts = 1 ∧
    ∃ later i earlier, l.moment.history = later ++ i :: earlier ∧
      (i.requestsKill ∨ i.abandons earlier) ∧ 0 < earlier.countP Incident.attempts
  /-- No other server cursor is killed. -/
  named : ∀ later x ns ids earlier,
    l.moment.history = later ++ .asked (.killCursors x ns ids) :: earlier →
    ∃ target, result.cursor = some target ∧ ids = [target.id]
  /-- Otherwise the server cursor is dropped, and no kill is tried. -/
  dropped : kills = false →
    l.moment.attempts = 0 ∧ l.moment.killRequests = 0 ∧ l.moment.cursor.cleanups = []
  /-- While a kill is scheduled or under way, an open cursor keeps what it owns. -/
  kept : l.moment.cursor.closed = false → (l.threads ≠ [] ∨ l.moment.cursor.cleanups ≠ []) →
    (∀ s, l.moment.sourceReleases s = 0) ∧
      (plan.connection.isSome → ∀ id, l.moment.releases id = 0)
  /-- After it all is released. -/
  released : l.threads = [] → l.moment.cursor.cleanups = [] → Released plan l.moment

/-! ## Kills -/

/-- No kill is cancelled where all is regular. -/
theorem Incident.Regular.cancelsKill {i : Incident} (h : i.Regular) : i.cancelsKill = false := by
  cases i with
  | answered q x wasOpen =>
    cases q with
    | killCursors connection ns ids =>
      refine Incident.cancelsKill_answered fun heq => ?_
      have hordinary := h _ heq
      simp [Failure.isOrdinary] at hordinary
    | _ => rfl
  | _ => rfl

namespace Ending

/-- The kill that the last batch calls for is tried once. -/
theorem killed (h : Ending mode plan c result base l) (hc : ofPlan mode plan = .ok c)
    (hcursor : result.cursor.isSome)
    (hlimit : DocumentClient.limitReached plan.limit l.moment.cursor.progress.delivered)
    (hrest : l.threads = []) (hnone : l.moment.cursor.cleanups = []) :
    l.moment.attempts = 1 ∧ ∃ later i earlier, l.moment.history = later ++ i :: earlier ∧
      (i.requestsKill ∨ i.abandons earlier) ∧ 0 < earlier.countP Incident.attempts := by
  obtain ⟨target, htarget⟩ := Option.isSome_iff_exists.1 hcursor
  have hdoomed : (ledger plan l.moment.history).standing = .doomed target := by
    rw [h.standing, htarget, Standing.last, if_pos hlimit]
  have hone : l.moment.attempts = 1 := by
    obtain ⟨hone, -⟩ | ⟨-, -, hscheduled⟩ := h.agrees.doomed hdoomed
    · exact hone
    · simp [hnone] at hscheduled
  exact ⟨hone, exists_of_attempts hc h.reaches hrest (by omega)⟩

/-- What is killed is the server cursor of the last batch. -/
theorem named (h : Ending mode plan c result base l) {later earlier : List Incident}
    {x : Connection} {ns : Namespace} {ids : List Int}
    (heq : l.moment.history = later ++ .asked (.killCursors x ns ids) :: earlier) :
    ∃ target, result.cursor = some target ∧ ids = [target.id] := by
  obtain ⟨target, hdoomed, hids⟩ := h.agrees.requested heq
  have hnot : (ledger plan earlier).isHeld = false := by simp [Ledger.isHeld, hdoomed]
  have hstanding := (ledger_append_of_not_held hnot
    (later ++ [.asked (.killCursors x ns ids)])).standing
  rw [List.append_assoc, List.singleton_append, ← heq, hdoomed, h.standing] at hstanding
  refine ⟨target, ?_, hids⟩
  rcases hcursor : result.cursor with _ | alive
  · simp [hcursor, Standing.last] at hstanding
  · rw [hcursor, Standing.last] at hstanding
    split at hstanding
    · rw [Standing.doomed.inj hstanding]
    · simp at hstanding

/-- Where the last batch calls for no kill, none is tried. -/
theorem dropped (h : Ending mode plan c result base l)
    (hspared : result.cursor.isSome →
      DocumentClient.limitReached plan.limit l.moment.cursor.progress.delivered = false) :
    l.moment.attempts = 0 ∧ l.moment.killRequests = 0 ∧ l.moment.cursor.cleanups = [] := by
  have hgone : (ledger plan l.moment.history).standing = .gone := by
    rw [h.standing]
    rcases hcursor : result.cursor with _ | target
    · rfl
    · simp [Standing.last, hspared (by simp [hcursor])]
  obtain ⟨hnone, hcleanups⟩ := h.agrees.gone (List.nil_append _).symm hgone
  have hrequests := killRequests_le_attempts h.reaches
  exact ⟨hnone, by omega, hcleanups⟩

/-! ## Resources -/

/-- At rest a kill that is scheduled or under way keeps what an open cursor owns. -/
theorem unreleased (h : Ending mode plan c result base l) (hc : ofPlan mode plan = .ok c)
    (hrest : l.AtRest) (hopen : l.moment.cursor.closed = false)
    (hpending : l.threads ≠ [] ∨ l.moment.cursor.cleanups ≠ []) :
    l.moment.cursor.released = false := by
  cases mode with
  | blocking =>
    have hidle := (Reckoning.sound_discipline plan).idle _ h.agrees
    obtain hthreads | hcleanups := hpending
    · obtain ⟨t, ht⟩ := List.exists_mem_of_ne_nil _ hthreads
      have hcleanup := hrest t ht
      simp [h.plain rfl t ht] at hcleanup
    · exact absurd hidle hcleanups
  | async =>
    have hguarded : Guarded plan l.moment :=
      (sound_scheduling plan).invariant_of_reaches h.reaches (orderly_guarded hc)
    have hunfinished : l.Unfinished := hpending.symm.imp_right fun hthreads => by
      obtain ⟨t, ht⟩ := List.exists_mem_of_ne_nil _ hthreads
      exact ⟨t, ht, hrest t ht⟩
    rw [hguarded.pending (Life.unfinished_pos (Life.counted_of_reaches h.reaches) hunfinished),
      hopen, Bool.and_false]

/-- Where nothing goes on any more, the cursor has released what it owns. -/
theorem released (h : Ending mode plan c result base l) (hc : ofPlan mode plan = .ok c)
    (hregular : ∀ i ∈ l.moment.history, i.Regular) (htakes : Life.Reaches anyOrder
      (Life.opening c plan.first true) l) (hrest : l.threads = [])
    (hnone : l.moment.cursor.cleanups = []) : Released plan l.moment := by
  refine released_of_reaches hc h.reaches hrest ?_
  cases mode with
  | blocking => exact (Custody.even_of_reaches hc h.reaches hrest).atRest.spent h.serverCursor
  | async =>
    have hu : ¬ l.Unfinished := by simp [Life.Unfinished, hrest, hnone]
    have hr : ¬ l.Retrieves := by simp [Life.Retrieves, hrest]
    refine (released_iff_not_stranded hc htakes hr hu h.serverCursor).2 fun hstranded => ?_
    obtain ⟨i, hi, hcancels⟩ := List.any_eq_true.1 hstranded.2.2
    exact absurd hcancels (by simp [(hregular i hi).cancelsKill])

end Ending

theorem Afterwards.unreleased (h : Afterwards base l) (hending : Ending mode plan c result base l)
    (hc : ofPlan mode plan = .ok c) (hopen : l.moment.cursor.closed = false)
    (hpending : l.threads ≠ [] ∨ l.moment.cursor.cleanups ≠ []) :
    l.moment.cursor.released = false := by
  cases h with
  | waits _ _ _ hintact _ _ => exact hintact.unreleased
  | rests _ _ hrest _ => exact hending.unreleased hc hrest hopen hpending

/-- Whether a last batch makes a cursor kill its server cursor. -/
def callsForKill (limit delivered : Int) (result : QueryResult) : Bool :=
  result.cursor.isSome && DocumentClient.limitReached limit delivered

/-- So it is on a running loop. -/
theorem lastBatch_onLoop (hc : ofPlan mode plan = .ok c)
    (hfinal : Final plan c true result base l₁) (hl : l₁.TakesTurns l)
    (hregular : ∀ i ∈ l.moment.history, i.Regular) :
    ∃ since, l.moment.history = since ++ base ∧ LastBatch plan result
      (callsForKill plan.limit l.moment.cursor.progress.delivered result) since l := by
  have hafter := hfinal.afterwards hc hl fun b hb hrest =>
    (hfinal.ending hc hb fun i hi => hregular i (hrest.suffix.subset hi)).serverCursor
  have hending := hfinal.ending hc hl hregular
  have htakes := Life.TakesTurns.reaches (hfinal.takesTurns.trans hl)
  obtain ⟨since, hsince, hbatch⟩ := hafter.batch hending.books hending.told.order
  refine ⟨since, hsince.history, ?_⟩
  constructor
  case quiet => exact hsince.quiet
  case batch => exact hbatch
  case ready => exact fun _ hopen hne => ready_of_atHand hopen hbatch hne
  case killed =>
    intro hkills hrest hnone
    simp only [callsForKill, Bool.and_eq_true] at hkills
    exact hending.killed hc hkills.1 hkills.2 hrest hnone
  case named => exact fun later x ns ids earlier heq => hending.named heq
  case dropped =>
    intro hkills
    refine hending.dropped fun hcursor => ?_
    simpa [callsForKill, hcursor] using hkills
  case kept =>
    intro hopen hpending
    have hreleased := hafter.unreleased hending hc hopen hpending
    have hunreleased := unreleased_of_reaches htakes
    have hconnection : c.setup.connection = plan.connection := (planned_of_ofPlan hc).connection
    exact ⟨hunreleased.sources hreleased,
      fun hsome => hunreleased.connections hreleased (hconnection ▸ hsome)⟩
  case released => exact hending.released hc hregular htakes

/-! ## Off the loop -/

/-- Whether an exchange was cut short: it was cancelled, or broke off in some other way. -/
def Incident.cutShort : Incident → Bool
  | .answered _ (.error e) _ => !e.isOrdinary
  | _ => false

theorem Incident.regular_looped {i : Incident} (h : i.cutShort = false) : i.looped.Regular := by
  cases i with
  | begun a => exact a.looped_onLoop
  | answered q x wasOpen =>
    rintro e rfl
    simpa [cutShort] using h
  | _ => trivial

theorem opening_looped (hc : ofPlan mode plan = .ok c)
    (h : mode = .blocking ∨ loopRuns = true ∨ plan.stopsEarly = false) :
    (Life.opening c plan.first loopRuns).looped = Life.opening c plan.first true := by
  refine (Life.begin_looped (a := .opening plan.first loopRuns) (l := ⟨⟨c, []⟩, []⟩) ?_).symm
  obtain rfl | rfl | hearly := h
  · exact heedless_of_blocking (planned_of_ofPlan hc).mode
  · exact fun _ _ => rfl
  · exact heedless_opening hc _ hearly

/-- Until a cursor is closed, and when it has no server cursor any more, its calls are heedless. -/
theorem looped_of_takesTurns (hc : ofPlan mode plan = .ok c)
    (hl₁ : (Life.opening c plan.first loopRuns).TakesTurns l₁) (hl : l₁.TakesTurns l)
    (h : l.moment.cursor.closed = false ∨ l₁.moment.cursor.progress.serverCursor = none) :
    l₁.looped.TakesTurns l.looped := by
  refine hl.looped fun b hb a ha hrest => ?_
  have hreaches := Life.TakesTurns.reaches (hl₁.trans hb)
  cases mode with
  | blocking =>
    exact heedless_of_blocking ((planned_of_ofPlan hc).kept (setup_of_reaches hreaches)).mode
  | async =>
    obtain hopen | hs := h
    · cases a, ha using Activity.operation_cases with
      | close running =>
        have hclosed := closed_of_close hc hreaches hrest.reaches
        simp [hopen] at hclosed
      | _ => exact fun _ _ => rfl
    · exact heedless_of_none ((lasts_of_reaches hc hl₁.reaches hb.reaches).idle hs).1 ha

theorem Final.looped (h : Final plan c loopRuns result base l₁) (hc : ofPlan mode plan = .ok c)
    (hheedless : mode = .blocking ∨ loopRuns = true ∨ plan.stopsEarly = false) :
    Final plan c true result (base.map Incident.looped) l₁.looped := by
  cases h with
  | first h =>
    rw [opening_looped hc hheedless]
    exact .first h
  | @fetched m before after a q next x target _ hl hq hs hx hsize =>
    obtain ⟨-, -, -, hasks, -⟩ := alone_of_isFetch hc hl hq
    have hlooped := looped_of_takesTurns hc .refl hl (.inl hasks.intact.isOpen)
    rw [opening_looped hc hheedless, Life.looped_beside] at hlooped
    rw [← Life.proceed_looped, List.map_append]
    exact .fetched hlooped hq hs hx hsize

theorem handedOut_looped (history : List Incident) :
    handedOut (history.map Incident.looped) = handedOut history := by
  have hnames : Incident.handedOut ∘ Incident.looped = Incident.handedOut := by
    funext i
    cases i <;> rfl
  rw [handedOut, ← List.map_reverse, List.filterMap_map, hnames]
  rfl

theorem refusedLast_looped (history : List Incident) :
    refusedLast (history.map Incident.looped) = refusedLast history := by
  fun_induction refusedLast history with
  | case1 x history ih => exact ih
  | case2 s history ih => exact ih
  | case3 i history hconnection hsource =>
    cases i with
    | noticed n =>
      cases n with
      | releaseConnection x => exact absurd rfl (hconnection x)
      | releaseSource s => exact absurd rfl (hsource s)
      | _ => rfl
    | _ => rfl
  | case4 => rfl

theorem Incident.abandons_looped (i : Incident) (history : List Incident) :
    i.looped.abandons (history.map looped) = i.abandons history := by
  cases i with
  | noticed n => exact congrArg (isKillFailure n && ·) (refusedLast_looped history)
  | ended a o =>
    cases a with
    | cleanup target =>
      cases o with
      | error e => exact refusedLast_looped history
      | ok y => rfl
    | _ => rfl
  | _ => rfl

/-- What becomes of a cursor does not depend on the names of its activities. -/
theorem LastBatch.of_looped {kills : Bool}
    (h : LastBatch plan result kills (since.map Incident.looped) l.looped) :
    LastBatch plan result kills since l := by
  have hbatch := h.batch
  rw [handedOut_looped] at hbatch
  constructor
  case quiet =>
    intro i hi
    have hquiet := h.quiet _ (List.mem_map_of_mem hi)
    cases i <;> exact hquiet
  case batch => exact hbatch
  case ready => exact fun _ hopen hne => ready_of_atHand hopen hbatch hne
  case killed =>
    intro hkills hrest hnone
    obtain ⟨hone, later, i, earlier, heq, hi, hbefore⟩ :=
      h.killed hkills (by simp [Life.looped, hrest]) hnone
    refine ⟨(Moment.looped_attempts _).symm.trans hone, ?_⟩
    obtain ⟨later, rest, hhistory, rfl, hrest⟩ := List.map_eq_append_iff.1 heq
    obtain ⟨j, earlier, rfl, rfl, rfl⟩ := List.map_eq_cons_iff.1 hrest
    have hnames : Incident.attempts ∘ Incident.looped = Incident.attempts := by
      funext i
      cases i <;> rfl
    rw [List.countP_map, hnames] at hbefore
    rw [Incident.abandons_looped] at hi
    exact ⟨later, j, earlier, hhistory, by cases j <;> exact hi, hbefore⟩
  case named =>
    intro later x ns ids earlier heq
    refine h.named (later.map Incident.looped) x ns ids (earlier.map Incident.looped) ?_
    rw [Life.looped, Moment.looped, heq, List.map_append, List.map_cons]
    rfl
  case dropped =>
    intro hkills
    obtain ⟨hnone, hrequests, hcleanups⟩ := h.dropped hkills
    exact ⟨(Moment.looped_attempts _).symm.trans hnone,
      (Moment.looped_killRequests _).symm.trans hrequests, hcleanups⟩
  case kept =>
    intro hopen hpending
    obtain ⟨hsources, hconnections⟩ :=
      h.kept hopen (hpending.imp_left fun hne => by simpa [Life.looped] using hne)
    exact ⟨fun s => (Moment.looped_sourceReleases _ s).symm.trans (hsources s),
      fun hsome id => (Moment.looped_releases _ id).symm.trans (hconnections hsome id)⟩
  case released =>
    intro hrest hnone
    have hreleased := h.released (by simp [Life.looped, hrest]) hnone
    refine ⟨fun s => ?_, fun hsome id => ?_, fun hnone id => ?_⟩
    · rw [← Moment.looped_sourceReleases]
      exact hreleased.sources s
    · rw [← Moment.looped_leases, ← Moment.looped_releases]
      exact hreleased.given hsome id
    · rw [← Moment.looped_releases, ← Moment.looped_leases]
      exact hreleased.leased hnone id

/-! ## Without a kill -/

/-- Whether an incident is part of an exchange. -/
def Incident.isExchange : Incident → Bool
  | .asked _ => true
  | .answered _ _ _ => true
  | _ => false

/-- A cursor that was made off the loop and has left out the kill that its first batch calls for. -/
structure Forgone (l : Life) : Prop where
  threads : l.threads = []
  cleanups : l.moment.cursor.cleanups = []
  serverCursor : l.moment.cursor.progress.serverCursor = none
  quiet : ∀ i ∈ l.moment.history, i.isExchange = false

/-- What is over without an exchange leaves such a cursor as it is. -/
theorem forgone_proceed {o : Outcome Yield} {ns : List Notice} (hc : m'.cursor.cleanups = [])
    (hs : m'.cursor.progress.serverCursor = none)
    (hhistory : m'.history = ns.map .noticed ++ m.history)
    (hquiet : ∀ i ∈ m.history, i.isExchange = false) :
    Forgone ⟨m'.record (.ended a o), []⟩ where
  threads := rfl
  cleanups := hc
  serverCursor := hs
  quiet i hi := by
    rw [Moment.record_history, hhistory] at hi
    obtain rfl | hi := List.mem_cons.1 hi
    · rfl
    obtain hi | hi := List.mem_append.1 hi
    · obtain ⟨n, -, rfl⟩ := List.mem_map.1 hi
      rfl
    · exact hquiet i hi

theorem forgone_opening (hc : ofPlan .async plan = .ok c) (hearly : plan.stopsEarly) :
    Forgone (Life.opening c plan.first false) := by
  have hmode := (planned_of_ofPlan hc).mode
  obtain ⟨o, m', ⟨⟨-, rfl⟩, ns, hhistory⟩, heq⟩ := proceed_of_silent
    (.opening plan.first false) [] (silent_notices (silent_yield
      (silent_start (m := ⟨c, [.begun (.opening plan.first false)]⟩) plan.first false
        (.inl hmode))))
  have hstarted : (⟨c, [.begun (.opening plan.first false)]⟩ : Moment).started plan.first false
      = ((⟨c, [.begun (.opening plan.first false)]⟩ : Moment).absorbed plan.first).dismissed
        false := by
    rw [Moment.started, (followUp_of_ofPlan hc _).2 hearly]
  rw [hstarted] at heq hhistory
  rw [show Life.opening c plan.first false = _ from heq]
  refine forgone_proceed ?_ (Moment.dismissed_serverCursor _ _) hhistory fun i hi => ?_
  · rw [Moment.dismissed_cleanups]
    exact (intact_of_ofPlan hc).unscheduled
  · rw [List.mem_singleton.1 hi]
    rfl

theorem Forgone.turn (h : Forgone l) (hturn : l.Turn l') : Forgone l' := by
  obtain ⟨a, ha, rfl⟩ := hturn.of_rests h.threads h.cleanups
  obtain ⟨o, m', ⟨htakes, ns, hhistory⟩, heq⟩ := proceed_of_silent a l.threads
    (silent_notices (silent_program_of_none (m := l.moment.record (.begun a)) h.serverCursor ha))
  rw [Life.begin, heq, h.threads]
  refine forgone_proceed (htakes.cleanups.trans h.cleanups)
    (htakes.serverCursor.trans h.serverCursor) hhistory fun i hi => ?_
  obtain rfl | hi := List.mem_cons.1 hi
  · rfl
  · exact h.quiet i hi

theorem forgone_of_takesTurns (hc : ofPlan .async plan = .ok c) (hearly : plan.stopsEarly)
    (hl : (Life.opening c plan.first false).TakesTurns l) : Forgone l := by
  induction hl with
  | refl => exact forgone_opening hc hearly
  | tail _ hturn ih => exact ih.turn hturn

namespace Forgone

/-- Nothing is asked, so no kill is requested. -/
theorem not_requestsKill (h : Forgone l) {i : Incident} (hi : i ∈ l.moment.history) :
    ¬ i.requestsKill := by
  have hquiet := h.quiet i hi
  cases i <;> simp_all [Incident.isExchange, Incident.requestsKill]

theorem killRequests (h : Forgone l) : l.moment.killRequests = 0 :=
  List.countP_eq_zero.2 fun _ hi => h.not_requestsKill hi

theorem attempts (h : Forgone l) (hc : ofPlan .async plan = .ok c) (hearly : plan.stopsEarly)
    (hl : Life.Reaches anyOrder (Life.opening c plan.first loopRuns) l) :
    l.moment.attempts = 0 := by
  have hplanned := planned_of_ofPlan hc
  have hsource : c.setup.source.isSome := (congrArg Option.isSome hplanned.source).trans
    (isSome_source_of_ofPlan hc (Bool.and_eq_true_iff.1 hearly).1)
  by_contra hne
  obtain ⟨later, i, earlier, heq, hi | hi, -⟩ := exists_of_attempts_of_source hsource
    (fun hmode => absurd (hplanned.mode.symm.trans hmode) (by decide)) hl h.threads
    (Nat.pos_of_ne_zero hne)
  · exact h.not_requestsKill (by simp [heq]) hi
  · obtain ⟨j, hj, hrefuses⟩ := exists_of_abandons hi
    have hquiet := h.quiet j (by simp [heq, hj])
    cases j <;> simp_all [Incident.isExchange, Incident.refuses]

theorem released (h : Forgone l) (hc : ofPlan .async plan = .ok c)
    (hl : Life.Reaches anyOrder (Life.opening c plan.first loopRuns) l) :
    Released plan l.moment := by
  have hr : ¬ l.Retrieves := by simp [Life.Retrieves, h.threads]
  have hu : ¬ l.Unfinished := by simp [Life.Unfinished, h.threads, h.cleanups]
  refine released_of_provident hc hl h.threads
    ((released_iff_not_stranded hc hl hr hu h.serverCursor).2 fun hstranded => ?_)
  obtain ⟨i, hi, hcancels⟩ := List.any_eq_true.1 hstranded.2.2
  have hquiet := h.quiet i hi
  cases i <;> simp_all [Incident.isExchange, Incident.cancelsKill]

end Forgone

/-! ## Finality -/

/-- Whether the kill that its first batch calls for is left out when a cursor is made. -/
def Plan.forgoesKill (plan : Plan) (mode : Mode) (loopRuns : Bool) : Bool :=
  mode == .async && !loopRuns && plan.stopsEarly

theorem lastBatch_forgone (hc : ofPlan .async plan = .ok c) (hearly : plan.stopsEarly)
    (hfinal : Final plan c false result base l₁) (hl : l₁.TakesTurns l) :
    ∃ since, l.moment.history = since ++ base ∧ LastBatch plan result false since l := by
  have hforgone : ∀ {b : Life}, (Life.opening c plan.first false).TakesTurns b → Forgone b :=
    forgone_of_takesTurns hc hearly
  have hall := hfinal.takesTurns.trans hl
  have h := hforgone hall
  have hafter := hfinal.afterwards hc hl fun b hb _ =>
    (hforgone (hfinal.takesTurns.trans hb)).serverCursor
  have hlast : (handedOut base).flatten ++ result.results
      = plan.first.results ++ arrivals base := by
    cases hfinal with
    | first _ => exact (List.append_nil _).symm
    | fetched hbefore _ _ _ _ =>
      have hnone := (hforgone hbefore).threads
      simp at hnone
  obtain ⟨since, hsince, hbatch⟩ := hafter.batch (books_of_takesTurns hc hall) hlast
  refine ⟨since, hsince.history, ?_⟩
  constructor
  case quiet => exact hsince.quiet
  case batch => exact hbatch
  case ready => exact fun _ hopen hne => ready_of_atHand hopen hbatch hne
  case killed => exact nofun
  case named =>
    intro later x ns ids earlier heq
    have hquiet := h.quiet (.asked (.killCursors x ns ids)) (by simp [heq])
    simp [Incident.isExchange] at hquiet
  case dropped =>
    exact fun _ => ⟨h.attempts hc hearly (Life.TakesTurns.reaches hall), h.killRequests, h.cleanups⟩
  case kept => exact fun _ hpending => by simp [h.threads, h.cleanups] at hpending
  case released => exact fun _ _ => h.released hc (Life.TakesTurns.reaches hall)

/-- **Negative limits and batch sizes are final.** -/
theorem lastBatch_of_takesTurns (hc : ofPlan mode plan = .ok c)
    (hfinal : Final plan c loopRuns result base l₁) (hl : l₁.TakesTurns l)
    (hcalm : ∀ i ∈ l.moment.history, i.cutShort = false) :
    ∃ since, l.moment.history = since ++ base ∧ LastBatch plan result
      (callsForKill plan.limit l.moment.cursor.progress.delivered result &&
        !plan.forgoesKill mode loopRuns) since l := by
  rcases hforgoes : plan.forgoesKill mode loopRuns with _ | _
  · have hheedless : mode = .blocking ∨ loopRuns = true ∨ plan.stopsEarly = false := by
      cases mode <;> cases loopRuns <;> simp_all [Plan.forgoesKill]
    have hlooped := hfinal.looped hc hheedless
    have hs : l₁.moment.cursor.progress.serverCursor = none := by
      refine (hlooped.ending hc .refl fun i hi => ?_).serverCursor
      obtain ⟨j, hj, rfl⟩ := List.mem_map.1 hi
      exact Incident.regular_looped (hcalm j (hl.suffix.subset hj))
    have htakes := looped_of_takesTurns hc hfinal.takesTurns hl (.inr hs)
    obtain ⟨_, hhistory, hlast⟩ := lastBatch_onLoop hc hlooped htakes fun i hi => by
      obtain ⟨j, hj, rfl⟩ := List.mem_map.1 hi
      exact Incident.regular_looped (hcalm j hj)
    obtain ⟨since, heq⟩ := hfinal.suffix.trans hl.suffix
    refine ⟨since, heq.symm, ?_⟩
    rw [Life.looped, Moment.looped, ← heq, List.map_append, List.append_cancel_right_eq] at hhistory
    rw [Bool.not_false, Bool.and_true]
    exact (hhistory ▸ hlast).of_looped
  · rw [Bool.not_true, Bool.and_false]
    simp only [Plan.forgoesKill, Bool.and_eq_true, beq_iff_eq, Bool.not_eq_true'] at hforgoes
    obtain ⟨⟨rfl, rfl⟩, hearly⟩ := hforgoes
    exact lastBatch_forgone hc hearly hfinal hl

/-- A cursor with a negative limit, which kills its server cursor when it is made. -/
def madeLimited : Life :=
  ((Life.opening (sample .blocking (-1)) (Plan.sample (-1)).first true).respond obliging).respond
    obliging

/-- A cursor that waits for a batch while its batch size is negative. -/
def askingLast : Life :=
  ((((Life.opening (sample .blocking 0) (Plan.sample 0).first true).begin (.next 2)).begin
    (.setBatchSize (-1))).begin (.hasNext 2)).respond lively

/-- The same cursor: the batch has come, its server cursor alive; then the batch size was made
    positive, and the batch was taken. -/
def askedLast : Life := ((askingLast.respond lively).begin (.setBatchSize 5)).begin (.next 2)

theorem takesTurns_askingLast :
    (Life.opening (sample .blocking 0) (Plan.sample 0).first true).TakesTurns askingLast := by
  let opened := Life.opening (sample .blocking 0) (Plan.sample 0).first true
  have hopened : opened.TakesTurns opened := .refl
  have hread := hopened.begin (a := .next 2) (by decide +kernel) rfl
  have hsized := hread.begin (a := .setBatchSize (-1)) (by decide +kernel) rfl
  exact (hsized.begin (a := .hasNext 2) (by decide +kernel) rfl).respond lively

/-- So it is with a first batch that reaches a negative limit, and with a batch that is fetched
    while the batch size is negative. -/
theorem lastBatch_madeLimited_askedLast :
    (∃ since, madeLimited.moment.history = since ++ [] ∧
      LastBatch (.sample (-1)) (Plan.sample (-1)).first true since madeLimited) ∧
    ∃ since q x, askedLast.moment.history
        = since ++ .answered q x true :: askingLast.moment.history ∧
      LastBatch (.sample 0) ⟨(Plan.sample 0).first.ns, [.int 2], 7, {}⟩ false since askedLast := by
  have hcalm : ∀ i ∈ madeLimited.moment.history, i.cutShort = false := by decide +kernel
  have hcalm' : ∀ i ∈ askedLast.moment.history, i.cutShort = false := by decide +kernel
  have hfinal : Final (.sample 0) (sample .blocking 0) true
      ⟨(Plan.sample 0).first.ns, [.int 2], 7, {}⟩ _ (askingLast.respond lively) :=
    @Final.fetched _ _ _ _ [] [] _ _ _ _ _ _ takesTurns_askingLast rfl rfl rfl
      (by decide +kernel)
  have hlater : (askingLast.respond lively).TakesTurns (askingLast.respond lively) := .refl
  have hsized := hlater.begin (a := .setBatchSize 5) (by decide +kernel) rfl
  have htaken := hsized.begin (a := .next 2) (by decide +kernel) rfl
  refine ⟨lastBatch_of_takesTurns (ofPlan_sample .blocking (-1)) (.first rfl)
    (.respond (.respond .refl obliging) obliging) hcalm, ?_⟩
  obtain ⟨since, heq, hlast⟩ :=
    lastBatch_of_takesTurns (ofPlan_sample .blocking 0) hfinal htaken hcalm'
  exact ⟨since, _, _, heq, hlast⟩

/-- The same cursor in its other flavour, made where no loop runs. -/
def madeOffLoop : Life := Life.opening (sample .async (-1)) (Plan.sample (-1)).first false

/-- It has reached its limit with a server cursor alive, and kills nothing. -/
theorem not_lastBatch_madeOffLoop :
    Final (.sample (-1)) (sample .async (-1)) false (Plan.sample (-1)).first [] madeOffLoop ∧
      callsForKill (-1) madeOffLoop.moment.cursor.progress.delivered (Plan.sample (-1)).first ∧
      ¬ ∃ since, madeOffLoop.moment.history = since ++ [] ∧
        LastBatch (.sample (-1)) (Plan.sample (-1)).first true since madeOffLoop := by
  refine ⟨.first rfl, rfl, ?_⟩
  rintro ⟨since, -, h⟩
  exact absurd (h.killed rfl rfl rfl).1 (by decide +kernel)

end DocumentClient.Cursor
