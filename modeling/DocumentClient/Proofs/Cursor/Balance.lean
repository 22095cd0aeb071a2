/-
  The resources of an asynchronous cursor, under any schedule.

  Activities go on in any order, retrievals are cancelled at any exchange, and the cursor
  may be made and closed on a running loop or not.  No handle is released twice, and none
  that is borrowed.  `balanced_of_reaches`: once the cursor is closed, and the scheduled
  kills were awaited, all has been released.  Without a loop closing releases at once, but
  does not see to a kill that was scheduled before.

  `released_iff_of_spent`: without a server cursor all has been released without closing,
  unless the cursor is stranded.
-/
import DocumentClient.Proofs.Cursor.Failures
import DocumentClient.Proofs.Cursor.Upkeep

namespace DocumentClient.Cursor

/-! ## Rest -/

namespace Life

/-- A retrieval is in flight. -/
def Retrieves (l : Life) : Prop := ∃ t ∈ l.threads, t.activity.isRetrieval

/-- The kills that were scheduled in one life have ended in a later one. -/
def Awaited (r : Regime) (l l' : Life) : Prop :=
  Reaches r l l' ∧ l.moment.scheduled ≤ l'.moment.ended Activity.isCleanup

theorem not_unfinished {l : Life} (hc : l.Counted Activity.isCleanup)
    (h : l.moment.unfinished ≤ 0) : ¬ l.Unfinished := by
  intro hu
  have := unfinished_pos hc hu
  omega

theorem unfinished_eq_zero {l : Life} (hc : l.Counted Activity.isCleanup) (h : ¬ l.Unfinished) :
    l.moment.unfinished = 0 := by
  simp only [Unfinished, not_or, not_not, not_exists, not_and] at h
  have hthreads : l.threads.countP (·.activity.isCleanup) = 0 :=
    List.countP_eq_zero.2 h.2
  have hcounted : l.moment.begun Activity.isCleanup
      = l.moment.ended Activity.isCleanup + l.threads.countP (·.activity.isCleanup) := hc
  rw [Moment.unfinished, h.1]
  simp only [List.length_nil]
  omega

end Life

section
variable {plan : Plan} {c : Cursor} {loopRuns : Bool} {l l' : Life}

/-- Activities go on in any order, and anything may be called and answered. -/
abbrev anyOrder : Regime := ⟨false, fun _ => True, fun _ _ => True⟩

/-- Whatever may happen may happen in a wider regime. -/
theorem Life.Reaches.mono {r r' : Regime} (hnested : r'.nested → r.nested)
    (hoffers : ∀ a, r.offers a → r'.offers a) (hadmits : ∀ q x, r.admits q x → r'.admits q x)
    (h : Life.Reaches r l l') : Life.Reaches r' l l' := by
  induction h with
  | refl => exact .refl
  | tail _ hstep ih =>
    refine ih.tail ?_
    cases hstep with
    | call hcall =>
      refine .call ⟨hoffers _ hcall.offered, hcall.operation, hcall.made, fun ha => ?_⟩
      have hsingle := hcall.single ha
      split
      · rename_i hr'
        rwa [if_pos (hnested hr')] at hsingle
      · split at hsingle
        · simp [hsingle]
        · exact hsingle
    | run hcleanups => exact .run hcleanups
    | resume order hx => exact .resume (fun hr' => order (hnested hr')) (hadmits _ _ hx)

/-- Whatever a regime admits may happen in any order. -/
theorem reaches_anyOrder {r : Regime} (h : Life.Reaches r l l') : Life.Reaches anyOrder l l' :=
  h.mono nofun (fun _ _ => trivial) fun _ _ _ => trivial

theorem provident_of_reaches (hc : ofPlan .async plan = .ok c)
    (hl : Life.Reaches anyOrder (Life.opening c plan.first loopRuns) l) :
    Provident plan l.moment :=
  (sound_provision plan).invariant_of_reaches hl (orderly_provident hc loopRuns)

theorem lasts_of_reaches (hc : ofPlan .async plan = .ok c)
    (hl : Life.Reaches anyOrder (Life.opening c plan.first loopRuns) l)
    (hl' : Life.Reaches anyOrder l l') : Lasts l.moment l'.moment :=
  (sound_provision plan).respects_of_reaches hl'
    ((sound_provision plan).orderly_of_reaches hl (orderly_provident hc loopRuns))

/-- Where no retrieval is in flight and no kill unfinished, nothing waits. -/
theorem threads_eq_nil (hc : ofPlan .async plan = .ok c)
    (hl : Life.Reaches anyOrder (Life.opening c plan.first loopRuns) l) (hr : ¬ l.Retrieves)
    (hu : ¬ l.Unfinished) : l.threads = [] := by
  have hmode := (planned_of_ofPlan hc).mode
  refine List.eq_nil_iff_forall_not_mem.2 fun t ht => ?_
  rcases waits_of_reaches hmode hl t ht with hretrieval | hcleanup
  · exact hr ⟨t, ht, hretrieval⟩
  · exact hu (.inr ⟨t, ht, hcleanup⟩)

/-- Once it has released its resources, a cursor at rest owes nothing. -/
theorem released_of_provident (hc : ofPlan .async plan = .ok c)
    (hl : Life.Reaches anyOrder (Life.opening c plan.first loopRuns) l) (hrest : l.threads = [])
    (hreleased : l.moment.cursor.released = true) : Released plan l.moment := by
  have hprovident := provident_of_reaches hc hl
  have hloans := loans_of_reaches hl hrest
  rw [(planned_of_ofPlan hc).connection] at hloans
  refine ⟨fun s => ?_, fun hsome id => ⟨(hloans id).2 hsome, ?_⟩,
    fun hnone id => (hloans id).1 hnone⟩
  · rw [hprovident.sources s, Moment.sourceDue, hreleased, hprovident.source, Bool.true_and]
  · rw [hprovident.given hsome id, Moment.due, hreleased, hprovident.connection, Bool.true_and]

/-! ## Closing -/

theorem Moment.dismissed_closed (loopRuns : Bool) (m : Moment) :
    (m.dismissed loopRuns).cursor.closed = m.cursor.closed := by
  unfold dismissed
  split
  · rw [settled_cursor]
  · split
    · rfl
    · rw [settled_cursor]; rfl

theorem Moment.dismissed_cleanups (m : Moment) :
    (m.dismissed false).cursor.cleanups = m.cursor.cleanups := by
  unfold dismissed
  split
  · rw [settled_cursor]
  · rw [if_neg Bool.false_ne_true, settled_cursor]; rfl

theorem Moment.shutBy_closed (loopRuns : Bool) (m : Moment) :
    (m.shutBy loopRuns).cursor.closed = true := by
  unfold shutBy
  split
  · rename_i hc
    exact hc
  · rw [dismissed_closed]; rfl

theorem Moment.shutBy_cleanups (m : Moment) :
    (m.shutBy false).cursor.cleanups = m.cursor.cleanups := by
  unfold shutBy
  split
  · rfl
  · rw [dismissed_cleanups]; rfl

/-- Closing may be called at any time. -/
theorem mayCall_close (hc : ofPlan .async plan = .ok c)
    (hl : Life.Reaches anyOrder (Life.opening c plan.first loopRuns) l) (running : Bool) :
    Life.MayCall anyOrder (.close running) l := by
  have hmode := (planned_of_ofPlan hc).mode
  refine ⟨trivial, rfl, fun t ht => ?_, nofun⟩
  have hwaits := waits_of_reaches hmode hl t ht
  unfold Thread.Waits at hwaits
  cases ha : t.activity with
  | opening first loopRuns => simp [ha, Activity.isRetrieval, Activity.isCleanup] at hwaits
  | _ => rfl

/-- A cursor is closed by the call, and stays closed. -/
theorem closed_of_close (hc : ofPlan .async plan = .ok c)
    (hl : Life.Reaches anyOrder (Life.opening c plan.first loopRuns) l) {running : Bool}
    (hl' : Life.Reaches anyOrder (l.begin (.close running)) l') : l'.moment.cursor.closed := by
  have hclosing := hl.begin (mayCall_close hc hl running)
  refine (lasts_of_reaches hc hclosing hl').closed ?_
  rw [begin_close (provident_of_reaches hc hl).async]
  exact Moment.shutBy_closed _ _

/-- A cursor that was closed is at rest once the scheduled kills were awaited. -/
theorem released_of_awaited (hc : ofPlan .async plan = .ok c)
    (hl : Life.Reaches anyOrder (Life.opening c plan.first loopRuns) l)
    (hclosed : l.moment.cursor.closed) (hl' : Life.Awaited anyOrder l l') (hr : ¬ l'.Retrieves) :
    Released plan l'.moment ∧ ¬ l'.Unfinished := by
  obtain ⟨hreaches, hended⟩ := hl'
  have hall := hl.trans hreaches
  have hprovident := provident_of_reaches hc hall
  have hlasts := lasts_of_reaches hc hl hreaches
  have hidle : l'.moment.unfinished ≤ 0 := by
    obtain ⟨-, hscheduled⟩ := hlasts.idle ((provident_of_reaches hc hl).shut hclosed)
    rw [Moment.unfinished_eq, hscheduled]
    omega
  have hu := Life.not_unfinished (Life.counted_of_reaches hall) hidle
  have hreleased : l'.moment.cursor.released = true :=
    (hprovident.paid (hlasts.closed hclosed)).resolve_right (by omega)
  exact ⟨released_of_provident hc hall (threads_eq_nil hc hall hr hu) hreleased, hu⟩

/-- Where no kill is unfinished, closing without a loop brings a cursor to rest at once. -/
theorem released_of_close (hc : ofPlan .async plan = .ok c)
    (hl : Life.Reaches anyOrder (Life.opening c plan.first loopRuns) l) (hr : ¬ l.Retrieves)
    (hu : ¬ l.Unfinished) : Released plan (l.begin (.close false)).moment ∧
      ¬ (l.begin (.close false)).Unfinished := by
  have hclosing := hl.begin (mayCall_close hc hl false)
  have hclosed : (l.begin (.close false)).moment.cursor.closed := closed_of_close hc hl .refl
  have hrest := threads_eq_nil hc hl hr hu
  have hu' : ¬ (l.begin (.close false)).Unfinished := by
    simp only [Life.Unfinished, not_or, not_not] at hu ⊢
    rw [begin_close (provident_of_reaches hc hl).async, hrest]
    exact ⟨(Moment.shutBy_cleanups _).trans hu.1, by simp⟩
  have hr' : ¬ (l.begin (.close false)).Retrieves := by
    rw [Life.Retrieves, begin_close (provident_of_reaches hc hl).async, hrest]
    simp
  have hidle := Life.unfinished_eq_zero (Life.counted_of_reaches hclosing) hu'
  have hreleased : (l.begin (.close false)).moment.cursor.released = true :=
    ((provident_of_reaches hc hclosing).paid hclosed).resolve_right (by omega)
  exact ⟨released_of_provident hc hclosing (threads_eq_nil hc hclosing hr' hu') hreleased, hu'⟩

/-- **The balance of an asynchronous cursor.** Whatever is called, answered, cancelled and run in
    between: what is owned was released at most once, and what is borrowed never.  After a call of
    `close` the cursor stays closed; once it is, and the kills scheduled until then were awaited,
    with no retrieval in flight everything was released exactly once and no kill is unfinished.
    Without a running loop that holds right after `close`, where no kill was unfinished before. -/
theorem balanced_of_reaches (hc : ofPlan .async plan = .ok c)
    (hl : Life.Reaches anyOrder (Life.opening c plan.first loopRuns) l) :
    (∀ s, l.moment.sourceReleases s ≤ if owns (· == s) plan.source then 1 else 0) ∧
    (plan.connection.isSome → ∀ id,
      l.moment.releases id ≤ if owns (·.id == id) plan.connection then 1 else 0) ∧
    (∀ running l', Life.Reaches anyOrder (l.begin (.close running)) l' →
      l'.moment.cursor.closed) ∧
    (l.moment.cursor.closed → ∀ l', Life.Awaited anyOrder l l' → ¬ l'.Retrieves →
      Released plan l'.moment ∧ ¬ l'.Unfinished) ∧
    (¬ l.Retrieves → ¬ l.Unfinished →
      Released plan (l.begin (.close false)).moment ∧ ¬ (l.begin (.close false)).Unfinished) := by
  have hprovident := provident_of_reaches hc hl
  refine ⟨fun s => ?_, fun hsome id => ?_, fun _ _ => closed_of_close hc hl,
    fun hclosed _ => released_of_awaited hc hl hclosed, released_of_close hc hl⟩
  · rw [hprovident.sources s, Moment.sourceDue, hprovident.source]
    rcases l.moment.cursor.released with _ | _ <;> simp
  · rw [hprovident.given hsome id, Moment.due, hprovident.connection]
    rcases l.moment.cursor.released with _ | _ <;> simp

end

/-! ## A cursor that is closed -/

/-- A cursor of the sample plan: a retrieval was cancelled while it waited for its connection, and
    the cursor was closed on the loop. -/
def closedWaiting : Life :=
  let opened := Life.opening (sample .async 0) (Plan.sample 0).first true
  let waiting := (opened.begin (.next 2)).begin (.next 2)
  (waiting.respond fun _ => .error .cancelled).begin (.close true)

/-- The server cursor of the sample plan. -/
def sampleTarget : ServerCursor := ⟨7, {}, by decide⟩

/-- The same after its kill. -/
def closedKilled : Life :=
  (((closedWaiting.unscheduled []).begin (.cleanup sampleTarget)).respond obliging).respond obliging

theorem reaches_closedWaiting : Life.Reaches anyOrder
    (Life.opening (sample .async 0) (Plan.sample 0).first true) closedWaiting := by
  let opened := Life.opening (sample .async 0) (Plan.sample 0).first true
  have hopened : Life.Reaches anyOrder opened opened := .refl
  have htaken := hopened.begin (a := .next 2)
    ⟨trivial, rfl, by decide +kernel, fun _ => by decide +kernel⟩
  have hwaiting := htaken.begin (a := .next 2)
    ⟨trivial, rfl, by decide +kernel, fun _ => by decide +kernel⟩
  have hcancelled := hwaiting.respond (fun _ => .error .cancelled) fun _ => trivial
  exact hcancelled.begin ⟨trivial, rfl, by decide +kernel, fun _ => by decide +kernel⟩

theorem awaited_closedKilled : Life.Awaited anyOrder closedWaiting closedKilled := by
  have hscheduled : closedWaiting.moment.cursor.cleanups = [] ++ sampleTarget :: [] := by
    decide +kernel
  have hkilling : Life.Reaches anyOrder closedWaiting
      ((closedWaiting.unscheduled []).begin (.cleanup sampleTarget)) :=
    .tail .refl (.run hscheduled)
  have hover := (hkilling.respond obliging fun _ => trivial).respond obliging fun _ => trivial
  exact ⟨hover, by decide +kernel⟩

theorem balanced_closedKilled : closedWaiting.moment.cursor.closed ∧
    Life.Awaited anyOrder closedWaiting closedKilled ∧ ¬ closedKilled.Retrieves ∧
    Released (Plan.sample 0) closedKilled.moment ∧ ¬ closedKilled.Unfinished ∧
    closedKilled.moment.sourceReleases ⟨0⟩ = 1 := by
  have hclosed : closedWaiting.moment.cursor.closed := by decide +kernel
  have hidle : ¬ closedKilled.Retrieves := by
    have hthreads : closedKilled.threads.any (·.activity.isRetrieval) = false := by decide +kernel
    simpa [Life.Retrieves] using hthreads
  obtain ⟨hreleased, hunfinished⟩ := (balanced_of_reaches (ofPlan_sample _ _)
    reaches_closedWaiting).2.2.2.1 hclosed _ awaited_closedKilled hidle
  exact ⟨hclosed, awaited_closedKilled, hidle, hreleased, hunfinished, by decide +kernel⟩

/-- A cursor that its first batch has stopped on a running loop, closed without one before the kill
    has begun: the kill stays scheduled. -/
theorem unfinished_without_loop :
    ¬ ∀ {plan : Plan} {c : Cursor} {l : Life}, ofPlan .async plan = .ok c →
      Life.Reaches anyOrder (Life.opening c plan.first true) l → ¬ l.Retrieves →
      ¬ (l.begin (.close false)).Unfinished := by
  intro h
  refine h (ofPlan_sample .async 1) .refl ?_ (.inl (by decide +kernel))
  have hthreads : (Life.opening (sample .async 1) (Plan.sample 1).first true).threads.any
      (·.activity.isRetrieval) = false := by decide +kernel
  simpa [Life.Retrieves] using hthreads

/-! ## Without closing -/

section
variable {plan : Plan} {c : Cursor} {loopRuns : Bool} {l : Life}

/-- At rest, a cursor without a server cursor has released its resources, unless it is stranded. -/
theorem released_iff_not_stranded (hc : ofPlan .async plan = .ok c)
    (hl : Life.Reaches anyOrder (Life.opening c plan.first loopRuns) l) (hr : ¬ l.Retrieves)
    (hu : ¬ l.Unfinished) (hs : l.moment.cursor.progress.serverCursor = none) :
    l.moment.cursor.released = true ↔ ¬ Stranded plan l.moment := by
  have hprovident := provident_of_reaches hc hl
  have hidle := Life.unfinished_eq_zero (Life.counted_of_reaches hl) hu
  refine ⟨fun hreleased hstranded => ?_, fun hstranded => ?_⟩
  · have hkept := (hprovident.lost hstranded).1
    simp [hreleased] at hkept
  · have hcounted : l.moment.begun Activity.isRetrieval
        = l.moment.ended Activity.isRetrieval + l.threads.countP (·.activity.isRetrieval) :=
      Life.counted_of_reaches hl
    rw [threads_eq_nil hc hl hr hu, List.countP_nil] at hcounted
    rcases hprovident.backed with hretrieving | hbacked
    · omega
    · exact ((hbacked hs).resolve_right hstranded).resolve_right (by omega)

/-- **When a cursor without a server cursor has released what it owns.** At rest, it has done so
    exactly once, unless it is open and the kill with which a fetch had reached the limit was
    cancelled. -/
theorem released_iff_of_spent (hc : ofPlan .async plan = .ok c)
    (hl : Life.Reaches anyOrder (Life.opening c plan.first loopRuns) l) (hr : ¬ l.Retrieves)
    (hu : ¬ l.Unfinished) (hs : l.moment.cursor.progress.serverCursor = none) :
    (∀ s, plan.source = some ⟨.owned, s⟩ →
      (l.moment.sourceReleases s = 1 ↔ ¬ Stranded plan l.moment)) ∧
    ∀ x, plan.connection = some ⟨.owned, x⟩ →
      (l.moment.releases x.id = 1 ↔ ¬ Stranded plan l.moment) := by
  have hprovident := provident_of_reaches hc hl
  have hreleased := released_iff_not_stranded hc hl hr hu hs
  refine ⟨fun s hsource => ?_, fun x hconnection => ?_⟩
  · rw [hprovident.sources s, Moment.sourceDue, hprovident.source, hsource, ← hreleased]
    rcases l.moment.cursor.released with _ | _ <;> simp [owns]
  · rw [hprovident.given (by simp [hconnection]) x.id, Moment.due, hprovident.connection,
      hconnection, ← hreleased]
    rcases l.moment.cursor.released with _ | _ <;> simp [owns]

end

/-- A cursor of the sample plan without a limit: a retrieval was cancelled while it waited for its
    connection, and the next one has fetched the last batch. -/
def fetchedLast : Life :=
  let opened := Life.opening (sample .async 0) (Plan.sample 0).first true
  let cancelled := ((opened.begin (.next 2)).begin (.next 2)).respond fun _ => .error .cancelled
  ((cancelled.begin (.next 2)).respond obliging).respond obliging

theorem released_iff_fetchedLast : ¬ fetchedLast.Retrieves ∧ ¬ fetchedLast.Unfinished ∧
    fetchedLast.moment.cursor.progress.serverCursor = none ∧
    (fetchedLast.moment.sourceReleases ⟨0⟩ = 1 ↔ ¬ Stranded (Plan.sample 0) fetchedLast.moment) ∧
    fetchedLast.moment.sourceReleases ⟨0⟩ = 1 := by
  let opened := Life.opening (sample .async 0) (Plan.sample 0).first true
  have hopened : Life.Reaches anyOrder opened opened := .refl
  have htaken := hopened.begin (a := .next 2)
    ⟨trivial, rfl, by decide +kernel, fun _ => by decide +kernel⟩
  have hwaiting := htaken.begin (a := .next 2)
    ⟨trivial, rfl, by decide +kernel, fun _ => by decide +kernel⟩
  have hcancelled := hwaiting.respond (fun _ => .error .cancelled) fun _ => trivial
  have hagain := hcancelled.begin (a := .next 2)
    ⟨trivial, rfl, by decide +kernel, fun _ => by decide +kernel⟩
  have hover : Life.Reaches anyOrder opened fetchedLast :=
    (hagain.respond obliging fun _ => trivial).respond obliging fun _ => trivial
  have hthreads : fetchedLast.threads.isEmpty = true := by decide +kernel
  have hrest : fetchedLast.threads = [] := List.isEmpty_iff.1 hthreads
  have hr : ¬ fetchedLast.Retrieves := by simp [Life.Retrieves, hrest]
  have hcleanups : fetchedLast.moment.cursor.cleanups = [] := by decide +kernel
  have hu : ¬ fetchedLast.Unfinished := by simp [Life.Unfinished, hrest, hcleanups]
  have hs : fetchedLast.moment.cursor.progress.serverCursor = none := by decide +kernel
  exact ⟨hr, hu, hs, (released_iff_of_spent (ofPlan_sample _ _) hover hr hu hs).1 ⟨0⟩ rfl,
    by decide +kernel⟩

/-- A retrieval whose fetch has reached the limit is cancelled while it kills the server cursor. -/
def cancelledKilling : Life :=
  let opened := Life.opening (sample .async 2) (Plan.sample 2).first true
  ((((opened.begin (.next 2)).begin (.next 2)).respond lively).respond lively).respond
    fun _ => .error .cancelled

/-- Nothing waits then, no server cursor is held, and the source is not released. -/
theorem unreleased_at_rest :
    ¬ ∀ {plan : Plan} {c : Cursor} {l : Life}, ofPlan .async plan = .ok c →
      Life.Reaches anyOrder (Life.opening c plan.first true) l → ¬ l.Retrieves → ¬ l.Unfinished →
      l.moment.cursor.progress.serverCursor = none →
      ∀ s, plan.source = some ⟨.owned, s⟩ → l.moment.sourceReleases s = 1 := by
  intro h
  let opened := Life.opening (sample .async 2) (Plan.sample 2).first true
  have hopened : Life.Reaches anyOrder opened opened := .refl
  have htaken := hopened.begin (a := .next 2)
    ⟨trivial, rfl, by decide +kernel, fun _ => by decide +kernel⟩
  have hwaiting := htaken.begin (a := .next 2)
    ⟨trivial, rfl, by decide +kernel, fun _ => by decide +kernel⟩
  have hkilling := (hwaiting.respond lively fun _ => trivial).respond lively fun _ => trivial
  have hover : Life.Reaches anyOrder opened cancelledKilling :=
    hkilling.respond (fun _ => .error .cancelled) fun _ => trivial
  have hthreads : cancelledKilling.threads.isEmpty = true := by decide +kernel
  have hrest : cancelledKilling.threads = [] := List.isEmpty_iff.1 hthreads
  have hcleanups : cancelledKilling.moment.cursor.cleanups = [] := by decide +kernel
  have hreleased := h (ofPlan_sample .async 2) hover (by simp [Life.Retrieves, hrest])
    (by simp [Life.Unfinished, hrest, hcleanups]) (by decide +kernel) ⟨0⟩ rfl
  exact absurd hreleased (by decide +kernel)

end DocumentClient.Cursor
