/-
  The order in which an aggregation releases its resources.

  An aggregation releases its connection before its source, and so does the cursor that it
  makes; but the cursor is made while the connection is still leased.  Where the batch size is
  negative the first batch is the last, so that a cursor with a server cursor is done with the
  source at once, and releases it too early (`DropsAtOnce`).

  `releasesInOrder_iff`: that is the one case in which the order of release is broken, during
  the aggregation or later, where the calls of the cursor take turns.
-/
import DocumentClient.Proofs.Aggregation.Handover
import DocumentClient.Proofs.Cursor.ReleaseOrder

namespace DocumentClient

open Cursor Program

/-! ## Histories of the making -/

namespace Records

variable {b : Holdings} {h : List Incident}

/-- Where no source was released, nothing was out of order. -/
theorem inOrder (hb : Records b h) (hnone : b.source = none) : InOrder h :=
  inOrder_of_countP fun s => by simp [hb.source, hnone]

/-- What was leased is back. -/
theorem allBack (hb : Records b h) (hback : b.connection = b.leased) : AllBack h := fun id => by
  rw [hb.connection, hb.leased, hback]

end Records

section
variable {m : Moment} {first : QueryResult} {loopRuns : Bool}

/-- The making of a cursor without a limit leaves notices only. -/
theorem exists_started_history (hlimit : m.cursor.limit = 0) : ∃ ns : List Notice,
    (m.started first loopRuns).history = ns.map .noticed ++ m.history := by
  have habsorbed : ∃ ns : List Notice, (m.absorbed first).history = ns.map .noticed ++ m.history :=
    ⟨_, rfl⟩
  obtain ⟨ns, hns⟩ := habsorbed
  rw [started_eq hlimit]
  split
  · unfold Moment.settled
    split
    · exact ⟨ns, hns⟩
    · refine ⟨(dues (m.absorbed first).cursor).reverse ++ ns, ?_⟩
      rw [List.map_append, List.append_assoc, ← hns]
  · exact ⟨ns, hns⟩

/-- It touches neither the connection nor the schedule. -/
theorem started_core (first : QueryResult) (loopRuns : Bool) (hlimit : m.cursor.limit = 0) :
    (m.started first loopRuns).cursor.connection = m.cursor.connection ∧
      (m.started first loopRuns).cursor.cleanups = m.cursor.cleanups := by
  rw [started_eq hlimit]
  split
  · rw [Moment.settled_cursor]
    exact ⟨rfl, rfl⟩
  · exact ⟨rfl, rfl⟩

/-- A server cursor that is alive is dropped exactly if the batch size is negative. -/
theorem started_serverCursor_eq_none_iff (hlimit : m.cursor.limit = 0) (hs : first.cursor.isSome) :
    (m.started first loopRuns).cursor.progress.serverCursor = none ↔ m.cursor.batchSize < 0 := by
  have hfate := Progress.advance_fate m.cursor.progress m.cursor.limit m.cursor.batchSize first
  have habsorbed : (m.started first loopRuns).cursor.progress.serverCursor
      = (m.cursor.progress.advance m.cursor.limit m.cursor.batchSize first).1.serverCursor := by
    rw [started_eq hlimit]
    split
    · rw [Moment.settled_serverCursor]
      rfl
    · rfl
  rw [habsorbed]
  generalize m.cursor.progress.advance m.cursor.limit m.cursor.batchSize first = after at hfate ⊢
  obtain ⟨p, v⟩ := after
  cases hfate with
  | ended hnone _ => simp [hnone] at hs
  | limitReached _ hl => simp [hlimit, DocumentClient.limitReached] at hl
  | dropped _ _ hfinal hnone =>
    have hnone' : p.serverCursor = none := hnone
    simpa [isFinalBatch, hlimit, hnone'] using hfinal
  | kept _ _ hfinal hkept =>
    have hkept' : p.serverCursor = some _ := hkept
    simpa [isFinalBatch, hlimit, hkept'] using hfinal

end

namespace Made

variable {mode : Mode} {source : Source} {b : Holdings} {made : Cursor × Bool}
  {h past : List Incident} {plan : Plan} {c : Cursor}

theorem cursor_eq (hm : Made mode source b made h plan c past) :
    made.1 = ((⟨c, past⟩ : Moment).started plan.first true).cursor :=
  congrArg Moment.cursor hm.started

/-- Its cursor has no connection, and no kill is scheduled. -/
theorem core (hm : Made mode source b made h plan c past) :
    made.1.connection = none ∧ made.1.cleanups = [] := by
  obtain ⟨hlimit, -, hconnection, -⟩ := hm.fresh
  obtain ⟨hconnection', hcleanups⟩ := started_core (m := ⟨c, past⟩) plan.first true hlimit
  rw [hm.cursor_eq]
  refine ⟨hconnection'.trans hconnection, hcleanups.trans ?_⟩
  obtain ⟨settings, rfl⟩ := exists_of_ofPlan hm.ofPlan
  rfl

/-- It drops a server cursor that is alive exactly if the batch size is negative. -/
theorem drops_iff (hm : Made mode source b made h plan c past) (hs : plan.first.cursor.isSome) :
    made.1.progress.serverCursor = none ↔ plan.batchSize < 0 := by
  rw [hm.cursor_eq, started_serverCursor_eq_none_iff (m := ⟨c, past⟩) hm.fresh.1 hs]
  obtain ⟨settings, rfl⟩ := exists_of_ofPlan hm.ofPlan
  exact Iff.rfl

/-- Its history is that of before, and notices. -/
theorem exists_history (hm : Made mode source b made h plan c past) :
    ∃ ns : List Notice, h = ns.map .noticed ++ past := by
  have hhistory : h = ((⟨c, past⟩ : Moment).started plan.first true).history :=
    congrArg Moment.history hm.started
  rw [hhistory]
  exact exists_started_history (m := ⟨c, past⟩) hm.fresh.1

/-- A cursor that drops its server cursor releases the source while the connection is leased. -/
theorem not_inOrder (hm : Made mode source b made h plan c past) (hnone : b.source = none)
    {x : Connection} (hleased : b.leased = some x) (hconnection : b.connection = none)
    (hs : made.1.progress.serverCursor = none) (hopen : made.2 = true) : ¬ InOrder h := by
  intro hin
  have hrecorded := hm.recorded hnone
  obtain ⟨ns, hhistory⟩ := hm.exists_history
  -- the release is one of the notices of the making
  have hreleased : 0 < (ns.map Incident.noticed).countP (Incident.releasesSource source) := by
    have hcount : h.countP (Incident.releasesSource source) = 1 := by
      simpa [hs, hopen] using hrecorded.source source
    have hbefore : past.countP (Incident.releasesSource source) = 0 := by
      simpa [hnone] using hm.records.source source
    rw [hhistory, List.countP_append, hbefore] at hcount
    omega
  obtain ⟨i, hi, hsource⟩ := List.countP_pos_iff.1 hreleased
  obtain ⟨later, between, hsplit⟩ := List.append_of_mem hi
  obtain ⟨n, -, rfl⟩ := List.mem_map.1 hi
  obtain ⟨s, rfl⟩ : ∃ s, n = .releaseSource s := by
    cases n with
    | releaseSource s => exact ⟨s, rfl⟩
    | _ => simp [Incident.releasesSource] at hsource
  -- by then the connection was leased, and it is never released
  have hearlier : h = later ++ .noticed (.releaseSource s) :: (between ++ past) := by
    rw [hhistory, hsplit, List.append_assoc]
    rfl
  have hback := hin later s (between ++ past) hearlier x.id
  have hout : past.countP (Incident.leases x.id) = 1 := by
    simpa [hleased] using hm.records.leased x.id
  have hnever : h.countP (Incident.releases x.id) = 0 := by
    simpa [hconnection] using hrecorded.connection x.id
  rw [hhistory, hsplit] at hnever
  simp only [List.countP_append, List.countP_cons] at hback hnever
  omega

end Made

/-! ## Aggregations -/

namespace Aggregation

variable {a : Aggregation} {mode : Mode} {o : Outcome Cursor} {h : List Incident}

/-- Whenever the source was released, every connection leased from it was back: in an aggregation,
    and in what comes of its cursor where calls take turns. -/
def ReleasesInOrder (o : Outcome Cursor) (h : List Incident) : Prop :=
  InOrder h ∧ ∀ c l, o = .ok c → Life.TakesTurns ⟨⟨c, h⟩, []⟩ l → InOrder l.moment.history

/-- A cursor was made with a negative batch size from a reply that leaves a server cursor: the
    first batch is its last. -/
def DropsAtOnce (a : Aggregation) (o : Outcome Cursor) (h : List Incident) : Prop :=
  (∃ c, o = .ok c) ∧ a.batchSize.getD 0 < 0 ∧ ∃ server reply first,
    latestReply h = some (server, reply) ∧ a.toQueryResult server reply = .ok first ∧
    first.cursor.isSome

theorem latestReply_notices (ns : List Notice) :
    latestReply (ns.map .noticed ++ h) = latestReply h := by
  induction ns with
  | nil => rfl
  | cons n ns ih => exact ih

/-- What a cursor that was made drops at once. -/
theorem Replied.dropsAtOnce_iff {plan : Plan} {past : List Incident} {c : Cursor}
    (hreplied : a.Replied plan past) {ns : List Notice} :
    a.DropsAtOnce (.ok c) (ns.map .noticed ++ past) ↔
      plan.batchSize < 0 ∧ plan.first.cursor.isSome := by
  obtain ⟨server, reply, hlatest, hfirst⟩ := hreplied.reply
  unfold DropsAtOnce
  rw [latestReply_notices, ← hreplied.batchSize]
  constructor
  · rintro ⟨-, hnegative, server', reply', first', hlatest', hfirst', hsome⟩
    obtain ⟨rfl, rfl⟩ : server = server' ∧ reply = reply' := by
      simpa [hlatest] using hlatest'
    rw [hfirst] at hfirst'
    obtain rfl := Except.ok.inj hfirst'
    exact ⟨hnegative, hsome⟩
  · rintro ⟨hnegative, hsome⟩
    exact ⟨⟨c, rfl⟩, hnegative, server, reply, plan.first, hlatest, hfirst, hsome⟩

theorem not_dropsAtOnce_error {e : Failure} : ¬ a.DropsAtOnce (.error e) h := by
  rintro ⟨⟨c, hc⟩, -⟩
  cases hc

/-- Without a cursor, only the aggregation itself counts. -/
theorem releasesInOrder_error {e : Failure} (hin : InOrder h) : ReleasesInOrder (.error e) h :=
  ⟨hin, fun _ _ heq => by cases heq⟩

/-- A cursor without a connection that is made in order keeps the order. -/
theorem releasesInOrder_ok {c : Cursor} (hin : InOrder h) (hback : AllBack h)
    (hcore : c.connection = none ∧ c.cleanups = []) : ReleasesInOrder (.ok c) h := by
  refine ⟨hin, fun c' l heq hl => ?_⟩
  obtain rfl := Except.ok.inj heq
  exact inOrder_of_takesTurns (m := ⟨c, h⟩) ⟨hin, hback, hcore.1, .inl hcore.2⟩ hl

theorem Goes.ordered_iff (hgoes : a.Goes mode o h) :
    ReleasesInOrder o h ↔ ¬ a.DropsAtOnce o h := by
  cases hgoes with
  | unsourced hh =>
    exact iff_of_true (releasesInOrder_error (hh.inOrder rfl)) not_dropsAtOnce_error
  | unconnected hh =>
    exact iff_of_true (releasesInOrder_error ((hh.inOrder rfl).cons fun _ _ => hh.allBack rfl))
      not_dropsAtOnce_error
  | @failed h e source x hh =>
    have hback := hh.releaseConnection rfl x
    refine iff_of_true (releasesInOrder_error ?_) not_dropsAtOnce_error
    exact (hback.inOrder rfl).cons fun _ _ => hback.allBack rfl
  | @handsOver h past c fresh source x plan hmade hreplied =>
    have hsome : plan.first.cursor.isSome := hmade.open_.symm
    obtain ⟨ns, rfl⟩ := hmade.exists_history
    change _ ↔ ¬ a.DropsAtOnce (.ok c) ((Notice.releaseConnection x :: ns).map .noticed ++ past)
    rw [hreplied.dropsAtOnce_iff, ← hmade.drops_iff hsome]
    rcases hs : c.progress.serverCursor with _ | target
    · refine iff_of_false (fun hin => ?_) fun hn => hn ⟨rfl, hsome⟩
      exact hmade.not_inOrder rfl rfl rfl hs rfl (hin.1.of_append [_])
    · have hrecorded := (hmade.recorded rfl).releaseConnection rfl x
      rw [hs] at hrecorded
      exact iff_of_true (releasesInOrder_ok (hrecorded.inOrder rfl) (hrecorded.allBack rfl)
        hmade.core) fun hn => by simp at hn
  | @ends h past c fresh source x plan hmade hreplied =>
    have hnone : ¬ plan.first.cursor.isSome := fun hs => Bool.false_ne_true (hmade.open_.trans hs)
    obtain ⟨ns, rfl⟩ := hmade.exists_history
    change _ ↔ ¬ a.DropsAtOnce (.ok c)
      ((Notice.releaseSource source :: .releaseConnection x :: ns).map .noticed ++ past)
    rw [hreplied.dropsAtOnce_iff]
    have hrecorded := (hmade.recorded rfl).releaseConnection rfl x
    have hin := hrecorded.inOrder (by simp)
    have hback := hrecorded.allBack rfl
    refine iff_of_true (releasesInOrder_ok (hin.cons fun _ _ => hback) ?_ hmade.core)
      fun hn => hnone hn.2
    exact (hrecorded.releaseSource (by simp) source).allBack rfl

/-- **The order of release.**  Whatever the world answers: in an aggregation, and in what comes of
    its cursor where calls take turns, the source is released only when every connection leased from
    it so far was given back, exactly if the aggregation has not made a cursor with a negative batch
    size from a reply that leaves a server cursor. -/
theorem releasesInOrder_iff {ω : Type} {i : Interpreter ω} {preference : ReadPreference}
    {w w' : ω} (hrun : interpret i.recorded (Cell.none _) (a.execute mode preference) (w, [])
      = (o, w', h)) :
    ReleasesInOrder o h ↔ ¬ a.DropsAtOnce o h :=
  (goes_of_execute hrun).ordered_iff

/-! ## The cursor that was closed early, and one that had its last batch at once -/

theorem takesTurns_killed : Life.TakesTurns handed killed := by
  have hrest : ∀ l : Life, l.threads = [] → l.AtRest := fun l hl t ht => by simp [hl] at ht
  have hhanded : Life.TakesTurns handed handed := .refl
  have htaken := hhanded.begin (a := .next 2) (hrest _ (by decide +kernel)) rfl
  have hwaiting := htaken.begin (a := .next 2) (hrest _ (by decide +kernel)) rfl
  have hcancelled := hwaiting.respond fun _ => .error .cancelled
  have hleft : Life.TakesTurns handed left :=
    hcancelled.begin (hrest _ (by decide +kernel)) rfl
  have hscheduled : left.moment.cursor.cleanups = [] ++ sampleTarget :: [] := by decide +kernel
  have hkilling : Life.TakesTurns handed ((left.unscheduled []).begin (.cleanup sampleTarget)) :=
    .tail hleft (.run hscheduled)
  exact (hkilling.respond obliging).respond obliging

/-- The source is released after the kill, and the connections that were leased were back. -/
theorem releasesInOrder_sampleRun : ReleasesInOrder sampleRun.1 sampleRun.2.2 ∧
    Life.TakesTurns handed killed ∧ killed.moment.sourceReleases ⟨0⟩ = 1 ∧
    InOrder killed.moment.history := by
  have horder : ReleasesInOrder sampleRun.1 sampleRun.2.2 :=
    (releasesInOrder_iff (i := replying) (a := sample) (w := ()) rfl).2
      fun hdrops => absurd hdrops.2.1 (by decide)
  exact ⟨horder, takesTurns_killed, by decide +kernel, horder.2 _ _ rfl takesTurns_killed⟩

/-- The run of the aggregation with a negative batch size. -/
def lastBatchRun : Outcome Cursor × Unit × List Incident :=
  interpret replying.recorded (Cell.none _)
    ({ sample with batchSize := some (-1) }.execute .blocking .primary) ((), [])

/-- The cursor is made, and has released the source when the connection is given back. -/
theorem not_releasesInOrder_lastBatchRun : lastBatchRun.1.toOption.isSome ∧
    ¬ ReleasesInOrder lastBatchRun.1 lastBatchRun.2.2 := by
  refine ⟨by decide +kernel, fun horder => ?_⟩
  have hback := horder.1 [_] ⟨0⟩ _ rfl 1
  revert hback
  decide +kernel

end Aggregation

end DocumentClient
