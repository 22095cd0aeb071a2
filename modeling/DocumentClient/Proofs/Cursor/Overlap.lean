/-
  Closing a cursor under a retrieval.

  A cursor may be closed while a retrieval of it waits for an answer.  A retrieval looks
  whether it was, when its fetch has come back and after each pause, but not after the kill
  of a server cursor that it needs no more since the limit is reached.

  `refused_of_reaches`: a retrieval that the cursor is closed under ends with a failure, if it
  had requested no such kill before.  `not_refused_during_kill`: if it had, it may still bring
  its batch.
-/
import DocumentClient.Proofs.Cursor.Calls
import DocumentClient.Proofs.Cursor.Conduct

namespace DocumentClient.Cursor

/-! ## Calm retrievals -/

/-- Whether an answer fails a fetch, or the lease for it. -/
def spoils : (q : Exchange) → Outcome q.Answer → Bool
  | .lease _, .error _ => true
  | .command .., .error _ => true
  | .command connection _ _ _ _ _, .ok reply =>
    !(QueryResult.ofGetMoreReply reply connection.server.address).isOk
  | .getMore .., .error _ => true
  | _, _ => false

/-- Whether nothing fails that a retrieval of a closed cursor may wait for. -/
def Incident.isSmooth : Incident → Bool
  | .answered (.pause _) (.error _) _ => false
  | .answered q x wasOpen => wasOpen || !spoils q x
  | _ => true

/-- Whether an activity has ended with a failure. -/
def Incident.isFailure : Incident → Bool
  | .ended _ (.error _) => true
  | _ => false

/-- Whether an activity interrupts a wait. -/
def Activity.interrupts : Activity → Bool
  | interrupt => true
  | _ => false

/-- Whether no interruption was asked for, and no fetch or pause of the latest retrieval has
    failed. -/
def isCalm (plan : Plan) (history : List Incident) : Bool :=
  history.all (fun i => !i.begins Activity.interrupts) &&
    (ledger plan history).failure.isNone && (sinceCall history).all Incident.isSmooth

section
variable {plan : Plan} {history : List Incident} {e : Failure}

theorem spoils_of_fetchOutcome {target : ServerCursor} {q : Exchange} {x : Outcome q.Answer}
    (h : fetchOutcome target q x = some (.error e)) : spoils q x = true := by
  cases q with
  | lease source =>
    rcases x with e' | connection
    · rfl
    · simp [fetchOutcome, isFetch, refused] at h
  | command connection database command secondaryOk names decode =>
    rcases x with e' | reply
    · rfl
    · have hreply : QueryResult.ofGetMoreReply reply connection.server.address = .error e :=
        Option.some.inj h
      simp [spoils, hreply, Except.isOk, Except.toBool]
  | getMore connection ns cursorId count decode =>
    rcases x with e' | result
    · rfl
    · have hbatch : (.ok result : Outcome QueryResult) = .error e := Option.some.inj h
      cases hbatch
  | _ => simp [fetchOutcome, isFetch, refused] at h

/-- In a calm retrieval only the closing of the cursor is to blame. -/
theorem Blamed.of_isCalm (h : Blamed plan history e) (hcalm : isCalm plan history) :
    ∃ found, e = .cursorClosed found := by
  simp only [isCalm, Bool.and_eq_true, List.all_eq_true, Option.isNone_iff_eq_none] at hcalm
  obtain ⟨⟨huninterrupted, hclear⟩, hsmooth⟩ := hcalm
  cases h with
  | closed found => exact ⟨found, rfl⟩
  | before h => simp [hclear] at h
  | @since q x target e hanswered hfailed =>
    have hspoils := spoils_of_fetchOutcome hfailed
    have := hsmooth _ hanswered
    cases q with
    | pause length => simp [spoils] at hspoils
    | _ => simp [Incident.isSmooth, hspoils] at this
  | paused hanswered =>
    have := hsmooth _ hanswered
    simp [Incident.isSmooth] at this
  | interrupted h =>
    exact absurd (huninterrupted _ h) (by simp [Incident.begins, Activity.interrupts])

end

/-! ## Overlaps -/

section
variable {mode : Mode} {plan : Plan} {c : Cursor} {m : Moment} {before after : List Thread}
  {a : Activity} {rest : Program Cursor Yield} {loopRuns : Bool} {l : Life}

/-- **A cursor that is closed under a retrieval.** If the retrieval has requested no kill before,
    it ends with a failure, and in a calm one that is that the cursor was closed. -/
theorem refused_of_reaches (hc : ofPlan mode plan = .ok c)
    (hl : Life.Reaches (regime mode) (Life.opening c plan.first true)
      ⟨m, before ++ ⟨a, rest⟩ :: after⟩)
    (ha : a.isRetrieval) (hkill : ∀ i ∈ sinceCall m.history, i.requestsKill = false)
    (hcall : Life.MayCall (regime mode) (.close loopRuns) ⟨m, before ++ ⟨a, rest⟩ :: after⟩)
    (hlater : Life.Reaches (regime mode)
      (Life.begin (.close loopRuns) ⟨m, before ++ ⟨a, rest⟩ :: after⟩) l)
    (hover : ∀ t ∈ l.threads, t.activity.isRetrieval = false) :
    ∃ e later during,
      l.moment.history
        = later ++ .ended a (.error e) :: (during ++ .begun (.close loopRuns) :: m.history) ∧
      (∀ i ∈ during, i.begins Activity.isRetrieval = false) ∧
      Blamed plan (during ++ .begun (.close loopRuns) :: m.history) e ∧
      (isCalm plan (during ++ .begun (.close loopRuns) :: m.history) →
        ∃ found, e = .cursorClosed found) := by
  have hongoing : Life.Ongoing a (.begun (.close loopRuns) :: m.history)
      ⟨m.record (.begun (.close loopRuns)), before ++ ⟨a, rest⟩ :: after⟩ :=
    Life.ongoing_of_waits (m := m.record (.begun (.close loopRuns))) (Life.single_of_reaches hl) ha
  have hgoes : Life.GoesOn a (.begun (.close loopRuns) :: m.history)
      (Life.begin (.close loopRuns) ⟨m, before ++ ⟨a, rest⟩ :: after⟩) := by
    have hnone : ∀ i ∈ ([] : List Incident), i.begins Activity.isRetrieval = false := by simp
    exact hongoing.goesOn_beside rfl hnone rfl _
  obtain ⟨o, later, during, heq, hduring⟩ := (Life.goesOn_of_reaches hlater ha hgoes).over hover
  have hnow := Reckoning.agrees_of_reaches hc ((hl.tail (.call hcall)).trans hlater)
  have hconducted := hnow.conducted
  rw [heq] at hconducted
  have hconcluding := hconducted.of_append ha
  have hoverlapped : Overlapped (sinceCall (during ++ .begun (.close loopRuns) :: m.history)) := by
    refine ⟨during, loopRuns, sinceCall m.history, ?_, hkill⟩
    rw [sinceCall_append hduring, sinceCall_cons rfl]
  obtain ⟨e, hfailure, hblamed⟩ := hconcluding.overlapped hoverlapped
  obtain rfl : o = .error e := eq_error_of_failureOf hfailure
  exact ⟨e, later, during, heq, hduring, hblamed, hblamed.of_isCalm⟩

/-- The cursor is closed while its retrieval waits for a connection. -/
def closedUnder : Life :=
  ((((awaiting.begin (.close true)).respond obliging).respond obliging).respond obliging).respond
    obliging

theorem refused_of_closedUnder : ∃ e later during,
    closedUnder.moment.history
      = later ++ .ended (.next 2) (.error e)
        :: (during ++ .begun (.close true) :: awaiting.moment.history) ∧
    (∀ i ∈ during, i.begins Activity.isRetrieval = false) ∧
    Blamed (.sample 2) (during ++ .begun (.close true) :: awaiting.moment.history) e ∧
    (isCalm (.sample 2) (during ++ .begun (.close true) :: awaiting.moment.history) →
      ∃ found, e = .cursorClosed found) := by
  have hordinary : ∀ q, Custody.Ordinary q (obliging q) := fun q e he => by
    obtain ⟨x, hx⟩ := obliging_ok q
    simp [hx] at he
  have hclosing : Life.Reaches (regime .blocking) (awaiting.begin (.close true)) _ := .refl
  have hlater := (((hclosing.respond obliging hordinary).respond obliging hordinary).respond
    obliging hordinary).respond obliging hordinary
  exact @refused_of_reaches _ _ _ _ [] [] _ _ _ _ (ofPlan_sample _ _) reaches_awaiting rfl
    (by decide +kernel)
    ⟨trivial, rfl, by decide +kernel, by simp [Activity.isRetrieval]⟩ hlater (by decide +kernel)

/-- A retrieval that has fetched up to the limit, and has requested the kill. -/
def surfeited : Life := (awaiting.respond lively).respond lively

/-- The cursor is closed during that kill. -/
def closedLate : Life := (surfeited.begin (.close true)).respond lively

/-- **A cursor that is closed during the kill.** Without the look at kills a calm retrieval that
    the cursor is closed under does not always end with that failure. -/
theorem not_refused_during_kill :
    ¬ ∀ {mode : Mode} {plan : Plan} {c : Cursor} {m : Moment} {before after : List Thread}
        {a : Activity} {rest : Program Cursor Yield} {loopRuns : Bool} {l : Life},
      ofPlan mode plan = .ok c →
      Life.Reaches (regime mode) (Life.opening c plan.first true)
        ⟨m, before ++ ⟨a, rest⟩ :: after⟩ →
      a.isRetrieval →
      Life.MayCall (regime mode) (.close loopRuns) ⟨m, before ++ ⟨a, rest⟩ :: after⟩ →
      Life.Reaches (regime mode)
        (Life.begin (.close loopRuns) ⟨m, before ++ ⟨a, rest⟩ :: after⟩) l →
      (∀ t ∈ l.threads, t.activity.isRetrieval = false) → isCalm plan l.moment.history →
      ∃ found, Life.Over a (.error (.cursorClosed found)) (.begun (.close loopRuns) :: m.history)
        l := by
  intro h
  have hordinary : ∀ q, Custody.Ordinary q (lively q) := by
    intro q e he
    cases q <;> cases he
  have hsurfeited := (reaches_awaiting.respond lively hordinary).respond lively hordinary
  have hclosing : Life.Reaches (regime .blocking) (surfeited.begin (.close true)) _ := .refl
  obtain ⟨found, later, during, heq, -⟩ := @h _ _ _ _ [] [] _ _ _ closedLate
    (ofPlan_sample _ _) hsurfeited rfl
    ⟨trivial, rfl, by decide +kernel, by simp [Activity.isRetrieval]⟩
    (hclosing.respond lively hordinary) (by decide +kernel) (by decide +kernel)
  -- no activity has ended with a failure
  have hnone : closedLate.moment.history.any Incident.isFailure = false := by decide +kernel
  rw [heq] at hnone
  simp [Incident.isFailure] at hnone

end

end DocumentClient.Cursor
