/-
  Server cursors that are dropped.

  Where a fetch brings a batch and its server cursor is still alive, the cursor keeps it, kills it
  at once because the limit is reached, or drops it without a word because the batch was the last
  one (`drops_iff`).  An old server closes its cursor of itself if a negative number of documents
  was asked for.

  `asked_of_drops`: where a server cursor is dropped, such a number was asked for, unless the limit
  left no more documents than the batch size admits.  Then what the limit leaves was asked for,
  without sign, and the server cursor is dropped exactly if fewer documents come.
-/
import DocumentClient.Proofs.Cursor.Balance
import DocumentClient.Proofs.Cursor.Finality
import DocumentClient.Proofs.Cursor.Resizing

namespace DocumentClient.Cursor

open Program (Ensures Environment)

variable {α β : Type} {c : Cursor} {p : Program Cursor α} {q : Exchange} {x : Outcome q.Answer}

/-! ## Batches that reach the limit -/

/-- An answer brings a batch that reaches the limit, and leaves its server cursor alive. -/
def ReachesLimit (c : Cursor) (q : Exchange) (x : Outcome q.Answer) : Prop :=
  ∃ target result, fetched target q x = .ok result ∧ result.cursor.isSome ∧
    limitReached c.limit (c.progress.delivered + result.results.length)

/-- The environment of programs up to their next exchange, which must be the request of a kill. -/
def untilKill : Environment Moment where
  take n m := m.record (.noticed n)
  demands q _ := (Incident.asked q).requestsKill
  resumes _ _ _ _ := False

/-- The next thing that a program asks for is a kill, and it does not end before. -/
abbrev TurnsToKill (p : Program Cursor α) (m : Moment) : Prop :=
  Ensures untilKill Moment.cell (fun _ _ => False) p m

theorem killRequests_of_turnsToKill (a : Activity) (ts : List Thread) {p : Program Cursor Yield} :
    ∀ {m : Moment}, TurnsToKill p m →
      (Life.proceed a ts p m).moment.killRequests = m.killRequests + 1 := by
  induction p with
  | done outcome => exact fun h => h.elim
  | read next ih => exact fun h => ih _ h
  | write c next ih => exact fun h => ih h
  | note n next ih => exact fun h => (ih h).trans (congrArg (· + 1) (killRequests_record _ rfl))
  | ask q next ih => exact fun h => List.countP_cons_of_pos h.1

/-- Whatever follows, the kill comes first. -/
theorem turnsToKill_bind {f : α → Program Cursor β} {m : Moment} (h : TurnsToKill p m) :
    TurnsToKill (p >>= f) m :=
  Program.ensures_bind.2 (Program.ensures_mono (fun _ _ => False.elim) h)

/-- Where an answer brings a batch that reaches the limit, a program turns to the kill of the
    server cursor. -/
def KillsAtLimit (q : Exchange) (x : Outcome q.Answer) (p : Program Cursor α) : Prop :=
  ∀ m : Moment, m.cursor.closed = false → ReachesLimit m.cursor q x → TurnsToKill p m

/-- So it does after each of its fetches. -/
abbrev Punctual (p : Program Cursor α) : Prop := AfterFetches KillsAtLimit p

theorem KillsAtLimit.bind {f : α → Program Cursor β} (h : KillsAtLimit q x p) :
    KillsAtLimit q x (p >>= f) :=
  fun m hopen hx => turnsToKill_bind (h m hopen hx)

theorem KillsAtLimit.attempt (h : KillsAtLimit q x p) : KillsAtLimit q x p.attempt :=
  fun m hopen hx =>
    Program.ensures_attempt.2 (Program.ensures_mono (fun _ _ => False.elim) (h m hopen hx))

theorem punctual_bind {f : α → Program Cursor β} (hp : Punctual p) (hf : ∀ a, Punctual (f a)) :
    Punctual (p >>= f) :=
  afterAsks_bind (fun _ _ _ h => h.bind) hp hf

theorem punctual_attempt (hp : Punctual p) : Punctual p.attempt :=
  afterAsks_attempt (fun _ _ _ h => h.attempt) hp

theorem punctual_always (hp : Punctual p) (n : Notice) :
    Punctual (p.always (Program.notify n)) :=
  punctual_bind (punctual_attempt hp) fun _ => trivial

/-- The kill goes over the connection of the fetch, without a further exchange. -/
theorem turnsToKill_killHeld {m : Moment} {target : ServerCursor}
    (hs : m.cursor.progress.serverCursor = some target) (connection : Connection) :
    TurnsToKill (killHeld (some connection)) m := by
  simp only [killHeld, Program.ensures_bind, Program.ensures_get, Program.continues_ok,
    Moment.cell_load, hs, Program.ensures_modify, ensures_killCursor]
  exact ⟨rfl, fun _ _ hresumes => False.elim hresumes⟩

theorem turnsToKill_follow {m : Moment} {result : QueryResult} (hopen : m.cursor.closed = false)
    (halive : result.cursor.isSome)
    (hreached : limitReached m.cursor.limit (m.cursor.progress.delivered + result.results.length))
    (connection : Connection) : TurnsToKill (follow connection result) m := by
  refine Program.ensures_bind.2 ?_
  simp only [Program.ensures_get, Program.continues_ok, Moment.cell_load]
  rw [if_neg (by simp [hopen])]
  refine Program.ensures_bind.2 (ensures_absorb_of fun progress verdict m₁ hadvances _ => ?_)
  cases hadvances.fate with
  | ended h _ => simp [h] at halive
  | limitReached _ _ hheld => exact turnsToKill_bind (turnsToKill_killHeld hheld connection)
  | dropped _ hroom _ _ => simp [hadvances.delivered, hreached] at hroom
  | kept _ hroom _ _ => simp [hadvances.delivered, hreached] at hroom

theorem punctual_fetchOver (target : ServerCursor) (connection : Connection) :
    Punctual (fetchOver target connection) := by
  rw [fetchOver_eq, requestBatch_eq]
  refine fun c => ⟨fun _ x m hopen h => ?_, fun x => ?_⟩
  · obtain ⟨target', result, hresult, halive, hreached⟩ := h
    dsimp only
    rw [fetched_ok hresult]
    exact turnsToKill_follow (m := m.record (.noticed _)) hopen halive hreached connection
  · dsimp only
    rcases fetched target (fetchExchange c connection target) x with e | result
    · trivial
    · exact (fetchless_follow connection result).afterFetches

theorem punctual_withConnection {use : Connection → Program Cursor α}
    (huse : ∀ connection, Punctual (use connection)) : Punctual (withConnection use) :=
  afterFetches_withConnection huse fun connection => punctual_always (huse connection) _

theorem punctual_fetch : Punctual fetch := by
  refine afterAsks_get fun c => ?_
  rcases c.progress.serverCursor with _ | target
  · trivial
  have hattempt := punctual_attempt (punctual_withConnection (punctual_fetchOver target))
  change Punctual ((withConnection (fetchOver target)).attempt >>= conclude)
  exact punctual_bind hattempt fun outcome => (sizeless_conclude outcome).fetchless.afterFetches

/-! ## Retrieving -/

theorem fetchless_ensureOpen : Fetchless ensureOpen := by
  intro c
  change Fetchless (if c.closed then _ else _)
  split <;> trivial

theorem fetchless_waitBeforeRetry : Fetchless waitBeforeRetry := by
  intro c
  change Fetchless (Program.ofOutcome (Duration.ofInterval c.settings.pollInterval) >>= _)
  rcases Duration.ofInterval c.settings.pollInterval with e | length
  · trivial
  refine ⟨fun hfetch => by simp [isFetch] at hfetch, fun x => ?_⟩
  rcases x with e | _
  · trivial
  intro c'
  change Fetchless (if c'.interrupted then _ else if c'.closed then _ else _)
  split
  · trivial
  split <;> trivial

theorem fetchless_pauseUnlessSettled : Fetchless pauseUnlessSettled := by
  refine afterAsks_get fun c => ?_
  split
  · trivial
  · exact fetchless_waitBeforeRetry

theorem punctual_awaitBatch (rounds : Nat) : Punctual (awaitBatch rounds) := by
  induction rounds with
  | zero => trivial
  | succ rounds ih =>
    rw [awaitBatch_succ]
    refine afterAsks_get fun c => ?_
    split
    · trivial
    split
    · trivial
    · exact punctual_bind punctual_fetch fun _ =>
        punctual_bind fetchless_pauseUnlessSettled.afterFetches fun _ => ih

theorem punctual_hasNext (rounds : Nat) : Punctual (hasNext rounds) :=
  punctual_bind fetchless_ensureOpen.afterFetches fun _ => punctual_awaitBatch rounds

theorem punctual_next (rounds : Nat) : Punctual (next rounds) := by
  refine punctual_bind (punctual_hasNext rounds) fun availability => ?_
  cases availability with
  | ready => exact punctual_bind sizeless_takeBatch.fetchless.afterFetches fun _ => trivial
  | _ => trivial

theorem punctual_tryNext : Punctual tryNext := by
  have hfetch : Punctual fetchUnlessSettled := by
    refine afterAsks_get fun c => ?_
    split
    · trivial
    · exact punctual_fetch
  rw [tryNext_eq]
  exact punctual_bind fetchless_ensureOpen.afterFetches fun _ =>
    punctual_bind hfetch fun _ => sizeless_handOut.fetchless.afterFetches

theorem punctual_program (a : Activity) : Punctual a.program := by
  have hyield : ∀ {α : Type} {p : Program Cursor α} (f : α → Yield), Punctual p →
      Punctual (p >>= fun a => pure (f a)) := fun f hp => punctual_bind hp fun _ => trivial
  cases a with
  | opening first loopRuns =>
    exact hyield (fun _ => .nothing) (fetchless_start first loopRuns).afterFetches
  | hasNext rounds => exact hyield _ (punctual_hasNext rounds)
  | next rounds => exact hyield _ (punctual_next rounds)
  | tryNext => exact hyield _ punctual_tryNext
  | close loopRuns =>
    exact hyield (fun _ => .nothing) (sizeless_close loopRuns).fetchless.afterFetches
  | interrupt => exact fun _ => trivial
  | setBatchSize n => exact fun _ => trivial
  | cleanup target =>
    exact hyield (fun _ => .nothing) (sizeless_cleanup target).fetchless.afterFetches

/-! ## Lives -/

/-- A batch has come to an open cursor, and its server cursor, which is alive, is let go: it is not
    held any more, and no kill was scheduled or requested. -/
structure Drops (m : Moment) (result : QueryResult) (l : Life) : Prop where
  opened : m.cursor.closed = false
  alive : result.cursor.isSome
  gone : l.moment.cursor.progress.serverCursor = none
  unscheduled : l.moment.cursor.cleanups = m.cursor.cleanups
  unrequested : l.moment.killRequests = m.killRequests

variable {mode : Mode} {plan : Plan} {loopRuns : Bool} {sent : Life} {earlier since : List Incident}
  {m : Moment} {before after : List Thread} {a : Activity}

section
variable {first : QueryResult} {next : Outcome q.Answer → Program Cursor Yield}
  {target : ServerCursor} {result : QueryResult}

/-- A server cursor that is not needed any more is killed. -/
theorem killRequests_of_reachesLimit
    (hl : Life.Reaches anyOrder (Life.opening c first loopRuns)
      ⟨m, before ++ ⟨a, .ask q next⟩ :: after⟩)
    (hq : isFetch q) (hopen : m.cursor.closed = false) (hx : ReachesLimit m.cursor q x) :
    (Life.proceed a (before ++ after) (next x) (m.answer q x)).moment.killRequests
      = m.killRequests + 1 := by
  have hpunctual : Punctual (.ask q next) :=
    afterAsks_of_reaches (P := fun _ => KillsAtLimit) punctual_program hl ⟨a, .ask q next⟩ (by simp)
  have hkills : TurnsToKill (next x) (m.answer q x) := hpunctual.1 hq x _ hopen hx
  rw [killRequests_of_turnsToKill a _ hkills, Moment.answer, killRequests_record m rfl]

/-- One that is needed is kept, or dropped with the last batch. -/
theorem stands_of_bringsAlive
    (hl : Life.Reaches anyOrder (Life.opening c first loopRuns)
      ⟨m, before ++ ⟨a, .ask q next⟩ :: after⟩)
    (hq : isFetch q) (hopen : m.cursor.closed = false) {s : ServerCursor}
    (hx : BringsAlive m.cursor q x s) :
    Stands (m.cursor.heldAfter s) m
      (Life.proceed a (before ++ after) (next x) (m.answer q x)).moment := by
  have habsorbing : Absorbing (.ask q next) := absorbing_of_reaches hl ⟨a, .ask q next⟩ (by simp)
  have h := stands_proceed a (before ++ after)
    ((habsorbing.1 hq x).letsStand (m.answer q x) s hopen hx)
  exact ⟨h.opened, h.serverCursor, h.cleanups, h.killRequests.trans (killRequests_record m rfl)⟩

/-- **What becomes of a server cursor.**  It is dropped exactly where the batch that leaves it
    alive is the last one, and does not reach the limit. -/
theorem drops_iff
    (hl : Life.Reaches anyOrder (Life.opening c first loopRuns)
      ⟨m, before ++ ⟨a, .ask q next⟩ :: after⟩)
    (hq : isFetch q) (hx : fetched target q x = .ok result) :
    Drops m result (Life.proceed a (before ++ after) (next x) (m.answer q x)) ↔
      m.cursor.closed = false ∧ result.cursor.isSome ∧
        limitReached m.cursor.limit (m.cursor.progress.delivered + result.results.length) = false ∧
        isFinalBatch m.cursor.limit m.cursor.batchSize := by
  constructor
  · intro h
    have hroom : limitReached m.cursor.limit
        (m.cursor.progress.delivered + result.results.length) = false := by
      by_contra hreached
      have hkill := killRequests_of_reachesLimit hl hq h.opened
        ⟨target, result, hx, h.alive, eq_true_of_ne_false hreached⟩
      rw [h.unrequested] at hkill
      omega
    obtain ⟨s, hs⟩ := Option.isSome_iff_exists.1 h.alive
    have hstands := stands_of_bringsAlive hl hq h.opened ⟨target, result, hx, hs, hroom⟩
    have hnone : m.cursor.heldAfter s = none := hstands.serverCursor.symm.trans h.gone
    exact ⟨h.opened, h.alive, hroom, by simpa [heldAfter] using hnone⟩
  · rintro ⟨hopen, halive, hroom, hfinal⟩
    obtain ⟨s, hs⟩ := Option.isSome_iff_exists.1 halive
    have hstands := stands_of_bringsAlive hl hq hopen ⟨target, result, hx, hs, hroom⟩
    exact ⟨hopen, halive, hstands.serverCursor.trans (if_pos hfinal), hstands.cleanups,
      hstands.killRequests⟩

end

/-! ## What was asked for -/

section
variable {connection : Connection} {ns : Namespace} {id n : Int} {decode : Decoder}
  {next : Outcome QueryResult → Program Cursor Yield}

/-- A last batch is asked for without sign only where the limit leaves no more than the batch size
    admits; then all that it leaves is asked for. -/
theorem remainder_of_carriesSize {limit batchSize delivered : Int} (hlimit : 0 ≤ limit)
    (h : CarriesSize limit batchSize delivered (.getMore connection ns id n decode)) (hn : 0 ≤ n)
    (hsize : batchSize < 0) :
    0 < limit ∧ n = limit - delivered ∧ n ≤ batchSize.natAbs := by
  obtain ⟨hcount, hsign⟩ := h
  have hnot : ¬ (limit = 0 ∨ (batchSize.natAbs : Int) < limit.natAbs - delivered) := fun hcaps =>
    absurd (hsign.2 ⟨hsize, hcaps⟩) (by omega)
  rw [not_or, Int.not_lt] at hnot
  rw [sizeDue, if_neg hnot.1, if_neg (by omega)] at hcount
  omega

/-- Nothing arrives between the sending of a fetch and its answer. -/
theorem delivered_of_quiet (hc : ofPlan mode plan = .ok c)
    (hsent : Life.Reaches anyOrder (Life.opening c plan.first loopRuns) sent) {l : Life}
    (hflight : Life.Reaches anyOrder sent l)
    (hsince : l.moment.history = since ++ sent.moment.history)
    (hquiet : ∀ i ∈ since, i.fetches = false) :
    l.moment.cursor.progress.delivered = sent.moment.cursor.progress.delivered := by
  have harrivals : l.moment.arrivals = sent.moment.arrivals := by
    change arrivals l.moment.history = _
    rw [hsince, arrivals_append hquiet]
    rfl
  have hbooks := (books_of_reaches hc (hsent.trans hflight)).count
  rw [harrivals, ← (books_of_reaches hc hsent).count] at hbooks
  simpa using hbooks

/-- The limit is reached if all comes that it leaves. -/
theorem limitReached_iff_of_remainder {limit delivered : Int} (hlimit : 0 < limit)
    (hn : n = limit - delivered) (length : Nat) :
    limitReached limit (delivered + length) ↔ n ≤ length := by
  simp only [limitReached, Bool.and_eq_true, bne_iff_ne, decide_eq_true_eq]
  omega

/-- **A server cursor that is dropped was to close of itself, or the batch was too short.**  The
    number that was asked for is negative where the batch size bounds it.  Where the limit does, all
    that it leaves was asked for; the server cursor is dropped if fewer documents come, and killed
    if they all come.  The one thing left out is a batch size that is made negative in flight. -/
theorem asked_of_drops (hc : ofPlan mode plan = .ok c) (hlimit : 0 ≤ plan.limit)
    (hsent : Life.Reaches anyOrder (Life.opening c plan.first loopRuns) sent)
    (hasked : sent.moment.history = .asked (.getMore connection ns id n decode) :: earlier)
    (hflight : Life.Reaches anyOrder sent
      ⟨m, before ++ ⟨a, .ask (.getMore connection ns id n decode) next⟩ :: after⟩)
    (hsince : m.history = since ++ sent.moment.history)
    (hquiet : ∀ i ∈ since, i.fetches = false)
    (hsign : m.cursor.batchSize < 0 → sent.moment.cursor.batchSize < 0) (result : QueryResult) :
    let l := Life.proceed a (before ++ after) (next (.ok result))
      (m.answer (.getMore connection ns id n decode) (.ok result))
    (Drops m result l → n < 0 ∨ (0 < plan.limit ∧
      n = plan.limit - sent.moment.cursor.progress.delivered ∧
      n ≤ sent.moment.cursor.batchSize.natAbs)) ∧
    (0 ≤ n → m.cursor.closed = false → result.cursor.isSome → m.cursor.batchSize < 0 →
      (Drops m result l ↔ result.results.length < n) ∧
      (n ≤ result.results.length → l.moment.killRequests = m.killRequests + 1)) := by
  intro l
  have hreaches := hsent.trans hflight
  have hkept : m.cursor.limit = plan.limit := (sizes_of_reaches hc hreaches).limit
  have hdelivered : m.cursor.progress.delivered = sent.moment.cursor.progress.delivered :=
    delivered_of_quiet hc hsent hflight hsince hquiet
  have hcarried : CarriesSize plan.limit sent.moment.cursor.batchSize
      sent.moment.cursor.progress.delivered (.getMore connection ns id n decode) :=
    ((sizes_of_reaches hc hsent).sized _ earlier hasked rfl).carried
  have hdropped (target : ServerCursor) := drops_iff hreaches rfl
    (show fetched target (.getMore connection ns id n decode) (.ok result) = .ok result from rfl)
  refine ⟨fun hdrops => ?_, fun hn hopen halive hneg => ?_⟩
  · obtain ⟨target, -⟩ := Option.isSome_iff_exists.1 hdrops.alive
    obtain ⟨-, -, -, hfinal⟩ := (hdropped target).1 hdrops
    have hneg : sent.moment.cursor.batchSize < 0 := by
      have hnegative : m.cursor.batchSize < 0 ∨ m.cursor.limit < 0 := by
        simpa [isFinalBatch] using hfinal
      exact hsign (hnegative.resolve_right (by omega))
    rcases Int.lt_or_le n 0 with hn | hn
    · exact .inl hn
    · exact .inr (remainder_of_carriesSize hlimit hcarried hn hneg)
  · obtain ⟨target, -⟩ := Option.isSome_iff_exists.1 halive
    obtain ⟨hpositive, hremainder, -⟩ :=
      remainder_of_carriesSize hlimit hcarried hn (hsign hneg)
    have hreached := limitReached_iff_of_remainder hpositive hremainder result.results.length
    rw [← hkept, ← hdelivered] at hreached
    constructor
    · have hshort : limitReached m.cursor.limit
          (m.cursor.progress.delivered + result.results.length) = false ↔
            result.results.length < n := by
        rw [← Bool.not_eq_true, hreached, Int.not_le]
      refine (hdropped target).trans ?_
      rw [hshort]
      simp [hopen, halive, isFinalBatch, hneg]
    · intro hfull
      exact killRequests_of_reachesLimit hreaches rfl hopen
        ⟨target, result, rfl, halive, hreached.2 hfull⟩

end

/-- A cursor of an old server that asks for the three documents that its limit leaves, under a batch
    size of minus five. -/
def askingRest : Life :=
  ((((Life.opening (sample .blocking 4) (Plan.sample 4).first true).begin (.next 1)).begin
    (.setBatchSize (-5))).begin (.next 2)).respond lively

/-- One document, and the server cursor is alive. -/
def shortBatch : QueryResult := ⟨(Plan.sample 4).first.ns, [.int 2], 7, {}⟩

theorem drops_askingRest : Drops askingRest.moment shortBatch (askingRest.respond lively) := by
  have hopened : Life.Reaches anyOrder
      (Life.opening (sample .blocking 4) (Plan.sample 4).first true)
      (Life.opening (sample .blocking 4) (Plan.sample 4).first true) := .refl
  have htaken := hopened.begin (a := .next 1)
    ⟨trivial, rfl, by decide +kernel, fun _ => by decide +kernel⟩
  have hset := htaken.begin (a := .setBatchSize (-5))
    ⟨trivial, rfl, by decide +kernel, by simp [Activity.isRetrieval]⟩
  have hwaiting := hset.begin (a := .next 2)
    ⟨trivial, rfl, by decide +kernel, fun _ => by decide +kernel⟩
  have hasking : Life.Reaches _ _ askingRest := hwaiting.respond lively fun _ => trivial
  have hflight : Life.Reaches anyOrder askingRest
      ⟨askingRest.moment, [] ++ ⟨.next 2, .ask _ _⟩ :: []⟩ := .refl
  have hnothing : askingRest.moment.history = [] ++ askingRest.moment.history := rfl
  have hdropped := (asked_of_drops (ofPlan_sample .blocking 4) (by decide) hasking rfl hflight
    hnothing (by simp) id shortBatch).2 (by decide) rfl rfl (by decide)
  exact hdropped.1.2 (by decide)

/-- **A server cursor may be dropped that the server was not told to close.** -/
theorem not_told_askingRest :
    (∃ connection ns id decode earlier, connection.server.version = [3, 0] ∧
      askingRest.moment.history = .asked (.getMore connection ns id 3 decode) :: earlier) ∧
    askingRest.moment.cursor.limit = 4 ∧ askingRest.moment.cursor.batchSize = -5 ∧
    Drops askingRest.moment shortBatch (askingRest.respond lively) :=
  ⟨⟨_, _, _, _, _, rfl, rfl⟩, rfl, rfl, rfl, rfl, rfl, rfl, by decide +kernel⟩

end DocumentClient.Cursor
