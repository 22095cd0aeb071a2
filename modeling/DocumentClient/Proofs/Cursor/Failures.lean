/-
  Fetches that fail.

  A fetch can fail at its lease, on its way, when the server reports an error, and when
  its reply is read; `Raises` lists these stages and with what the call ends.  The cursor
  is closed then, whatever the kill comes to that follows.

  `failed_of_reaches`: the call raises the failure of its fetch, and leaves the cursor closed,
  with one kill tried (none if the server knew no such cursor) and nothing owed.
-/
import DocumentClient.Proofs.Cursor.Blocking
import DocumentClient.Proofs.Cursor.Calls
import DocumentClient.Proofs.Cursor.Kills
import DocumentClient.Proofs.Cursor.Loans

namespace DocumentClient

/-! ## Replies that cannot be read -/

/-- Whether a failure comes neither from a server nor from a caller that was interrupted or
    cancelled. -/
def Failure.isLocal : Failure → Bool
  | .command _ => false
  | .interrupted => false
  | .cancelled => false
  | _ => true

/-- An outcome that fails locally, if it fails. -/
def Outcome.Local {α : Type} (o : Outcome α) : Prop := ∀ e, o = .error e → e.isLocal

namespace Outcome
variable {α β : Type}

theorem local_ok (a : α) : Outcome.Local (.ok a) := by
  intro e h
  cases h

theorem local_error {e : Failure} (h : e.isLocal) : Outcome.Local (.error e : Outcome α) := by
  intro e' he
  cases he
  exact h

theorem local_ofValid (value : Except Invalid α) : (Outcome.ofValid value).Local := by
  cases value with
  | ok a => exact local_ok a
  | error reason => exact local_error rfl

theorem local_bind {o : Outcome α} {f : α → Outcome β} (ho : o.Local) (hf : ∀ a, (f a).Local) :
    (o >>= f).Local := by
  cases o with
  | ok a => exact hf a
  | error e => exact local_error (ho e rfl)

end Outcome

open Outcome

namespace Value
variable (v : Value)

theorem local_field (name : String) : (v.field name).Local := by
  unfold field
  split
  · split
    · exact local_ok _
    · exact local_error rfl
  all_goals exact local_error rfl

theorem local_fieldOrNull (name : String) : (v.fieldOrNull name).Local := by
  unfold fieldOrNull
  split
  · exact local_ok _
  · exact local_error rfl

theorem local_wholeNumber : v.wholeNumber.Local := by
  unfold wholeNumber
  split
  · exact local_ok _
  · exact local_ok _
  · split
    · exact local_ok _
    · split <;> exact local_error rfl
  · exact local_ofValid _
  · exact local_error rfl

theorem local_items : v.items.Local := by
  unfold items
  split
  · exact local_ok _
  · exact local_error rfl

theorem local_namespaceOf : v.namespaceOf.Local := by
  unfold namespaceOf
  split
  · exact local_ofValid _
  · split <;> exact local_error rfl
  · split <;> exact local_error rfl
  · exact local_error rfl

end Value

namespace QueryResult

theorem local_readCursorDocument (document : Value) (address : Address) (batchField : String) :
    (readCursorDocument document address batchField).Local := by
  refine local_bind (document.local_field _) fun id => ?_
  refine local_bind id.local_wholeNumber fun _ => ?_
  refine local_bind (document.local_field _) fun name => ?_
  refine local_bind name.local_namespaceOf fun _ => ?_
  refine local_bind (document.local_field _) fun batch => ?_
  refine local_bind batch.local_items fun _ => ?_
  exact local_ok _

/-- A reply to a fetch that cannot be read fails locally. -/
theorem local_ofGetMoreReply (reply : Value) (address : Address) :
    (ofGetMoreReply reply address).Local := by
  refine local_bind (reply.local_fieldOrNull _) fun document => ?_
  unfold ofCursorDocument
  split
  · exact local_error rfl
  · exact local_error rfl
  · exact local_error rfl
  · exact local_readCursorDocument document address _

end QueryResult

namespace Cursor

/-! ## Stages -/

/-- With what a call ends when its fetch fails, by the stage at which it fails. -/
inductive Raises (target : ServerCursor) : (q : Exchange) → Outcome q.Answer → Failure → Prop
  /-- No connection can be leased. -/
  | lease {source : Source} {e : Failure} (h : e.isOrdinary) :
      Raises target (.lease source) (.error e) e
  /-- The command fails on its way, or a document of the reply cannot be decoded. -/
  | command {connection : Connection} {database : String} {command : Document}
      {secondaryOk : Bool} {names : FieldRule} {decode : Decoder} {e : Failure}
      (h : e.isOrdinary) (hlocal : ∀ f, e ≠ .command f) :
      Raises target (.command connection database command secondaryOk names decode) (.error e) e
  /-- The server knows no such cursor. -/
  | missing {connection : Connection} {database : String} {command : Document}
      {secondaryOk : Bool} {names : FieldRule} {decode : Decoder} {f : CommandFailure}
      (h : f.code = 43) :
      Raises target (.command connection database command secondaryOk names decode)
        (.error (.command f)) (.cursorMissing target.id target.address)
  /-- The server reports another error. -/
  | query {connection : Connection} {database : String} {command : Document}
      {secondaryOk : Bool} {names : FieldRule} {decode : Decoder} {f : CommandFailure}
      (h : f.code ≠ 43) :
      Raises target (.command connection database command secondaryOk names decode)
        (.error (.command f)) (.query ⟨f.code, f.reason, f.address.getD target.address⟩)
  /-- The reply cannot be read. -/
  | malformed {connection : Connection} {database : String} {command : Document}
      {secondaryOk : Bool} {names : FieldRule} {decode : Decoder} {reply : Value} {e : Failure}
      (h : QueryResult.ofGetMoreReply reply connection.server.address = .error e) :
      Raises target (.command connection database command secondaryOk names decode) (.ok reply) e
  /-- The message to an old server fails. -/
  | message {connection : Connection} {ns : Namespace} {cursorId count : Int} {decode : Decoder}
      {e : Failure} (h : e.isOrdinary) :
      Raises target (.getMore connection ns cursorId count decode) (.error e) e

/-- Whether an exchange is a command. -/
def isCommand : Exchange → Bool
  | .command .. => true
  | _ => false

section
variable {target : ServerCursor} {q : Exchange} {x : Outcome q.Answer} {e : Failure}

theorem fetchFailure_missing {f : CommandFailure} (h : f.code = 43) :
    fetchFailure target (.command f) = .cursorMissing target.id target.address := by
  simp [fetchFailure, CommandFailure.ofFetch, cursorMissingCode, h]

theorem fetchFailure_query {f : CommandFailure} (h : f.code ≠ 43) :
    fetchFailure target (.command f)
      = .query ⟨f.code, f.reason, f.address.getD target.address⟩ := by
  simp [fetchFailure, CommandFailure.ofFetch, cursorMissingCode, h]

theorem Failure.isOrdinary_of_isLocal {e : Failure} (h : e.isLocal) : e.isOrdinary := by
  cases e <;> first | rfl | simp [Failure.isLocal] at h

theorem Raises.isOrdinary (h : Raises target q x e) : e.isOrdinary := by
  cases h with
  | lease h => exact h
  | command h _ => exact h
  | missing h => rfl
  | query h => rfl
  | malformed h =>
    exact Failure.isOrdinary_of_isLocal (QueryResult.local_ofGetMoreReply _ _ e h)
  | message h => exact h

theorem Raises.fetchOutcome_eq (h : Raises target q x e) :
    fetchOutcome target q x = some (.error e) := by
  cases h with
  | lease h => rfl
  | command h hlocal =>
    cases e with
    | command f => exact absurd rfl (hlocal f)
    | _ => rfl
  | missing h => exact congrArg (some ∘ Except.error) (fetchFailure_missing h)
  | query h => exact congrArg (some ∘ Except.error) (fetchFailure_query h)
  | malformed h => exact congrArg some h
  | message h => rfl

theorem raises_of_fetchOutcome (h : fetchOutcome target q x = some (.error e))
    (he : e.isOrdinary) : Raises target q x e := by
  cases q with
  | lease source =>
    rcases x with e' | connection
    · obtain rfl : e' = e := by simpa [fetchOutcome, isFetch, refused] using h
      exact .lease he
    · simp [fetchOutcome, isFetch, refused] at h
  | command connection database command secondaryOk names decode =>
    rcases x with e' | reply
    · obtain rfl : fetchFailure target e' = e := Except.error.inj (Option.some.inj h)
      cases e' with
      | command f =>
        by_cases hf : f.code = 43
        · rw [fetchFailure_missing hf]
          exact .missing hf
        · rw [fetchFailure_query hf]
          exact .query hf
      | _ => exact .command he (by simp)
    · exact .malformed (Option.some.inj h)
  | getMore connection ns cursorId count decode =>
    change some x = some (.error e) at h
    obtain rfl := Option.some.inj h
    exact .message he
  | _ => simp [fetchOutcome, isFetch, refused] at h

/-- **The stages of a fetch.** It fails at one of them, and at no other. -/
theorem raises_iff :
    Raises target q x e ↔ fetchOutcome target q x = some (.error e) ∧ e.isOrdinary :=
  ⟨fun h => ⟨h.fetchOutcome_eq, h.isOrdinary⟩, fun h => raises_of_fetchOutcome h.1 h.2⟩

/-- No error that the server reports to the command of a fetch gets through as it is. -/
theorem Raises.translated (h : Raises target q x e) (hq : isCommand q) (f : CommandFailure) :
    e ≠ .command f := by
  cases h with
  | command _ hlocal => exact hlocal f
  | missing _ => simp
  | query _ => simp
  | malformed h =>
    rintro rfl
    have := QueryResult.local_ofGetMoreReply _ _ _ h
    simp [Failure.isLocal] at this
  | _ => simp [isCommand] at hq

/-- Such an answer comes in any regime. -/
theorem Raises.admitted (h : Raises target q x e) (mode : Mode) : (regime mode).admits q x := by
  cases mode with
  | async => trivial
  | blocking =>
    intro e' he'
    cases h with
    | lease h => exact Except.error.inj he' ▸ h
    | command h _ => exact Except.error.inj he' ▸ h
    | missing _ => exact Except.error.inj he' ▸ rfl
    | query _ => exact Except.error.inj he' ▸ rfl
    | malformed _ => exact absurd he' (by simp)
    | message h => exact Except.error.inj he' ▸ h

end

/-! ## At rest -/

/-- All that a cursor was given or has leased was released once, if that was its duty. -/
structure Released (plan : Plan) (m : Moment) : Prop where
  sources : ∀ s, m.sourceReleases s = if owns (· == s) plan.source then 1 else 0
  /-- A cursor with a connection of its own leases none. -/
  given : plan.connection.isSome → ∀ id, m.leases id = 0 ∧
    m.releases id = if owns (·.id == id) plan.connection then 1 else 0
  leased : plan.connection.isNone → ∀ id, m.releases id = m.leases id

section
variable {mode : Mode} {plan : Plan} {c : Cursor} {l : Life}

/-- Once it has released its resources, a cursor at rest owes nothing. -/
theorem released_of_reaches (hc : ofPlan mode plan = .ok c)
    (hl : Life.Reaches (regime mode) (Life.opening c plan.first true) l) (hrest : l.threads = [])
    (hr : l.moment.cursor.released) : Released plan l.moment := by
  have hloans := loans_of_reaches hl hrest
  rw [(planned_of_ofPlan hc).connection] at hloans
  cases mode with
  | blocking =>
    have heven := Custody.even_of_reaches hc hl hrest
    have hplanned := (planned_of_ofPlan hc).kept heven.setup
    refine ⟨fun s => ?_, fun hg id => ⟨(hloans id).2 hg, ?_⟩, fun hn id => (hloans id).1 hn⟩
    · rw [heven.atRest.sources s, Moment.sourceDue, hr, hplanned.source, Bool.true_and]
    · have hdebt := heven.debt id
      rw [Moment.debt, (hloans id).2 hg, Moment.due, hr, hplanned.connection, Bool.true_and]
        at hdebt
      omega
  | async =>
    have hg : Guarded plan l.moment :=
      (sound_scheduling plan).invariant_of_reaches hl (orderly_guarded hc)
    refine ⟨fun s => ?_, fun hgiven id => ⟨(hloans id).2 hgiven, ?_⟩,
      fun hn id => (hloans id).1 hn⟩
    · rw [hg.sources s, Moment.sourceDue, hr, hg.source, Bool.true_and]
    · rw [hg.given hgiven id, Moment.due, hr, hg.connection, Bool.true_and]

/-! ## Failing fetches -/

/-- Whether a failure says that the server knows no such cursor. -/
def isMissing : Failure → Bool
  | .cursorMissing _ _ => true
  | _ => false

/-- What has become of a cursor since its fetch has failed at a moment, for a retrieval. -/
structure Failed (mode : Mode) (plan : Plan) (target : ServerCursor) (e : Failure) (a : Activity)
    (m : Moment) (l : Life) : Prop where
  /-- The call ends with the failure of its fetch. -/
  raised : Life.Over a (.error e) m.history l
  closed : l.moment.cursor.state = .closed
  /-- What was delivered stays delivered, and nothing is buffered. -/
  delivered : l.moment.cursor.progress.delivered = m.cursor.progress.delivered
  unbuffered : l.moment.cursor.progress.nextBatch = none
  /-- A kill has begun or, on a running loop, is scheduled. -/
  doomed : isMissing e = false → l.moment.attempts = 1 ∧ l.moment.cursor.cleanups = [] ∨
    mode = .async ∧ l.moment.attempts = 0 ∧ l.moment.cursor.cleanups = [target]
  /-- A server cursor that the server does not know is not killed. -/
  spared : isMissing e → l.moment.attempts = 0 ∧ l.moment.cursor.cleanups = []
  /-- Only that server cursor is killed, and once. -/
  named : ∀ later x ns ids earlier,
    l.moment.history = later ++ .asked (.killCursors x ns ids) :: earlier → ids = [target.id]
  within : l.moment.killRequests + abandoned l.moment.history ≤ l.moment.attempts
  /-- At rest a kill that has begun was then requested, or given up since the connection for it
      was refused. -/
  tried : l.threads = [] → 0 < l.moment.attempts →
    ∃ later i earlier, l.moment.history = later ++ i :: earlier ∧
      (i.requestsKill ∨ i.abandons earlier) ∧ 0 < earlier.countP Incident.attempts
  /-- At rest, when the scheduled kill has run too, nothing is owed. -/
  released : l.threads = [] → l.moment.cursor.cleanups = [] → Released plan l.moment

variable {target : ServerCursor} {e : Failure} {m : Moment}

/-- An ordinary failure ends the fetch, and the server cursor is not held any more. -/
theorem Ledger.fail_of_ordinary (target : ServerCursor) (he : e.isOrdinary) (ledger : Ledger) :
    (ledger.fail target e).failure = some e ∧
      (ledger.fail target e).standing = (if isMissing e then .gone else .doomed target) ∧
      (ledger.fail target e).isHeld = false := by
  cases e <;> first | exact ⟨rfl, rfl, rfl⟩ | simp [Failure.isOrdinary] at he

theorem Ledger.fail_delivered (ledger : Ledger) :
    (ledger.fail target e).delivered = ledger.delivered := by
  cases e <;> rfl

/-- Where a server cursor is held, no fetch had failed before the retrieval was called. -/
theorem failure_untilCall (h : (ledger plan m.history).isHeld = true) :
    (ledger plan (untilCall m.history)).failure = none := by
  refine sound_ledger _ ?_
  by_contra hnot
  obtain ⟨later, heq⟩ : untilCall m.history <:+ m.history := untilCall_suffix
  have halike := ledger_append_of_not_held (eq_false_of_ne_true hnot) later
  rw [heq] at halike
  rw [halike.isHeld] at h
  exact hnot h

/-- A closed cursor at rest, with nothing scheduled, has released its resources. -/
theorem released_of_closed (hl : Life.Reaches (regime mode) (Life.opening c plan.first true) l)
    (h : Reckoning.Agrees mode plan l.moment) (hclosed : l.moment.cursor.closed)
    (hrest : l.threads = []) (hnone : l.moment.cursor.cleanups = []) :
    l.moment.cursor.released := by
  have hcounted : l.Counted Activity.isCleanup := Life.counted_of_reaches hl
  rw [Life.Counted, hrest, List.countP_nil, Nat.add_zero] at hcounted
  have hunfinished : l.moment.unfinished = 0 := by
    rw [Moment.unfinished, hnone, hcounted]
    simp
  rcases h.paid hclosed with hr | hp
  · exact hr
  · omega

/-- **A fetch that fails.** Where a retrieval waits for its fetch, and the lease or the request or
    the reading of the reply fails, the call raises that failure, as `Raises` tells it; the cursor
    is closed, its server cursor is killed once and everything is released, however that kill
    ends and whatever others do meanwhile. -/
theorem failed_of_reaches {before after : List Thread} {a : Activity} {q : Exchange}
    {next : Outcome q.Answer → Program Cursor Yield} {x : Outcome q.Answer}
    (hc : ofPlan mode plan = .ok c)
    (hl : Life.Reaches (regime mode) (Life.opening c plan.first true)
      ⟨m, before ++ ⟨a, .ask q next⟩ :: after⟩)
    (ha : a.isRetrieval) (hs : m.cursor.progress.serverCursor = some target)
    (hx : fetchOutcome target q x = some (.error e)) (he : e.isOrdinary)
    (horder : (regime mode).nested → before = [])
    (hlater : Life.Reaches (regime mode)
      (Life.proceed a (before ++ after) (next x) (m.answer q x)) l)
    (hover : ∀ t ∈ l.threads, t.activity.isRetrieval = false) :
    Failed mode plan target e a (m.answer q x) l ∧ Raises target q x e ∧
      (isCommand q → ∀ f, e ≠ .command f) := by
  have hraises : Raises target q x e := raises_iff.2 ⟨hx, he⟩
  -- when the answer comes, the ledger takes the failure down
  have hbefore : Reckoning.Agrees mode plan m := Reckoning.agrees_of_reaches hc hl
  have hstanding := hbefore.standing hs
  have hledger : ledger plan (m.answer q x).history = (ledger plan m.history).fail target e := by
    rw [Reckoning.ledger_answer_of_held hstanding (hbefore.holding hstanding).open_,
      hx]
  obtain ⟨hfailure, hgiven, hdead⟩ := Ledger.fail_of_ordinary target he
    (ledger plan m.history)
  rw [← hledger] at hfailure hgiven hdead
  -- the call is the next retrieval to end
  have halone : Life.retrieving (before ++ after) = 0 := by
    have hsingle := Life.single_of_reaches hl
    rw [Life.retrieving_extract, if_pos ha] at hsingle
    omega
  obtain ⟨o, hended⟩ := (Life.goesOn_of_reaches hlater ha
    (Life.goesOn_proceed ⟨[], rfl, by simp⟩ ha halone (next x))).over hover
  have hreached := (hl.tail (.resume horder (hraises.admitted mode))).trans hlater
  have hnow : Reckoning.Agrees mode plan l.moment := Reckoning.agrees_of_reaches hc hreached
  have halike : (ledger plan l.moment.history).Alike (ledger plan (m.answer q x).history) := by
    obtain ⟨later, during, heq, -⟩ := hended
    have := ledger_append_of_not_held hdead (later ++ .ended a o :: during)
    rwa [List.append_assoc, List.cons_append, ← heq] at this
  have hfailed : (ledger plan l.moment.history).failure ≠ none := by
    rw [halike.failure, hfailure]
    simp
  have hclosed : l.moment.cursor.closed := by
    have hcounted : l.Counted Activity.isRetrieval := Life.counted_of_reaches hreached
    have hnone : l.threads.countP (·.activity.isRetrieval) = 0 :=
      List.countP_eq_zero.2 fun t ht => by simp [hover t ht]
    rw [Life.Counted, hnone] at hcounted
    rcases hnow.left hfailed with h | h
    · exact h
    · omega
  refine ⟨?_, hraises, hraises.translated⟩
  constructor
  case raised =>
    obtain ⟨later, during, heq, hduring⟩ := hended
    have hconducted := hnow.conducted
    rw [heq] at hconducted
    have hconcluding : Concluding plan (failureOf o) (during ++ (m.answer q x).history) :=
      hconducted.of_append ha
    have huntil : untilCall (during ++ (m.answer q x).history) = untilCall m.history :=
      (untilCall_append hduring).trans (untilCall_cons rfl)
    have hraised : failureOf o = some e := by
      refine hconcluding.fetched e ?_ ?_
      · rw [huntil]
        exact failure_untilCall (Ledger.isHeld_of_standing hstanding)
      · exact (ledger_append_of_not_held hdead during).failure.trans hfailure
    obtain rfl : o = .error e := eq_error_of_failureOf hraised
    exact ⟨later, during, heq, hduring⟩
  case closed => exact if_pos hclosed
  case delivered =>
    have hsame : (ledger plan (m.answer q x).history).delivered
        = (ledger plan m.history).delivered := by
      rw [hledger]
      exact Ledger.fail_delivered ..
    rw [hnow.delivered, halike.delivered, hsame]
    exact hbefore.delivered.symm
  case unbuffered => exact hnow.bare hfailed
  case doomed =>
    intro hknown
    refine hnow.doomed ?_
    rw [halike.standing, hgiven, hknown]
    rfl
  case spared =>
    intro hmissing
    refine hnow.gone (List.nil_append _).symm ?_
    rw [halike.standing, hgiven, if_pos hmissing]
  case named =>
    intro later x' ns ids earlier heq
    obtain ⟨target', hdoomed, rfl⟩ := hnow.requested heq
    have hsince := ledger_append_of_not_held (Reckoning.isHeld_of_doomed hdoomed)
      (later ++ [.asked (.killCursors x' ns [target'.id])])
    rw [List.append_assoc, List.singleton_append, ← heq] at hsince
    have hsame := (hsince.standing.trans hdoomed).symm.trans (halike.standing.trans hgiven)
    split at hsame
    · simp at hsame
    · rw [Standing.doomed.inj hsame]
  case within => exact killRequests_le_attempts hreached
  case tried => exact exists_of_attempts hc hreached
  case released =>
    intro hrest hnone
    exact released_of_reaches hc hreached hrest
      (released_of_closed hreached hnow hclosed hrest hnone)

end

/-- A world in which no connection can be had. -/
def severed : (q : Exchange) → Outcome q.Answer
  | .lease _ => .error (.external .connection "reset")
  | q => obliging q

/-- Neither the fetch nor the kill gets a connection, and the call raises what the fetch has
    met with. -/
theorem failed_of_severed :
    ((awaiting.respond severed).respond severed).threads = [] ∧
      Failed .blocking (.sample 2) ⟨7, {}, by decide⟩ (.external .connection "reset") (.next 2)
        (awaiting.moment.answer (.lease ⟨0⟩) (severed (.lease ⟨0⟩)))
        ((awaiting.respond severed).respond severed) := by
  have hordinary : ∀ q, Custody.Ordinary q (severed q) := by
    intro q e he
    cases q <;> cases he
    rfl
  have hsevered : Life.Reaches (regime .blocking) (awaiting.respond severed) _ :=
    .respond .refl severed hordinary
  have hrest : ((awaiting.respond severed).respond severed).threads = [] :=
    List.isEmpty_iff.1 (by decide +kernel)
  exact ⟨hrest, And.left (@failed_of_reaches _ _ _ _ _ _ _ [] [] _ _ _ _ (ofPlan_sample _ _)
    reaches_awaiting rfl (by decide +kernel) rfl rfl (fun _ => rfl) hsevered
    (by simp [hrest]))⟩

end Cursor

end DocumentClient
