/-
  Rules for the steps of a cursor.

  What each step ensures, in any environment: `settle` is the world after the resources
  were released, `ensures_withConnection` says how a connection is used and given back,
  and `ensures_absorb` what an absorbed batch leaves.  `Progress.advance_fate` lists the
  fates of a server cursor.
-/
import DocumentClient.Proofs.Cursor.Life
import DocumentClient.Proofs.Program.Ensures

namespace DocumentClient

/-! ## Progress -/

namespace Progress
variable (p : Progress) (limit batchSize : Int) (result : QueryResult)

theorem advance_nextBatch : (p.advance limit batchSize result).1.nextBatch =
    if result.results.isEmpty then none else some result.results := by
  unfold advance
  rcases result.cursor with _ | cursor
  · rfl
  · dsimp only; split
    · rfl
    · split <;> rfl

theorem advance_filled : (p.advance limit batchSize result).1.nextBatch ≠ some [] := by
  rw [advance_nextBatch]
  rcases result.results with _ | ⟨document, documents⟩ <;> simp

theorem advance_atHand :
    (p.advance limit batchSize result).1.nextBatch.getD [] = result.results := by
  rw [advance_nextBatch]
  rcases result.results with _ | ⟨document, documents⟩ <;> simp

theorem advance_delivered : (p.advance limit batchSize result).1.delivered =
    p.delivered + result.results.length := by
  unfold advance
  rcases result.cursor with _ | cursor
  · rfl
  · dsimp only; split
    · rfl
    · split <;> rfl

/-- What becomes of the server cursor after a batch. -/
inductive Fate (after : Progress) : Verdict → Prop where
  | ended (h : result.cursor = none) (hs : after.serverCursor = none) : Fate after .ended
  | limitReached {cursor : ServerCursor} (h : result.cursor = some cursor)
      (hl : DocumentClient.limitReached limit after.delivered = true)
      (hs : after.serverCursor = some cursor) : Fate after .limitReached
  | dropped {cursor : ServerCursor} (h : result.cursor = some cursor)
      (hl : DocumentClient.limitReached limit after.delivered = false)
      (hf : isFinalBatch limit batchSize = true)
      (hs : after.serverCursor = none) : Fate after (.dropped cursor)
  | kept {cursor : ServerCursor} (h : result.cursor = some cursor)
      (hl : DocumentClient.limitReached limit after.delivered = false)
      (hf : isFinalBatch limit batchSize = false)
      (hs : after.serverCursor = some cursor) : Fate after .kept

theorem advance_fate : Fate limit batchSize result (p.advance limit batchSize result).1
    (p.advance limit batchSize result).2 := by
  unfold advance
  rcases h : result.cursor with _ | cursor
  · exact .ended h rfl
  · dsimp only
    split
    · rename_i hl; exact .limitReached h hl rfl
    · rename_i hl
      split
      · rename_i hf; exact .dropped h (eq_false_of_ne_true hl) hf rfl
      · rename_i hf; exact .kept h (eq_false_of_ne_true hl) (eq_false_of_ne_true hf) rfl

/-- All that is to be known of the progress after a batch, and of the verdict on it. -/
structure Advances (after : Progress) (v : Verdict) : Prop where
  fate : Fate limit batchSize result after v
  delivered : after.delivered = p.delivered + result.results.length
  filled : after.nextBatch ≠ some []
  atHand : after.nextBatch.getD [] = result.results

theorem advances : Advances p limit batchSize result (p.advance limit batchSize result).1
    (p.advance limit batchSize result).2 :=
  ⟨advance_fate .., advance_delivered .., advance_filled p limit batchSize result,
    advance_atHand ..⟩

end Progress

/-- Where only the resources are to be released, no server cursor is held. -/
theorem Progress.Fate.gone {limit batchSize : Int} {result : QueryResult} {after : Progress}
    {v : Verdict} (h : Fate limit batchSize result after v) (hv : v.followUp = .release) :
    after.serverCursor = none := by
  cases h with
  | ended _ hs => exact hs
  | dropped _ _ _ hs => exact hs
  | _ => simp [Verdict.followUp] at hv

theorem FollowUp.eq_release {f : FollowUp} (hn : f ≠ .nothing) (hk : f ≠ .kill) : f = .release := by
  cases f <;> simp_all

namespace Cursor

open Program (Ensures Environment)

/-! ## What stays -/

/-- What a cursor is made with, and keeps. -/
structure Setup where
  mode : Mode
  ns : Namespace
  address : Address
  limit : Int
  decode : Decoder
  maxTimeMs : Int
  settings : Settings
  source : Option (Handle Source)
  connection : Option (Handle Connection)

/-- What a cursor was made with. -/
def setup (c : Cursor) : Setup :=
  ⟨c.mode, c.ns, c.address, c.limit, c.decode, c.maxTimeMs, c.settings, c.source, c.connection⟩

theorem forget_of_none {c : Cursor} (h : c.progress.serverCursor = none) : c.forget = c := by
  change { c with progress := { c.progress with serverCursor := none } } = c
  rw [← h]

/-! ## Resources -/

/-- What a handle that is owned gives notice of when it is released. -/
def owed {ρ : Type} (release : ρ → Notice) : Option (Handle ρ) → List Notice
  | some ⟨.owned, resource⟩ => [release resource]
  | _ => []

/-- What the resources of a cursor give notice of when they are released. -/
def dues (c : Cursor) : List Notice :=
  owed .releaseConnection c.connection ++ owed .releaseSource c.source

theorem eq_of_mem_dues {c : Cursor} {n : Notice} (hn : n ∈ dues c) :
    (∃ x, c.connection = some ⟨.owned, x⟩ ∧ n = .releaseConnection x) ∨
      ∃ s, c.source = some ⟨.owned, s⟩ ∧ n = .releaseSource s := by
  rcases List.mem_append.1 hn with hn | hn
  · rcases hx : c.connection with _ | ⟨_ | _, x⟩ <;> simp [owed, hx] at hn
    exact .inl ⟨x, rfl, hn⟩
  · rcases hs : c.source with _ | ⟨_ | _, s⟩ <;> simp [owed, hs] at hn
    exact .inr ⟨s, rfl, hn⟩

/-- Gives notices. -/
def tell : List Notice → Program Cursor Unit
  | [] => pure ()
  | n :: ns => do
    Program.notify n
    tell ns

/-- The resources are released by giving the notices that are due. -/
theorem releaseResources_eq : releaseResources = (do
    let c ← Program.get
    if c.released then pure ()
    else do
      Program.set { c with released := true }
      tell (dues c)) := by
  refine congrArg Program.read (funext fun c => ?_)
  change (if c.released then _ else _) = (if c.released then _ else _)
  split
  · rfl
  · refine congrArg (Program.write { c with released := true }) ?_
    rcases hconnection : c.connection with _ | ⟨_ | _, connection⟩ <;>
      rcases hsource : c.source with _ | ⟨_ | _, source⟩ <;>
      simp only [dues, hconnection, hsource] <;> rfl

section
variable {ω : Type} {env : Environment ω} {cell : Program.Cell ω Cursor}

/-- The world after the owned resources were released. -/
def settle (env : Environment ω) (cell : Program.Cell ω Cursor) (w : ω) : ω :=
  if (cell.load w).released then w
  else (dues (cell.load w)).foldl (fun w n => env.take n w)
    (cell.store { cell.load w with released := true } w)

theorem ensures_tell {Q : Outcome Unit → ω → Prop} {ns : List Notice} : ∀ {w : ω},
    Ensures env cell Q (tell ns) w ↔ Q (.ok ()) (ns.foldl (fun w n => env.take n w) w) := by
  induction ns with
  | nil => exact Iff.rfl
  | cons n ns ih => exact ih

theorem ensures_releaseResources {Q : Outcome Unit → ω → Prop} {w : ω} :
    Ensures env cell Q releaseResources w ↔ Q (.ok ()) (settle env cell w) := by
  rw [releaseResources_eq]
  simp only [Program.ensures_bind, Program.ensures_get, Program.continues_ok]
  unfold settle
  split
  · simp
  · exact ensures_tell

/-- What survives a flag and releases survives the release of the resources. -/
theorem settle_of_releases {P : ω → Prop}
    (hconnection : ∀ x w, P w → P (env.take (.releaseConnection x) w))
    (hsource : ∀ s w, P w → P (env.take (.releaseSource s) w))
    (hflag : ∀ w, P w → P (cell.store { cell.load w with released := true } w)) {w : ω}
    (hw : P w) : P (settle env cell w) := by
  have hall : ∀ (ns : List Notice), (∀ n ∈ ns, ∀ w, P w → P (env.take n w)) →
      ∀ w, P w → P (ns.foldl (fun w n => env.take n w) w) := by
    intro ns hns
    induction ns with
    | nil => exact fun _ hw => hw
    | cons n ns ih =>
      exact fun w hw => ih (fun n' hn' => hns n' (List.mem_cons_of_mem _ hn')) _
        (hns n (List.mem_cons_self ..) w hw)
  unfold settle
  split
  · exact hw
  · refine hall _ (fun n hn => ?_) _ (hflag w hw)
    obtain ⟨x, -, rfl⟩ | ⟨s, -, rfl⟩ := eq_of_mem_dues hn
    · exact hconnection x
    · exact hsource s

/-- What survives a flag and notices survives the release of the resources. -/
theorem settle_of_take {P : ω → Prop} (htake : ∀ n w, P w → P (env.take n w))
    (hflag : ∀ w, P w → P (cell.store { cell.load w with released := true } w)) {w : ω}
    (hw : P w) : P (settle env cell w) :=
  settle_of_releases (fun _ => htake _) (fun _ => htake _) hflag hw

/-! ## Leasing -/

/-- A connection is used as it was given, or leased and then released. -/
theorem ensures_withConnection {α : Type} {Q : Outcome α → ω → Prop}
    {use : Connection → Program Cursor α} {w : ω} :
    Ensures env cell Q (withConnection use) w ↔
      match (cell.load w).connection, (cell.load w).source with
      | some h, _ => Ensures env cell Q (use h.resource) w
      | none, none => Q (.error (.invalid .noSource)) w
      | none, some h => env.demands (.lease h.resource) w ∧
          ∀ a w', env.resumes (.lease h.resource) w a w' → match a with
            | .ok x =>
              Ensures env cell (fun o w => Q o (env.take (.releaseConnection x) w)) (use x) w'
            | .error e => Q (.error e) w' := by
  simp only [withConnection, Program.ensures_bind, Program.ensures_get, Program.continues_ok]
  rcases (cell.load w).connection with _ | h
  · rcases (cell.load w).source with _ | h
    · simp
    · simp only [Program.ensures_bind, Program.lease]
      refine and_congr_right fun _ => forall₃_congr fun a w' _ => ?_
      rcases a with e | x
      · rfl
      · exact Program.ensures_always
  · rfl

/-! ## Kills -/

/-- What is logged before a kill. -/
def killBegins (mode : Mode) (target : ServerCursor) : Notice :=
  let place := s!"cursor {target.id} on {target.address.text}"
  .log .info s!"killing {place}{mode.mark}"

/-- What is logged after a kill that has failed. -/
def killFails (target : ServerCursor) (e : Failure) : Notice :=
  let place := s!"cursor {target.id} on {target.address.text}"
  .log .warning s!"could not kill {place}: {e.message}"

/-- What is logged where a kill is left out. -/
def killSkipped (target : ServerCursor) : Notice :=
  .log .warning (s!"no running event loop to kill cursor {target.id} "
    ++ s!"on {target.address.text}: the kill is skipped")

/-- The request of a kill, over a given connection or one of the cursor's own. -/
def sendKill (ns : Namespace) (target : ServerCursor) : Option Connection → Program Cursor Unit
  | some connection => Program.killCursors connection ns [target.id]
  | none => withConnection (Program.killCursors · ns [target.id])

/-- A kill is logged, and requested once; an ordinary failure of it is only logged. -/
theorem ensures_killCursor {Q : Outcome Unit → ω → Prop} {target : ServerCursor}
    {given : Option Connection} {w : ω} :
    Ensures env cell Q (killCursor target given) w ↔ Ensures env cell
      (fun o w => match o with
        | .ok a => Q (.ok a) w
        | .error e => if e.isOrdinary then Q (.ok ()) (env.take (killFails target e) w)
          else Q (.error e) w)
      (sendKill (cell.load w).ns target given)
      (env.take (killBegins (cell.load w).mode target) w) := by
  have heq : killCursor target given = (do
      let c ← Program.get
      Program.notify (killBegins c.mode target)
      (sendKill c.ns target given).handle fun e => Program.notify (killFails target e)) := by
    cases given <;> rfl
  rw [heq]
  simp only [Program.ensures_bind, Program.ensures_get, Program.continues_ok,
    Program.ensures_notify, Program.ensures_handle]
  refine iff_of_eq (congrArg (fun Q => Ensures env cell Q _ _) (funext₂ fun o w => ?_))
  rcases o with e | a <;> rfl

/-! ## Fetches -/

/-- What a fetch asks for. -/
def fetchExchange (c : Cursor) (connection : Connection) (target : ServerCursor) : Exchange :=
  if connection.server.isAtLeast Server.fetchCommandVersion then
    .command connection c.ns.database (c.getMoreCommand target) false .any
      (Decoder.ofResults c.decode nextBatchField)
  else .getMore connection c.ns target.id c.numberToReturn c.decode

/-- Whether an exchange fetches a batch. -/
def isFetch : Exchange → Bool
  | .command .. | .getMore .. => true
  | _ => false

/-- Whether an exchange is a pause. -/
def isPause : Exchange → Bool
  | .pause _ => true
  | _ => false

theorem isPause_of_isFetch {q : Exchange} (h : isFetch q) : isPause q = false := by
  cases q with
  | pause length => cases h
  | _ => rfl

theorem isFetch_fetchExchange (c : Cursor) (connection : Connection) (target : ServerCursor) :
    isFetch (fetchExchange c connection target) := by
  unfold fetchExchange
  split <;> rfl

/-- What the answer to a fetch comes to; other exchanges bring no batch. -/
def fetched (target : ServerCursor) : (q : Exchange) → Outcome q.Answer → Outcome QueryResult
  | .command connection _ _ _ _ _, answer =>
    (answer.mapError (fetchFailure target)).bind
      (QueryResult.ofGetMoreReply · connection.server.address)
  | .getMore _ _ _ _ _, answer => answer
  | _, _ => .error (.invalid .noBatch)

/-- What is logged before a fetch. -/
def fetchBegins (c : Cursor) (target : ServerCursor) : Notice :=
  let place := s!"cursor {target.id} on {c.ns.fullName}"
  .log .info s!"cursor fetching a batch: {place}{c.mode.mark}"

/-- What is logged after a fetch. -/
def fetchEnds (c : Cursor) (target : ServerCursor) (result : QueryResult) : Notice :=
  let place := s!"cursor {target.id} on {c.ns.fullName}"
  let count := result.results.length
  .log .info s!"cursor finished fetching a batch: {place}, {count} documents{c.mode.mark}"

theorem fetched_command {target : ServerCursor} {connection : Connection} {database : String}
    {command : Document} {secondaryOk : Bool} {names : FieldRule} {decode : Decoder}
    {answer : Outcome Value} :
    fetched target (.command connection database command secondaryOk names decode) answer =
      match answer with
      | .ok reply => QueryResult.ofGetMoreReply reply connection.server.address
      | .error e => .error (fetchFailure target e) := by
  rcases answer with e | reply <;> rfl

theorem fetched_getMore {target : ServerCursor} {connection : Connection} {ns : Namespace}
    {cursorId count : Int} {decode : Decoder} {answer : Outcome QueryResult} :
    fetched target (.getMore connection ns cursorId count decode) answer = answer := rfl

/-- A fetch asks once, between two records. -/
theorem requestBatch_eq (connection : Connection) (target : ServerCursor) :
    requestBatch connection target = (do
      let c ← Program.get
      Program.notify (fetchBegins c target)
      let result ← Program.ask (fetchExchange c connection target) fun answer =>
        .done (fetched target _ answer)
      Program.notify (fetchEnds c target result)
      return result) := by
  refine congrArg Program.read (funext fun c => congrArg (Program.note (fetchBegins c target)) ?_)
  by_cases hv : connection.server.isAtLeast Server.fetchCommandVersion
  · have hq : fetchExchange c connection target =
        .command connection c.ns.database (c.getMoreCommand target) false .any
          (Decoder.ofResults c.decode nextBatchField) := if_pos hv
    simp only [if_pos hv]
    rw [hq]
    refine congrArg (Program.ask _) (funext fun (answer : Outcome Value) => ?_)
    rcases answer with e | reply <;> rfl
  · have hq : fetchExchange c connection target =
        .getMore connection c.ns target.id c.numberToReturn c.decode := if_neg hv
    simp only [if_neg hv]
    rw [hq]
    rfl

/-- A fetch asks once; what comes is logged if it is a batch. -/
theorem ensures_requestBatch {Q : Outcome QueryResult → ω → Prop} {connection : Connection}
    {target : ServerCursor} {w : ω} :
    Ensures env cell Q (requestBatch connection target) w ↔
      env.demands (fetchExchange (cell.load w) connection target)
          (env.take (fetchBegins (cell.load w) target) w) ∧
        ∀ a w', env.resumes (fetchExchange (cell.load w) connection target)
            (env.take (fetchBegins (cell.load w) target) w) a w' →
          match fetched target _ a with
          | .ok result => Q (.ok result) (env.take (fetchEnds (cell.load w) target result) w')
          | .error e => Q (.error e) w' := by
  rw [requestBatch_eq]
  simp only [Program.ensures_bind, Program.ensures_get, Program.ensures_notify,
    Program.continues_ok]
  refine and_congr_right fun _ => forall₃_congr fun a w' _ => ?_
  dsimp only
  rcases fetched target (fetchExchange (cell.load w) connection target) a with e | result <;> rfl

/-! ## Batches -/

/-- What is logged when a batch is absorbed. -/
def dropRecords : Verdict → List Notice
  | .dropped cursor =>
    [.log .info s!"final batch received, dropping cursor {cursor.id} without a kill"]
  | _ => []

/-- What an absorbed batch leaves. -/
def store (c : Cursor) (after : Progress × Verdict) : Program Cursor Verdict := do
  tell (dropRecords after.2)
  Program.set { c with progress := after.1 }
  return after.2

/-- A batch is absorbed under the limit and the batch size as they are then. -/
theorem absorb_eq (result : QueryResult) : absorb result = (do
    let c ← Program.get
    store c (c.progress.advance c.limit c.batchSize result)) := by
  refine congrArg (Program.bind Program.get) (funext fun c => ?_)
  generalize c.progress.advance c.limit c.batchSize result = after
  obtain ⟨progress, verdict⟩ := after
  cases verdict <;> rfl

/-- A batch is absorbed at once, after a record if its server cursor is dropped. -/
theorem ensures_absorb_iff {Q : Outcome Verdict → ω → Prop} {result : QueryResult} {w : ω}
    {after : Progress × Verdict}
    (h : (cell.load w).progress.advance (cell.load w).limit (cell.load w).batchSize result
      = after) :
    Ensures env cell Q (absorb result) w ↔
      Q (.ok after.2) (cell.store { cell.load w with progress := after.1 }
        ((dropRecords after.2).foldl (fun w n => env.take n w) w)) := by
  rw [absorb_eq]
  simp only [store, Program.ensures_bind, Program.ensures_get, Program.continues_ok, h,
    ensures_tell, Program.ensures_set, Program.ensures_pure]

/-- A batch is absorbed at once, at most after a record of it. -/
theorem ensures_absorb {Q : Outcome Verdict → ω → Prop} {result : QueryResult} {w : ω}
    (h : ∀ w₁, (w₁ = w ∨ ∃ message, w₁ = env.take (.log .info message) w) →
      Q (.ok ((cell.load w).progress.advance (cell.load w).limit (cell.load w).batchSize result).2)
        (cell.store { cell.load w with progress :=
          ((cell.load w).progress.advance (cell.load w).limit (cell.load w).batchSize result).1 }
          w₁)) :
    Ensures env cell Q (absorb result) w := by
  refine (ensures_absorb_iff rfl).2 (h _ ?_)
  cases ((cell.load w).progress.advance (cell.load w).limit (cell.load w).batchSize result).2 with
  | dropped cursor => exact .inr ⟨_, rfl⟩
  | _ => exact .inl rfl

/-- The same where it does not matter what exactly the batch makes of the progress. -/
theorem ensures_absorb_of {Q : Outcome Verdict → ω → Prop} {result : QueryResult} {w : ω}
    (h : ∀ after v w₁, (cell.load w).progress.Advances (cell.load w).limit (cell.load w).batchSize
        result after v →
      (w₁ = w ∨ ∃ message, w₁ = env.take (.log .info message) w) →
      Q (.ok v) (cell.store { cell.load w with progress := after } w₁)) :
    Ensures env cell Q (absorb result) w :=
  ensures_absorb fun w₁ hw₁ => h _ _ w₁ (Progress.advances ..) hw₁

/-- What a fetch does with the batch that has come. -/
def follow (connection : Connection) (result : QueryResult) : Program Cursor Verdict := do
  let c ← Program.get
  if c.closed then Program.fail (.cursorClosed .fetching)
  else do
    let verdict ← absorb result
    match verdict.followUp with
    | .kill => killHeld (some connection)
    | _ => pure ()
    return verdict

theorem fetchOver_eq (target : ServerCursor) (connection : Connection) :
    fetchOver target connection = (requestBatch connection target >>= follow connection) := rfl

/-- The batch at hand is handed out. -/
theorem ensures_takeBatch {Q : Outcome (List Value) → ω → Prop} {w : ω} :
    Ensures env cell Q takeBatch w ↔ match (cell.load w).progress.nextBatch with
      | none => Q (.error (.invalid .noBatch)) w
      | some batch => Q (.ok batch) (cell.store { cell.load w with
          progress := { (cell.load w).progress with nextBatch := none } } w) := by
  simp only [takeBatch, Program.ensures_bind, Program.ensures_get, Program.continues_ok,
    Program.ensures_ofValid, Progress.takeBatch]
  rcases (cell.load w).progress.nextBatch with _ | batch <;> rfl

/-! ## Retrievals -/

theorem ensures_ensureOpen {Q : Outcome Unit → ω → Prop} {w : ω} : Ensures env cell Q ensureOpen w ↔
    Q (if (cell.load w).closed then .error (.cursorClosed .before) else .ok ()) w := by
  change Ensures env cell Q (if (cell.load w).closed then _ else _) w ↔ _
  split <;> exact Iff.rfl

/-- A pause is asked for, unless its length overflows; then an interruption is raised, or that the
    cursor was closed. -/
theorem ensures_waitBeforeRetry {Q : Outcome Unit → ω → Prop} {w : ω} :
    Ensures env cell Q waitBeforeRetry w ↔
      match Duration.ofInterval (cell.load w).settings.pollInterval with
      | .error e => Q (.error e) w
      | .ok length => env.demands (.pause length) w ∧
          ∀ x w', env.resumes (.pause length) w x w' → match x with
            | .error e => Q (.error e) w'
            | .ok _ =>
              if (cell.load w').interrupted then
                Q (.error .interrupted) (cell.store { cell.load w' with interrupted := false } w')
              else if (cell.load w').closed then Q (.error (.cursorClosed .waiting)) w'
              else Q (.ok ()) w' := by
  change Ensures env cell Q
    (Program.ofOutcome (Duration.ofInterval (cell.load w).settings.pollInterval) >>= _) w ↔ _
  rcases Duration.ofInterval (cell.load w).settings.pollInterval with e | length
  · exact Iff.rfl
  refine and_congr_right fun _ => forall₃_congr fun x w' _ => ?_
  rcases x with e | _
  · exact Iff.rfl
  change Ensures env cell Q
    (if (cell.load w').interrupted then _ else if (cell.load w').closed then _ else _) w' ↔ _
  split
  · exact Iff.rfl
  · split <;> exact Iff.rfl

/-- Whether a batch is at hand, or none can come. -/
def isSettled (c : Cursor) : Bool := c.hasBatch || c.isExhausted

theorem isSettled_eq_false_iff {c : Cursor} :
    c.isSettled = false ↔ c.hasBatch = false ∧ c.isExhausted = false :=
  Bool.or_eq_false_iff

theorem isSettled_of_none {c : Cursor} (h : c.progress.serverCursor = none) : c.isSettled := by
  simp [isSettled, isExhausted, h]

/-- A fetch, unless it is settled what comes. -/
def fetchUnlessSettled : Program Cursor Unit := do
  let c ← Program.get
  if c.isSettled then pure () else fetch

/-- The pause between two fetches, unless it is settled what comes. -/
def pauseUnlessSettled : Program Cursor Unit := do
  let c ← Program.get
  if c.isSettled then pure () else waitBeforeRetry

/-- Hands out the batch at hand, if there is one. -/
def handOut : Program Cursor (Option (List Value)) := do
  let c ← Program.get
  if c.hasBatch then do
    let documents ← takeBatch
    return some documents
  else return none

theorem awaitBatch_succ (rounds : Nat) : awaitBatch (rounds + 1) = (do
    let c ← Program.get
    if c.hasBatch then pure .ready
    else if c.isExhausted then pure .ended
    else do
      fetch
      pauseUnlessSettled
      awaitBatch rounds) := by
  refine congrArg Program.read (funext fun c => ?_)
  change (if c.hasBatch then _ else _) = (if c.hasBatch then _ else _)
  split
  · rfl
  split
  · rfl
  refine congrArg (Program.bind fetch) (funext fun _ => congrArg Program.read (funext fun c => ?_))
  change (if c.isSettled then _ else _) = Program.bind (if c.isSettled then _ else _) _
  split <;> rfl

theorem tryNext_eq : tryNext = (do ensureOpen; fetchUnlessSettled; handOut) := by
  refine congrArg (Program.bind ensureOpen)
    (funext fun _ => congrArg Program.read (funext fun c => ?_))
  change (if c.isSettled then _ else _) = Program.bind (if c.isSettled then _ else _) _
  split <;> rfl

end

/-! ## Making -/

/-- A plan comes to a cursor that has done nothing yet. -/
theorem exists_of_ofPlan {mode : Mode} {plan : Plan} {c : Cursor} (h : ofPlan mode plan = .ok c) :
    ∃ settings, c =
      { mode := mode, ns := plan.first.ns, address := plan.first.address, limit := plan.limit,
        batchSize := plan.batchSize, decode := plan.decode, maxTimeMs := plan.maxTimeMs,
        settings := settings, source := plan.source, connection := plan.connection } := by
  unfold ofPlan at h
  split at h
  · cases h
  · rcases hs : Settings.default.overriddenBy plan.overrides with e | settings
    · simp [hs, bind, Except.bind] at h
    · simp only [hs, bind, Except.bind, pure, Except.pure, Except.ok.injEq] at h
      exact ⟨settings, h.symm⟩

/-- What a cursor takes over from its plan. -/
structure Planned (mode : Mode) (plan : Plan) (c : Cursor) : Prop where
  mode : c.mode = mode
  limit : c.limit = plan.limit
  source : c.source = plan.source
  connection : c.connection = plan.connection

theorem planned_of_ofPlan {mode : Mode} {plan : Plan} {c : Cursor}
    (h : ofPlan mode plan = .ok c) : Planned mode plan c := by
  obtain ⟨settings, rfl⟩ := exists_of_ofPlan h
  exact ⟨rfl, rfl, rfl, rfl⟩

/-- It keeps what it has taken over. -/
theorem Planned.kept {mode : Mode} {plan : Plan} {c c' : Cursor} (h : Planned mode plan c)
    (hs : c'.setup = c.setup) : Planned mode plan c' where
  mode := (congrArg Setup.mode hs).trans h.mode
  limit := (congrArg Setup.limit hs).trans h.limit
  source := (congrArg Setup.source hs).trans h.source
  connection := (congrArg Setup.connection hs).trans h.connection

/-- A plan with a server cursor has a source. -/
theorem isSome_source_of_ofPlan {mode : Mode} {plan : Plan} {c : Cursor}
    (h : ofPlan mode plan = .ok c) (hs : plan.first.cursor.isSome) : plan.source.isSome := by
  unfold ofPlan at h
  split at h
  · cases h
  · rename_i hn
    simpa [hs, Option.isSome_iff_ne_none] using hn

end Cursor

end DocumentClient
