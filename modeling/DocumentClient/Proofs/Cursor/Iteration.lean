/-
  Going over all the batches of a cursor.

  `iterate` calls `next` until it signals the end, and assigns batch sizes between the
  calls.  `Due` is its invariant: the documents that are still to be handed out are those
  of the batch at hand, and then as many of those left on the server as the limit admits.
  A fetch keeps it and settles what `next` returns (`runs_fetch`), so that `next` never
  has to wait; each call takes a batch off the documents that are due.

  `iterated_of_serves`: on a world that serves the cursor, all documents up to the limit
  come, in order, whatever the batch sizes.
-/
import DocumentClient.Proofs.Cursor.Serving

namespace DocumentClient.Cursor

open Program (Ensures Environment Interpreter interpret)

/-- Calls `next` up to the end, once for each turn at most.  The batch sizes of a turn are
    assigned before its call. -/
def iterate (rounds : Nat) :
    (turns : List (List Int)) → Program Cursor (List (List Value) × Retrieval)
  | [] => pure ([], .pending)
  | sizes :: turns => do
    sizes.forM setBatchSize
    match ← next rounds with
    | .batch documents => do
      let (batches, last) ← iterate rounds turns
      return (documents :: batches, last)
    | last => return ([], last)

/-- Makes a cursor and goes over its batches. -/
def goOver {σ : Type} (mode : Mode) (plan : Plan) (loopRuns : Bool) (rounds : Nat)
    (turns : List (List Int)) : Program σ (List (List Value) × Retrieval) := do
  let c ← create mode plan loopRuns
  let (yield, _) ← Program.within c (iterate rounds turns)
  return yield

/-! ## Runs beside a world -/

section
variable {ω : Type} {α β : Type}

/-- What a program on a cursor of its own ensures, run on a world. -/
abbrev Runs (i : Interpreter ω) (Q : Outcome α → Cursor × ω → Prop) (p : Program Cursor α)
    (w : Cursor × ω) : Prop :=
  Ensures (i.environment.beside Cursor) (Program.Cell.own Cursor ω) Q p w

variable {i : Interpreter ω} {shelf : Shelf ω} {f : Value → Value} {c : Cursor} {u : ω}

/-- The world answers, and the cursor stays as it is. -/
theorem eq_of_resumes {q : Exchange} {a : Outcome q.Answer} {w' : Cursor × ω}
    (h : (i.environment.beside Cursor).resumes q (c, u) a w') :
    a = (i.answer q u).1 ∧ w' = (c, (i.answer q u).2) :=
  ⟨h.2.1, Prod.ext h.1 h.2.2⟩

/-- The release of the resources changes nothing else of a cursor. -/
theorem settle_own : (settle (i.environment.beside Cursor) (Program.Cell.own Cursor ω) (c, u)).1
    = { c with released := true } := by
  have hfold : ∀ (ns : List Notice) (w : Cursor × ω),
      (ns.foldl (fun w n => (i.environment.beside Cursor).take n w) w).1 = w.1 := by
    intro ns
    induction ns with
    | nil => exact fun _ => rfl
    | cons n ns ih => exact fun w => ih _
  unfold settle
  split
  · rename_i hr
    have hr : c.released = true := hr
    exact congrArg (fun r => { c with released := r }) hr
  · exact hfold _ _

theorem runs_releaseResources {Q : Outcome Unit → Cursor × ω → Prop}
    (h : ∀ u', Q (.ok ()) ({ c with released := true }, u')) :
    Runs i Q releaseResources (c, u) := by
  refine ensures_releaseResources.2 ?_
  have hcursor := settle_own (i := i) (c := c) (u := u)
  generalize settle (i.environment.beside Cursor) (Program.Cell.own Cursor ω) (c, u) = w
    at hcursor ⊢
  obtain ⟨c', u'⟩ := w
  obtain rfl : c' = _ := hcursor
  exact h u'

/-- A connection can be used, be it given or leased. -/
theorem runs_withConnection (hi : Supplies c.setup i shelf) {rest : List Value} {id : Int}
    (hw : shelf.holds rest id u) {P Q : Outcome α → Cursor × ω → Prop}
    {use : Connection → Program Cursor α}
    (huse : ∀ x u', shelf.holds rest id u' → shelf.opens x u' → Runs i P (use x) (c, u'))
    (hgiven : ∀ o w, P o w → Q o w)
    (hback : ∀ o w x, c.connection = none → P o w → Q o (w.1, i.take (.releaseConnection x) w.2))
    (hnone : c.connection = none → c.source = none → Q (.error (.invalid .noSource)) (c, u)) :
    Runs i Q (withConnection use) (c, u) := by
  refine ensures_withConnection.2 ?_
  simp only [Program.Cell.own_load]
  split
  · rename_i h _ hc
    exact Program.ensures_mono hgiven (huse _ u hw (hi.given hc hw))
  · rename_i hc hs
    exact hnone hc hs
  · rename_i h hc hs
    refine ⟨trivial, fun a w' hw' => ?_⟩
    obtain ⟨rfl, rfl⟩ := eq_of_resumes hw'
    obtain ⟨x, hx, hw', hopens⟩ := hi.lease hc hs hw
    rw [hx]
    exact Program.ensures_mono (fun o w h => hback o w x hc h) (huse x _ hw' hopens)

/-! ## Kills -/

theorem runs_sendKill (hi : Supplies c.setup i shelf) (hlimit : c.limit ≠ 0) (x : Connection)
    (ids : List Int) :
    Runs i (fun o w' => (∀ e, o = .error e → e.isOrdinary) ∧ w'.1 = c)
      (Program.killCursors x c.ns ids) (c, u) := by
  refine ⟨trivial, fun a w' hw' => ?_⟩
  obtain ⟨rfl, rfl⟩ := eq_of_resumes hw'
  exact ⟨fun e he => hi.kill hlimit he, rfl⟩

/-- A kill that fails is logged. -/
theorem runs_killCursor (hi : Supplies c.setup i shelf) (hlimit : c.limit ≠ 0)
    (target : ServerCursor) (given : Option Connection)
    (hlease : given = none → ∃ rest id, shelf.holds rest id u) :
    Runs i (fun o w' => o = .ok () ∧ w'.1 = c) (killCursor target given) (c, u) := by
  refine Program.ensures_bind.2 (Program.ensures_bind.2 (Program.ensures_handle.2 ?_))
  refine Program.ensures_mono (Q := fun o w' => (∀ e, o = .error e → e.isOrdinary) ∧ w'.1 = c)
    ?_ ?_
  · rintro (e | _) w' ⟨hordinary, hcursor⟩
    · simp only [hordinary e rfl, if_true]
      exact ⟨rfl, hcursor⟩
    · exact ⟨rfl, hcursor⟩
  rcases given with _ | x
  · obtain ⟨rest, id, hw⟩ := hlease rfl
    refine runs_withConnection hi (hi.log _ _ hw) (fun x u' _ _ => runs_sendKill hi hlimit x _)
      (fun _ _ h => h) (fun _ _ _ _ h => h) fun _ _ => ⟨fun e he => ?_, rfl⟩
    cases he
    rfl
  · exact runs_sendKill hi hlimit x _

/-- The server cursor is forgotten and killed. -/
theorem runs_killHeld (hi : Supplies c.setup i shelf) (hlimit : c.limit ≠ 0)
    (given : Option Connection) (hlease : given = none → ∃ rest id, shelf.holds rest id u) :
    Runs i (fun o w' => o = .ok () ∧ w'.1 = c.forget) (killHeld given) (c, u) := by
  simp only [killHeld, Runs, Program.ensures_bind, Program.ensures_get, Program.continues_ok,
    Program.Cell.own_load]
  split
  · rename_i hs
    exact ⟨rfl, (forget_of_none hs).symm⟩
  · exact runs_killCursor (c := c.forget) hi hlimit _ given hlease

/-! ## What is due -/

/-- What will be fetched from now on, decoded. -/
inductive Owes (shelf : Shelf ω) (f : Value → Value) (c : Cursor) (u : ω) : List Value → Prop where
  | spent (hs : c.progress.serverCursor = none) : Owes shelf f c u []
  | alive {target : ServerCursor} {rest : List Value} (hs : c.progress.serverCursor = some target)
      (hsource : c.source.isSome) (hl : limitReached c.limit c.progress.delivered = false)
      (hw : shelf.holds rest target.id u) (hf : ∀ d ∈ rest, c.decode d = .ok (f d)) :
      Owes shelf f c u ((upTo c.limit c.progress.delivered rest).map f)

/-- What is owed depends on the setup, the server cursor and the number of documents so far. -/
theorem Owes.moved {more : List Value} (h : Owes shelf f c u more) {c' : Cursor} {u' : ω}
    (hsetup : c'.setup = c.setup)
    (hserver : c'.progress.serverCursor = c.progress.serverCursor)
    (hdelivered : c'.progress.delivered = c.progress.delivered)
    (hu : ∀ {rest id}, shelf.holds rest id u → shelf.holds rest id u') :
    Owes shelf f c' u' more := by
  have hlimit : c'.limit = c.limit := congrArg Setup.limit hsetup
  have hsources : c'.source = c.source := congrArg Setup.source hsetup
  have hdecode : c'.decode = c.decode := congrArg Setup.decode hsetup
  cases h with
  | spent hs => exact .spent (hserver.trans hs)
  | alive hs hsource hl hw hf =>
    rw [← hlimit, ← hdelivered] at hl ⊢
    rw [← hsources] at hsource
    rw [← hdecode] at hf
    exact .alive (hserver.trans hs) hsource hl (hu hw) hf

/-- What is handed out from now on. -/
structure Due (s : Setup) (shelf : Shelf ω) (f : Value → Value) (wanted : List Value)
    (w : Cursor × ω) : Prop where
  setup : w.1.setup = s
  open_ : w.1.closed = false
  size : 0 ≤ w.1.batchSize
  filled : w.1.progress.nextBatch ≠ some []
  owed : ∃ more, Owes shelf f w.1 w.2 more ∧ wanted = w.1.progress.nextBatch.getD [] ++ more

variable {s : Setup} {wanted : List Value}

/-- Without a server cursor nothing but the batch at hand is due. -/
theorem Due.of_spent (hsetup : c.setup = s) (hopen : c.closed = false) (hsize : 0 ≤ c.batchSize)
    (hs : c.progress.serverCursor = none) (hfilled : c.progress.nextBatch ≠ some []) :
    Due s shelf f (c.progress.nextBatch.getD []) (c, u) :=
  ⟨hsetup, hopen, hsize, hfilled, [], .spent hs, (List.append_nil _).symm⟩

/-- A batch was absorbed, and perhaps more is to be done about the server cursor. -/
structure Absorbed (s : Setup) (shelf : Shelf ω) (f : Value → Value) (result : QueryResult)
    (left : List Value) (v : Verdict) (w : Cursor × ω) : Prop where
  setup : w.1.setup = s
  open_ : w.1.closed = false
  size : 0 ≤ w.1.batchSize
  filled : w.1.progress.nextBatch ≠ some []
  atHand : w.1.progress.nextBatch.getD [] = result.results
  holds : shelf.holds left result.cursorId w.2
  going : v.followUp = .nothing → result.cursorId ≠ 0 ∧
    Owes shelf f w.1 w.2 ((upTo s.limit w.1.progress.delivered left).map f)
  beyond : v.followUp ≠ .nothing → upTo s.limit w.1.progress.delivered left = []
  gone : v.followUp = .release → w.1.progress.serverCursor = none
  limited : v.followUp = .kill → s.limit ≠ 0

/-- A batch is absorbed while the server keeps the documents that are left. -/
theorem runs_absorb (hi : Supplies c.setup i shelf) (hlimit : 0 ≤ c.limit)
    (hopen : c.closed = false) (hsize : 0 ≤ c.batchSize) {result : QueryResult} {left : List Value}
    (hsource : result.cursorId ≠ 0 → c.source.isSome)
    (hleft : result.cursorId = 0 → left = []) (hw : shelf.holds left result.cursorId u)
    (hf : ∀ d ∈ left, c.decode d = .ok (f d)) :
    Runs i (fun o w' => ∃ v, o = .ok v ∧ Absorbed c.setup shelf f result left v w' ∧
      w'.1.progress.delivered = c.progress.delivered + result.results.length)
      (absorb result) (c, u) := by
  refine ensures_absorb_of fun p v w₁ ⟨hfate, hdelivered, hfilled, hatHand⟩ hw₁ => ⟨_, rfl, ?_⟩
  obtain ⟨u₁, rfl, hu₁⟩ : ∃ u₁, w₁ = (c, u₁) ∧ shelf.holds left result.cursorId u₁ := by
    rcases hw₁ with rfl | ⟨message, rfl⟩
    · exact ⟨u, rfl, hw⟩
    · exact ⟨_, rfl, hi.log _ _ hw⟩
  refine ⟨⟨rfl, hopen, hsize, hfilled, hatHand, hu₁, fun hv => ?_, fun hv => ?_, hfate.gone,
    fun hv hzero => ?_⟩, hdelivered⟩
  · cases hfate with
    | kept h hl _ hs =>
      have hid : result.cursorId ≠ 0 := fun hzero => by
        simp [QueryResult.cursor_eq_none.2 hzero] at h
      exact ⟨hid, .alive hs (hsource hid) hl (QueryResult.id_of_cursor h ▸ hu₁) hf⟩
    | _ => simp [Verdict.followUp] at hv
  · cases hfate with
    | ended h _ =>
      rw [hleft (QueryResult.cursor_eq_none.1 h)]
      exact upTo_nil _ _
    | limitReached _ hl _ => exact upTo_of_limitReached hlimit hl left
    | dropped _ _ hfinal _ => simp [isFinalBatch_of_nonneg hlimit hsize] at hfinal
    | kept => simp [Verdict.followUp] at hv
  · have hlimit : c.limit = 0 := hzero
    cases hfate with
    | limitReached _ hl _ => simp [DocumentClient.limitReached, hlimit] at hl
    | _ => simp [Verdict.followUp] at hv

/-- What is due once a batch was absorbed. -/
def dueAfter (f : Value → Value) (result : QueryResult) (left : List Value) (c : Cursor) :
    List Value :=
  result.results ++ (upTo c.limit c.progress.delivered left).map f

variable {result : QueryResult} {left : List Value} {v : Verdict}

/-- The server cursor stays in use. -/
theorem Absorbed.due (h : Absorbed s shelf f result left v (c, u)) (hv : v.followUp = .nothing) :
    Due s shelf f (dueAfter f result left c) (c, u) := by
  have hlimit : s.limit = c.limit := by rw [← h.setup]; rfl
  have howes := (h.going hv).2
  rw [hlimit] at howes
  exact ⟨h.setup, h.open_, h.size, h.filled, _, howes, by rw [dueAfter, h.atHand]⟩

/-- The server cursor is not in use any more. -/
theorem Absorbed.due_spent (h : Absorbed s shelf f result left v (c, u))
    (hv : v.followUp ≠ .nothing)
    {c' : Cursor} {u' : ω} (hsetup : c'.setup = c.setup) (hclosed : c'.closed = c.closed)
    (hsize : c'.batchSize = c.batchSize) (hs : c'.progress.serverCursor = none)
    (hbatch : c'.progress.nextBatch = c.progress.nextBatch) :
    Due s shelf f (dueAfter f result left c) (c', u') := by
  have hlimit : s.limit = c.limit := by rw [← h.setup]; rfl
  have hbeyond := h.beyond hv
  rw [hlimit] at hbeyond
  have hdue : dueAfter f result left c = c'.progress.nextBatch.getD [] := by
    rw [dueAfter, hbeyond, hbatch, h.atHand, List.map_nil, List.append_nil]
  rw [hdue]
  exact .of_spent (hsetup.trans h.setup) (hclosed.trans h.open_) (hsize ▸ h.size) hs
    (hbatch ▸ h.filled)

/-! ## Fetching -/

theorem isSettled_of_spent (hs : c.progress.serverCursor = none) : c.isSettled := by
  simp [isSettled, isExhausted, hs]

/-- What is due is at hand, or nothing is. -/
structure Brought (s : Setup) (shelf : Shelf ω) (f : Value → Value) (wanted : List Value)
    (v : Verdict) (w : Cursor × ω) : Prop where
  due : Due s shelf f wanted w
  settled : w.1.isSettled
  gone : v.followUp ≠ .nothing → w.1.progress.serverCursor = none

/-- The batch that has come is absorbed, and its server cursor killed if it is not needed. -/
theorem runs_follow (hi : Supplies c.setup i shelf) (hlimit : 0 ≤ c.limit)
    (hopen : c.closed = false) (hsize : 0 ≤ c.batchSize) (hsource : c.source.isSome)
    (hleft : result.cursorId = 0 → left = []) (hempty : result.results = [] → result.cursorId = 0)
    (hw : shelf.holds left result.cursorId u) (hf : ∀ d ∈ left, c.decode d = .ok (f d))
    (x : Connection) :
    Runs i (fun o w' => ∃ v, o = .ok v ∧ Brought c.setup shelf f (result.results ++
        (upTo c.limit (c.progress.delivered + result.results.length) left).map f) v w')
      (follow x result) (c, u) := by
  have habsorb := runs_absorb hi hlimit hopen hsize (fun _ => hsource) hleft hw hf
  simp only [follow, Runs, Program.ensures_bind, Program.ensures_get, Program.continues_ok,
    Program.Cell.own_load, hopen, Bool.false_eq_true, if_false]
  refine Program.ensures_mono ?_ habsorb
  rintro _ ⟨c₁, u₁⟩ ⟨v, rfl, h, hdelivered⟩
  have hlimit₁ : c₁.limit = c.limit := congrArg Setup.limit h.setup
  have hwanted : result.results ++
      (upTo c.limit (c.progress.delivered + result.results.length) left).map f
        = dueAfter f result left c₁ := by
    rw [dueAfter, hlimit₁, hdelivered]
  rw [hwanted, Program.continues_ok]
  split
  · rename_i hv
    refine Program.ensures_bind.2 (Program.ensures_mono ?_
      (runs_killHeld (h.setup ▸ hi) (hlimit₁ ▸ h.limited hv) (some x) (by simp)))
    rintro _ ⟨c₂, u₂⟩ ⟨rfl, hc₂⟩
    obtain rfl : c₂ = c₁.forget := hc₂
    have hne : v.followUp ≠ .nothing := by simp [hv]
    exact ⟨v, rfl, h.due_spent hne rfl rfl rfl rfl rfl, isSettled_of_spent rfl, fun _ => rfl⟩
  · rename_i hkill
    by_cases hv : v.followUp = .nothing
    · refine ⟨v, rfl, h.due hv, ?_, fun hne => absurd hv hne⟩
      have hresults : result.results ≠ [] := fun hnil => (h.going hv).1 (hempty hnil)
      have hatHand : c₁.progress.nextBatch.getD [] = result.results := h.atHand
      rcases hb : c₁.progress.nextBatch with _ | batch
      · rw [hb] at hatHand
        exact absurd hatHand.symm hresults
      · simp [isSettled, hasBatch, hb]
    · have hs := h.gone (FollowUp.eq_release hv hkill)
      exact ⟨v, rfl, h.due_spent hv rfl rfl rfl hs rfl, isSettled_of_spent hs, fun _ => hs⟩

/-- A fetch brings a batch, and is over with it. -/
theorem runs_fetchOver (hi : Supplies c.setup i shelf) (hlimit : 0 ≤ c.limit)
    (hopen : c.closed = false) (hsize : 0 ≤ c.batchSize) (hsource : c.source.isSome)
    (hl : limitReached c.limit c.progress.delivered = false) {target : ServerCursor}
    {rest : List Value} (hw : shelf.holds rest target.id u)
    (hf : ∀ d ∈ rest, c.decode d = .ok (f d)) {x : Connection} (hx : shelf.opens x u) :
    Runs i (fun o w' => ∃ v, o = .ok v ∧ Brought c.setup shelf f
        ((upTo c.limit c.progress.delivered rest).map f) v w')
      (fetchOver target x) (c, u) := by
  rw [fetchOver_eq]
  have hbegun : shelf.holds rest target.id (i.take (fetchBegins c target) u) := hi.log .info _ hw
  obtain ⟨result, batch, left, hfetched, hresults, hprovides, hleft⟩ :=
    hi.fetched rfl hbegun (hi.logOpens .info _ hx) hsize hl hf
  refine Program.ensures_bind.2 (ensures_requestBatch.2 ⟨trivial, fun a w' hw' => ?_⟩)
  obtain ⟨ha, rfl⟩ := eq_of_resumes hw'
  dsimp only [Program.Cell.own_load] at a ha ⊢
  have hfetched : fetched target (fetchExchange c x target) a = .ok result := by
    rw [ha]
    exact hfetched
  rw [hfetched]
  have hempty : result.results = [] → result.cursorId = 0 := fun hnil =>
    hprovides.filled (List.map_eq_nil_iff.1 (hresults ▸ hnil))
  have hwanted : (upTo c.limit c.progress.delivered rest).map f = result.results ++
      (upTo c.limit (c.progress.delivered + result.results.length) left).map f := by
    rw [hprovides.upTo_eq hlimit, List.map_append, hresults, List.length_map]
  rw [hwanted]
  refine runs_follow hi hlimit hopen hsize hsource hprovides.alive hempty (hi.log .info _ hleft)
    (fun d hd => hf d ?_) x
  rw [hprovides.order]
  exact List.mem_append_right batch hd

/-- A leased connection is given back after the fetch. -/
theorem Brought.giveBack (hi : Supplies s i shelf) (hconnection : s.connection = none)
    {w : Cursor × ω} (h : Brought s shelf f wanted v w) (x : Connection) :
    Brought s shelf f wanted v (w.1, i.take (.releaseConnection x) w.2) := by
  refine ⟨?_, h.settled, h.gone⟩
  obtain ⟨more, howes, hwanted⟩ := h.due.owed
  exact { h.due with owed := ⟨more, howes.moved rfl rfl rfl (hi.giveBack hconnection), hwanted⟩ }

/-- The resources are released once the server cursor is gone. -/
theorem Due.released (h : Due s shelf f wanted (c, u)) (hs : c.progress.serverCursor = none)
    (u' : ω) : Due s shelf f wanted ({ c with released := true }, u') := by
  obtain ⟨more, howes, hwanted⟩ := h.owed
  refine ⟨h.setup, h.open_, h.size, h.filled, more, ?_, hwanted⟩
  cases howes with
  | spent => exact .spent hs
  | alive hs' => simp [hs] at hs'

/-- A fetch settles what comes next. -/
theorem runs_fetch (hi : Supplies s i shelf) (hlimit : 0 ≤ s.limit)
    (h : Due s shelf f wanted (c, u)) (hn : c.progress.nextBatch = none)
    (hs : c.progress.serverCursor ≠ none) :
    Runs i (fun o w' => o = .ok () ∧ Due s shelf f wanted w' ∧ w'.1.isSettled) fetch (c, u) := by
  obtain ⟨more, howes, hwanted⟩ : ∃ more, Owes shelf f c u more ∧
    wanted = c.progress.nextBatch.getD [] ++ more := h.owed
  obtain rfl : c.setup = s := h.setup
  cases howes with
  | spent hs' => exact absurd hs' hs
  | @alive target rest hs hsource hl hw hf =>
    obtain rfl : wanted = (upTo c.limit c.progress.delivered rest).map f := by
      simpa [hn] using hwanted
    simp only [fetch, Runs, Program.ensures_bind, Program.ensures_get, Program.continues_ok,
      Program.Cell.own_load, hs, Program.ensures_attempt]
    refine Program.ensures_mono ?_ (runs_withConnection hi hw
      (P := fun o w' => ∃ v, o = .ok v ∧ Brought c.setup shelf f _ v w')
      (fun x u' hu' hx => runs_fetchOver hi hlimit h.open_ h.size hsource hl hu' hf hx)
      (fun _ _ h => h) ?_ ?_)
    · rintro _ ⟨c₁, u₁⟩ ⟨v, rfl, hv⟩
      dsimp only
      split
      · exact ⟨rfl, hv.due, hv.settled⟩
      · rename_i hne
        have hs₁ : c₁.progress.serverCursor = none := hv.gone hne
        exact runs_releaseResources fun u' => ⟨rfl, hv.due.released hs₁ u', hv.settled⟩
    · rintro _ w x hconnection ⟨v, rfl, hv⟩
      exact ⟨v, rfl, hv.giveBack hi hconnection x⟩
    · intro _ hnone
      simp [hnone] at hsource

/-! ## Retrieving -/

/-- Where it is settled what comes, a look is enough. -/
theorem runs_awaitBatch_settled (h : Due s shelf f wanted (c, u)) (hsettled : c.isSettled)
    (rounds : Nat) :
    Runs i (fun o w' => w' = (c, u) ∧ ((o = .ok .ready ∧ c.hasBatch) ∨
      (o = .ok .ended ∧ wanted = []))) (awaitBatch (rounds + 1)) (c, u) := by
  rw [awaitBatch_succ]
  simp only [Runs, Program.ensures_bind, Program.ensures_get, Program.continues_ok,
    Program.Cell.own_load]
  split
  · rename_i hb
    exact ⟨rfl, .inl ⟨rfl, hb⟩⟩
  rename_i hb
  have hexhausted : c.isExhausted = true := by
    simpa [isSettled, eq_false_of_ne_true hb] using hsettled
  rw [if_pos hexhausted]
  obtain ⟨more, howes, hwanted⟩ : ∃ more, Owes shelf f c u more ∧
    wanted = c.progress.nextBatch.getD [] ++ more := h.owed
  refine ⟨rfl, .inr ⟨rfl, ?_⟩⟩
  have hn : c.progress.nextBatch = none := by simpa [hasBatch] using hb
  cases howes with
  | spent => simpa [hn] using hwanted
  | alive hs _ hl =>
    simp [isExhausted, hs, hl] at hexhausted

theorem runs_awaitBatch (hi : Supplies s i shelf) (hlimit : 0 ≤ s.limit)
    (h : Due s shelf f wanted (c, u)) (rounds : Nat) :
    Runs i (fun o w' => Due s shelf f wanted w' ∧ ((o = .ok .ready ∧ w'.1.hasBatch) ∨
      (o = .ok .ended ∧ wanted = []))) (awaitBatch (rounds + 2)) (c, u) := by
  rcases hsettled : c.isSettled with _ | _
  · simp only [isSettled, Bool.or_eq_false_iff] at hsettled
    have hn : c.progress.nextBatch = none := by simpa [hasBatch] using hsettled.1
    have hs : c.progress.serverCursor ≠ none := fun hnone => by
      simp [isExhausted, hnone] at hsettled
    rw [awaitBatch_succ]
    simp only [Runs, Program.ensures_bind, Program.ensures_get, Program.continues_ok,
      Program.Cell.own_load, hsettled, Bool.false_eq_true, if_false]
    refine Program.ensures_mono ?_ (runs_fetch hi hlimit h hn hs)
    rintro _ ⟨c₁, u₁⟩ ⟨rfl, h₁, hsettled₁⟩
    have hpause : Runs i (fun o w' => o = .ok () ∧ w' = (c₁, u₁)) pauseUnlessSettled (c₁, u₁) := by
      simp only [pauseUnlessSettled, Runs, Program.ensures_bind, Program.ensures_get,
        Program.continues_ok, Program.Cell.own_load, hsettled₁, if_true]
      exact ⟨rfl, rfl⟩
    refine Program.ensures_bind.2 (Program.ensures_mono ?_ hpause)
    rintro _ _ ⟨rfl, rfl⟩
    refine Program.ensures_mono ?_ (runs_awaitBatch_settled h₁ hsettled₁ rounds)
    rintro o _ ⟨rfl, hcomes⟩
    exact ⟨h₁, hcomes⟩
  · refine Program.ensures_mono ?_ (runs_awaitBatch_settled h hsettled (rounds + 1))
    rintro o _ ⟨rfl, hcomes⟩
    exact ⟨h, hcomes⟩

/-- The batch at hand is handed out. -/
theorem Due.taken (h : Due s shelf f wanted (c, u)) {batch : List Value}
    (hn : c.progress.nextBatch = some batch) :
    ∃ more, batch ≠ [] ∧ wanted = batch ++ more ∧
      Due s shelf f more ({ c with progress := { c.progress with nextBatch := none } }, u) := by
  obtain ⟨more, howes, hwanted⟩ : ∃ more, Owes shelf f c u more ∧
    wanted = c.progress.nextBatch.getD [] ++ more := h.owed
  have hfilled : c.progress.nextBatch ≠ some [] := h.filled
  refine ⟨more, ?_, by rw [hwanted, hn]; rfl, { h with filled := by simp, owed := ?_ }⟩
  · rintro rfl
    exact hfilled hn
  · exact ⟨more, howes.moved rfl rfl rfl id, rfl⟩

/-- A call takes a batch off what is due, or signals the end if nothing is. -/
theorem runs_next (hi : Supplies s i shelf) (hlimit : 0 ≤ s.limit)
    (h : Due s shelf f wanted (c, u)) (rounds : Nat) :
    Runs i (fun o w' => (o = .ok .ended ∧ wanted = []) ∨ ∃ batch more, o = .ok (.batch batch) ∧
        batch ≠ [] ∧ wanted = batch ++ more ∧ Due s shelf f more w')
      (next (rounds + 2)) (c, u) := by
  have hopen : c.closed = false := h.open_
  simp only [next, hasNext, ensureOpen, Runs, Program.ensures_bind, Program.ensures_get,
    Program.continues_ok, Program.Cell.own_load, hopen, Bool.false_eq_true, if_false,
    Program.ensures_pure]
  refine Program.ensures_mono ?_ (runs_awaitBatch hi hlimit h rounds)
  rintro _ ⟨c₁, u₁⟩ ⟨h₁, ⟨rfl, hb⟩ | ⟨rfl, hnil⟩⟩
  · obtain ⟨batch, hn⟩ : ∃ batch, c₁.progress.nextBatch = some batch :=
      Option.isSome_iff_exists.1 hb
    obtain ⟨more, hbatch, hwanted, hmore⟩ := h₁.taken hn
    refine Program.ensures_bind.2 (ensures_takeBatch.2 ?_)
    simp only [Program.Cell.own_load, hn]
    exact .inr ⟨batch, more, rfl, hbatch, hwanted, hmore⟩
  · exact .inl ⟨rfl, hnil⟩

/-! ## Going over the batches -/

/-- Batch sizes are assigned. -/
theorem runs_assign (h : Due s shelf f wanted (c, u)) {sizes : List Int}
    (hsizes : ∀ n ∈ sizes, 0 ≤ n) :
    Runs i (fun o w' => o = .ok () ∧ Due s shelf f wanted w') (sizes.forM setBatchSize) (c, u) := by
  induction sizes generalizing c with
  | nil => exact ⟨rfl, h⟩
  | cons n sizes ih =>
    obtain ⟨more, howes, hwanted⟩ : ∃ more, Owes shelf f c u more ∧
      wanted = c.progress.nextBatch.getD [] ++ more := h.owed
    have hassigned : Due s shelf f wanted ({ c with batchSize := n }, u) :=
      { h with
        size := hsizes n (by simp)
        owed := ⟨more, howes.moved rfl rfl rfl id, hwanted⟩ }
    exact ih hassigned fun n hn => hsizes n (by simp [hn])

/-- All that is due is handed out, and then the end is signalled. -/
theorem runs_iterate (hi : Supplies s i shelf) (hlimit : 0 ≤ s.limit) (rounds : Nat)
    {turns : List (List Int)} (hturns : ∀ sizes ∈ turns, ∀ n ∈ sizes, 0 ≤ n)
    (h : Due s shelf f wanted (c, u)) (hmany : wanted.length < turns.length) :
    Runs i (fun o _ => ∃ batches, o = .ok (batches, .ended) ∧ batches.flatten = wanted)
      (iterate (rounds + 2) turns) (c, u) := by
  induction turns generalizing c u wanted with
  | nil => simp at hmany
  | cons sizes turns ih =>
    have hsizes := hturns sizes (by simp)
    have hturns := fun sizes hs => hturns sizes (List.mem_cons_of_mem _ hs)
    refine Program.ensures_bind.2 (Program.ensures_mono ?_ (runs_assign h hsizes))
    rintro _ ⟨c₁, u₁⟩ ⟨rfl, h₁⟩
    refine Program.ensures_bind.2 (Program.ensures_mono ?_ (runs_next hi hlimit h₁ rounds))
    rintro _ ⟨c₂, u₂⟩ (⟨rfl, rfl⟩ | ⟨batch, more, rfl, hbatch, rfl, h₂⟩)
    · exact ⟨[], rfl, rfl⟩
    · have hfewer : more.length < turns.length := by
        have := List.length_pos_iff.2 hbatch
        simp only [List.length_append, List.length_cons] at hmany
        omega
      refine Program.ensures_bind.2 (Program.ensures_mono ?_ (ih hturns h₂ hfewer))
      rintro _ w' ⟨batches, rfl, rfl⟩
      exact ⟨batch :: batches, rfl, rfl⟩

/-- A server cursor that is not in use any more is left to a scheduled kill, or forgotten. -/
theorem runs_scheduleCleanup (h : Absorbed s shelf f result left v (c, u))
    (hv : v.followUp ≠ .nothing) (loopRuns : Bool) :
    Runs i (fun o w' => o = .ok () ∧ Due s shelf f (dueAfter f result left c) w')
      (scheduleCleanup loopRuns) (c, u) := by
  simp only [scheduleCleanup, Runs, Program.ensures_bind, Program.ensures_get,
    Program.continues_ok, Program.Cell.own_load]
  split
  · rename_i hs
    exact runs_releaseResources fun u' => ⟨rfl, h.due_spent hv rfl rfl rfl hs rfl⟩
  simp only [Program.ensures_bind, Program.ensures_modify, Program.continues_ok,
    Program.Cell.own_load, Program.Cell.own_store]
  split
  · exact ⟨rfl, h.due_spent hv rfl rfl rfl rfl rfl⟩
  · refine Program.ensures_bind.2 ?_
    exact runs_releaseResources fun u' => ⟨rfl, h.due_spent hv rfl rfl rfl rfl rfl⟩

/-- The making of a cursor leaves due what its first batch brought and what may be fetched. -/
theorem runs_start (hi : Supplies c.setup i shelf) (hlimit : 0 ≤ c.limit) (hopen : c.closed = false)
    (hsize : 0 ≤ c.batchSize) (hdelivered : c.progress.delivered = 0) {first : QueryResult}
    {rest : List Value} (hsource : first.cursorId ≠ 0 → c.source.isSome)
    (hlast : first.cursorId = 0 → rest = []) (hw : shelf.holds rest first.cursorId u)
    (hf : ∀ d ∈ rest, c.decode d = .ok (f d)) (loopRuns : Bool) :
    Runs i (fun o w' => o = .ok () ∧ Due c.setup shelf f
        (first.results ++ (upTo c.limit first.results.length rest).map f) w')
      (start first loopRuns) (c, u) := by
  refine Program.ensures_bind.2 (Program.ensures_mono ?_
    (runs_absorb hi hlimit hopen hsize hsource hlast hw hf))
  rintro _ ⟨c₁, u₁⟩ ⟨v, rfl, h, hdelivered₁⟩
  have hlimit₁ : c₁.limit = c.limit := congrArg Setup.limit h.setup
  have hwanted : first.results ++ (upTo c.limit first.results.length rest).map f
      = dueAfter f first rest c₁ := by
    have : c₁.progress.delivered = first.results.length := by
      rw [hdelivered₁, hdelivered, Int.zero_add]
    rw [dueAfter, hlimit₁, this]
  rw [hwanted]
  simp only [Program.continues_ok, Program.ensures_bind, Program.ensures_get,
    Program.Cell.own_load]
  split
  · rename_i hv
    exact ⟨rfl, h.due hv⟩
  · rename_i hv
    have hs : c₁.progress.serverCursor = none := h.gone hv
    exact runs_releaseResources fun u' => ⟨rfl, h.due_spent (by simp [hv]) rfl rfl rfl hs rfl⟩
  · rename_i hv _
    refine Program.ensures_bind.2 (Program.ensures_mono ?_
      (runs_killHeld (h.setup ▸ hi) (hlimit₁ ▸ h.limited hv) none fun _ => ⟨_, _, h.holds⟩))
    rintro _ ⟨c₂, u₂⟩ ⟨rfl, hc₂⟩
    obtain rfl : c₂ = c₁.forget := hc₂
    exact runs_releaseResources fun u' => ⟨rfl, h.due_spent (by simp [hv]) rfl rfl rfl rfl rfl⟩
  · rename_i hv _
    exact runs_scheduleCleanup h (by simp [hv]) loopRuns

end

/-- **All documents up to the limit, in order.** A world that serves the cursor has sent the
    documents `sent` with the first batch, and keeps `rest`.  Then `next` hands out all of them up
    to the limit, and signals the end: it is called at most once for each document and once more,
    and never has to wait. -/
theorem iterated_of_serves {σ ω : Type} {cell : Program.Cell ω σ} {i : Interpreter ω}
    {shelf : Shelf ω} {f : Value → Value} {mode : Mode} {plan : Plan} {c : Cursor}
    (hc : ofPlan mode plan = .ok c) (hi : Serves c.setup i shelf) (hlimit : 0 ≤ plan.limit)
    (hsize : 0 ≤ plan.batchSize) {sent rest : List Value} {w : ω}
    (hsent : plan.first.results = sent.map f) (hw : shelf.holds rest plan.first.cursorId w)
    (hf : ∀ d ∈ rest, plan.decode d = .ok (f d)) (hlast : plan.first.cursorId = 0 → rest = [])
    (hbound : 0 < plan.limit → sent.length ≤ plan.limit) {turns : List (List Int)}
    (hturns : ∀ sizes ∈ turns, ∀ n ∈ sizes, 0 ≤ n) (hmany : (sent ++ rest).length < turns.length)
    {rounds : Nat} (hrounds : 2 ≤ rounds) (loopRuns : Bool) :
    ∃ batches, (interpret i cell (goOver mode plan loopRuns rounds turns) w).1
        = .ok (batches, .ended) ∧
      batches.flatten = (if plan.limit = 0 then sent ++ rest
        else (sent ++ rest).take plan.limit.toNat).map f := by
  have hwanted : (upTo plan.limit 0 (sent ++ rest)).map f = plan.first.results ++
      (upTo plan.limit plan.first.results.length rest).map f := by
    rw [upTo_append (by simpa using hbound) hlimit, List.map_append, hsent, List.length_map,
      Int.zero_add]
  have hfew : ((upTo plan.limit 0 (sent ++ rest)).map f).length < turns.length := by
    rw [List.length_map]
    exact Nat.lt_of_le_of_lt (length_upTo_le _ _ _) hmany
  have hsource : plan.first.cursorId ≠ 0 → plan.source.isSome := fun hid =>
    isSome_source_of_ofPlan hc (Option.isSome_iff_ne_none.2 fun hnone =>
      hid (QueryResult.cursor_eq_none.1 hnone))
  have hexplicit : (if plan.limit = 0 then sent ++ rest
      else (sent ++ rest).take plan.limit.toNat) = upTo plan.limit 0 (sent ++ rest) := by
    rw [upTo, Int.sub_zero]
  obtain ⟨rounds, rfl⟩ := Nat.exists_eq_add_of_le' hrounds
  have hlimit' : 0 ≤ c.limit := by
    obtain ⟨settings, rfl⟩ := exists_of_ofPlan hc
    exact hlimit
  have hi := hi.supplies hlimit'
  rw [hexplicit]
  have hstart : Runs i (fun o w' => o = .ok () ∧ Due c.setup shelf f
      ((upTo plan.limit 0 (sent ++ rest)).map f) w') (start plan.first loopRuns) (c, w) := by
    rw [hwanted]
    obtain ⟨settings, rfl⟩ := exists_of_ofPlan hc
    exact runs_start hi hlimit rfl hsize rfl hsource hlast hw hf loopRuns
  have hall : Ensures i.environment cell (fun o _ => ∃ batches, o = .ok (batches, .ended) ∧
      batches.flatten = (upTo plan.limit 0 (sent ++ rest)).map f)
      (goOver mode plan loopRuns (rounds + 2) turns) w := by
    simp only [goOver, create, Program.ensures_bind, Program.ensures_ofValid, hc, Outcome.ofValid,
      Program.continues_ok, Program.ensures_within]
    refine Program.ensures_mono ?_ hstart
    rintro _ ⟨c₁, u₁⟩ ⟨rfl, h₁⟩
    change Ensures i.environment cell _ (Program.within c₁ (iterate (rounds + 2) turns) >>= _) u₁
    refine Program.ensures_bind.2 (Program.ensures_within.2 (Program.ensures_mono ?_
      (runs_iterate hi hlimit' rounds hturns h₁ hfew)))
    rintro _ w' ⟨batches, rfl, hbatches⟩
    exact ⟨batches, rfl, hbatches⟩
  exact Program.ensures_interpreter.1 hall

/-! ## A small server -/

/-- Documents that were not sent yet, and the id of their cursor. -/
structure Stock where
  rest : List Value
  id : Int

namespace Stock

/-- How many documents a fetch for `count` brings: two, where that is up to the server. -/
def portion (count : Int) : Nat := if count = 0 then 2 else count.toNat

/-- After a fetch: the cursor goes with the empty batch after the last documents. -/
def after (count : Int) (stock : Stock) : Stock :=
  ⟨stock.rest.drop (portion count), if stock.rest.isEmpty then 0 else stock.id⟩

/-- The reply to a fetch command. -/
def reply (count : Int) (stock : Stock) : Document :=
  [("ok", .int 1), ("cursor", .doc [("id", .int (stock.after count).id),
    ("ns", .text "library.books"), ("nextBatch", .list (stock.rest.take (portion count)))])]

/-- A server that speaks commands. -/
def server : Interpreter Stock where
  take _ stock := stock
  answer
    | .lease _, stock => (.ok ⟨1, { address := {}, version := [3, 2] }⟩, stock)
    | .command _ _ command _ _ decode, stock =>
      (decode (.doc (stock.reply (askedFor command))), stock.after (askedFor command))
    | .getMore _ ns _ count decode, stock =>
      (((stock.rest.take (portion count)).mapM decode).map
        fun results => ⟨ns, results, (stock.after count).id, {}⟩, stock.after count)
    | q, stock => (obliging q, stock)

def shelf : Shelf Stock where
  holds rest id stock := stock = ⟨rest, id⟩
  opens _ _ := True

theorem sends (stock : Stock) (h : stock.id ≠ 0) {count : Int}
    (hcount : 0 ≤ count) : Sends count stock.rest (stock.rest.take (portion count))
      (stock.after count).id (stock.after count).rest := by
  have hportion : 0 < portion count ∧ (0 < count → (portion count : Int) = count) := by
    unfold portion
    split <;> omega
  refine ⟨(List.take_append_drop _ _).symm, fun hpos => ?_, fun _ hrest => ?_, fun hid => ?_, ?_⟩
  · rw [List.length_take]
    have := hportion.2 hpos
    omega
  · have := List.length_pos_iff.2 hrest
    refine List.length_pos_iff.1 ?_
    rw [List.length_take]
    omega
  · have hrest : stock.rest = [] := by
      rcases hempty : stock.rest with _ | ⟨d, ds⟩
      · rfl
      · simp only [after, hempty, List.isEmpty_cons, Bool.false_eq_true, if_false] at hid
        exact absurd hid h
    simp [after, hrest]
  · intro hrest
    simp [after, hrest]

theorem serves (mode : Mode) (limit : Int) :
    Serves (Cursor.sample mode limit).setup server shelf where
  log _ _ hw := hw
  logOpens _ _ hx := hx
  given h _ := nomatch h
  lease _ _ hw := ⟨_, rfl, hw, trivial⟩
  giveBack _ hw := hw
  command x command secondaryOk names decode rest id w hw _ hid _ _ hcount := by
    obtain rfl : w = _ := hw
    exact ⟨_, _, _, rfl, ⟨_, _, _, rfl, rfl, rfl, rfl, rfl⟩, _, sends ⟨rest, id⟩ hid hcount, rfl,
      trivial⟩
  getMore x count decode rest id w hw _ hid hcount := by
    obtain rfl : w = _ := hw
    exact ⟨_, _, _, rfl, _, sends ⟨rest, id⟩ hid hcount, rfl, trivial⟩
  kill h := nomatch h

end Stock

/-- Four of six documents, with a limit of four. -/
theorem iterated_stock : ∃ batches, (interpret Stock.server (Program.Cell.none Stock)
      (goOver .async (.sample 4) true 2 [[], [2], [0, 1], [], [], [], []])
      ⟨[.int 2, .int 3, .int 4, .int 5, .int 6], 7⟩).1 = .ok (batches, .ended) ∧
    batches.flatten = [.int 1, .int 2, .int 3, .int 4] := by
  have hsent : (Plan.sample 4).first.results = [Value.int 1].map id := rfl
  exact iterated_of_serves (ofPlan_sample .async 4) (Stock.serves .async 4) (by decide) (by decide)
    hsent rfl (fun _ _ => rfl) (by decide) (by decide) (by decide) (by decide)
    (by decide) true

end DocumentClient.Cursor
