/-
  Properties that operations keep.

  Kills, releases, closing and scheduled kills ask for leases and kills only, give
  notices, and change nothing of a cursor but its server cursor, its flags and its
  schedule.  A property that is indifferent to all of this (`Closable`), or to the changes
  and to kills as a whole (`Tended`), is kept by these operations (`keeps_killHeld`,
  `keeps_close`).  `Retrievable` does the same for retrievals, apart from the fetch itself, and
  `Operable` for operations of any kind.
-/
import DocumentClient.Proofs.Cursor.Rules

namespace DocumentClient.Cursor

open Program (Ensures Environment)

variable {ω α β : Type}

/-- A property of worlds that survives exchanges, apart from fetches. -/
structure Undisturbed (env : Environment ω) (cell : Program.Cell ω Cursor) (P : ω → Prop) :
    Prop where
  ask : ∀ q w, isFetch q = false → P w →
    env.demands q w ∧ ∀ x w', env.resumes q w x w' → P w'
  log : ∀ level message w, P w → P (env.take (.log level message) w)
  /-- A connection may be given back, where cursors have to lease one. -/
  giveBack : ∀ connection w₀ w, P w₀ → (cell.load w₀).connection = none → P w →
    P (env.take (.releaseConnection connection) w)

/-- A property that survives what closing and interruptions change of a cursor. -/
structure Alterable (env : Environment ω) (cell : Program.Cell ω Cursor) (P : ω → Prop) : Prop where
  forget : ∀ w, P w → P (cell.store (cell.load w).forget w)
  settle : ∀ w, P w → P (settle env cell w)
  shut : ∀ w, P w → P (cell.store { cell.load w with closed := true } w)
  schedule : ∀ w cleanups, P w → P (cell.store { cell.load w with cleanups := cleanups } w)
  interrupt : ∀ w interrupted, P w →
    P (cell.store { cell.load w with interrupted := interrupted } w)

/-- A property that survives closing and interruptions step by step. -/
structure Closable (env : Environment ω) (cell : Program.Cell ω Cursor) (P : ω → Prop) : Prop
    extends Undisturbed env cell P, Alterable env cell P

/-- A program keeps a property, however it ends. -/
def Keeps (env : Environment ω) (cell : Program.Cell ω Cursor) (P : ω → Prop)
    (p : Program Cursor α) : Prop :=
  ∀ w, P w → Ensures env cell (fun _ w' => P w') p w

section
variable {env : Environment ω} {cell : Program.Cell ω Cursor} {P : ω → Prop}

/-! ## Sequencing -/

theorem keeps_bind {p : Program Cursor α} {f : α → Program Cursor β} (hp : Keeps env cell P p)
    (hf : ∀ a, Keeps env cell P (f a)) : Keeps env cell P (p >>= f) := by
  intro w hw
  refine Program.ensures_bind.2 (Program.ensures_mono ?_ (hp w hw))
  rintro (e | a) w' h
  · exact h
  · exact hf a w' h

theorem keeps_get : Keeps env cell P Program.get := fun _ hw => hw

theorem keeps_pure (a : α) : Keeps env cell P (pure a) := fun _ hw => hw

theorem keeps_fail (e : Failure) : Keeps env cell P (Program.fail e : Program Cursor α) :=
  fun _ hw => hw

theorem keeps_ofOutcome (o : Outcome α) : Keeps env cell P (Program.ofOutcome o) :=
  fun _ hw => hw

theorem keeps_attempt {p : Program Cursor α} (hp : Keeps env cell P p) :
    Keeps env cell P p.attempt :=
  fun w hw => Program.ensures_attempt.2 (hp w hw)

theorem ensures_always_of_keeps {p : Program Cursor α} {last : Program Cursor Unit} {w : ω}
    (hp : Ensures env cell (fun _ w' => P w') p w) (hlast : Keeps env cell P last) :
    Ensures env cell (fun _ w' => P w') (p.always last) w := by
  refine Program.ensures_always.2
    (Program.ensures_mono (fun o w₁ h₁ => Program.ensures_mono ?_ (hlast w₁ h₁)) hp)
  rintro (e | _) w₂ h₂ <;> exact h₂

theorem keeps_always {p : Program Cursor α} {last : Program Cursor Unit} (hp : Keeps env cell P p)
    (hlast : Keeps env cell P last) : Keeps env cell P (p.always last) :=
  fun w hw => ensures_always_of_keeps (hp w hw) hlast

theorem keeps_handle {p : Program Cursor α} {handler : Failure → Program Cursor α}
    (hp : Keeps env cell P p) (hhandler : ∀ e, Keeps env cell P (handler e)) :
    Keeps env cell P (p.handle handler) := by
  refine keeps_bind (keeps_attempt hp) fun o => ?_
  rcases o with e | a
  · dsimp only
    split
    · exact hhandler e
    · exact keeps_fail e
  · exact keeps_pure a

/-! ## Kills -/

section
variable (h : Undisturbed env cell P)
include h

theorem Undisturbed.keeps_ask {q : Exchange} (hq : isFetch q = false) :
    Keeps env cell P (.ask q .done) :=
  fun w hw => h.ask q w hq hw

theorem Undisturbed.keeps_log (level : LogLevel) (message : String) :
    Keeps env cell P (Program.log level message) :=
  fun w hw => h.log level message w hw

theorem Undisturbed.keeps_withConnection {use : Connection → Program Cursor α}
    (huse : ∀ x, Keeps env cell P (use x)) : Keeps env cell P (withConnection use) := by
  intro w hw
  refine ensures_withConnection.2 ?_
  split
  · exact huse _ w hw
  · exact hw
  · rename_i handle hc _
    obtain ⟨hd, hr⟩ := h.ask (.lease handle.resource) w rfl hw
    refine ⟨hd, fun x w' hw' => ?_⟩
    rcases x with e | x
    · exact hr _ w' hw'
    · exact Program.ensures_mono (fun _ w'' h'' => h.giveBack x w w'' hw hc h'')
        (huse x w' (hr _ w' hw'))

theorem Undisturbed.keeps_killCursor (target : ServerCursor) (given : Option Connection) :
    Keeps env cell P (killCursor target given) := by
  refine keeps_bind keeps_get fun c => keeps_bind (h.keeps_log _ _) fun _ => ?_
  refine keeps_handle ?_ fun e => h.keeps_log _ _
  cases given with
  | some x => exact h.keeps_ask rfl
  | none => exact h.keeps_withConnection fun x => h.keeps_ask rfl

/-- The server cursor is forgotten before it is killed. -/
theorem Undisturbed.ensures_killHeld {w : ω} (hforget : P (cell.store (cell.load w).forget w))
    (hnone : (cell.load w).progress.serverCursor = none → P w) (given : Option Connection) :
    Ensures env cell (fun _ w' => P w') (killHeld given) w := by
  simp only [killHeld, Program.ensures_bind, Program.ensures_get, Program.continues_ok]
  split
  · rename_i hs
    exact hnone hs
  · rename_i target _
    exact Program.ensures_bind.2 (h.keeps_killCursor target given _ hforget)

theorem Undisturbed.keeps_waitBeforeRetry
    (hflag : ∀ w interrupted, P w →
      P (cell.store { cell.load w with interrupted := interrupted } w)) :
    Keeps env cell P waitBeforeRetry := by
  refine keeps_bind keeps_get fun c => keeps_bind (keeps_ofOutcome _) fun length => ?_
  refine keeps_bind (h.keeps_ask rfl) fun _ => ?_
  intro w hw
  simp only [Program.ensures_bind, Program.ensures_get, Program.continues_ok]
  split
  · exact hflag w false hw
  · split <;> exact hw

end

/-! ## Sending kills -/

section
variable {S : ω → Prop} {R : Failure → Prop} {target : ServerCursor}

/-- What holds before a kill is requested and after, and what the request may fail with. -/
structure Sendable (env : Environment ω) (P S : ω → Prop) (R : Failure → Prop)
    (target : ServerCursor) : Prop where
  send : ∀ connection ns w, P w → env.demands (.killCursors connection ns [target.id]) w ∧
    ∀ x w', env.resumes (.killCursors connection ns [target.id]) w x w' →
      S w' ∧ ∀ e, x = .error e → R e
  fails : ∀ e w, S w → S (env.take (killFails target e) w)
  back : ∀ connection w, S w → S (env.take (.releaseConnection connection) w)

/-- The same where a connection may have to be leased first. -/
structure Killable (env : Environment ω) (cell : Program.Cell ω Cursor) (P S : ω → Prop)
    (R : Failure → Prop) (target : ServerCursor) : Prop extends Sendable env P S R target where
  lease : ∀ source w, P w → env.demands (.lease source) w ∧
    ∀ x w', env.resumes (.lease source) w x w' → match x with
      | .ok _ => P w'
      | .error e => S w' ∧ R e
  noSource : ∀ w, P w → (cell.load w).connection = none → (cell.load w).source = none →
    S w ∧ R (.invalid .noSource)

/-- A request that fails ends a kill only if the failure is not ordinary. -/
theorem Sendable.ensures_killCursor_of (h : Sendable env P S R target) {given : Option Connection}
    {w : ω} (hsend : Ensures env cell (fun o w' => S w' ∧ ∀ e, o = .error e → R e)
      (sendKill (cell.load w).ns target given)
      (env.take (killBegins (cell.load w).mode target) w)) :
    Ensures env cell (fun o w' => S w' ∧ ∀ e, o = .error e → R e ∧ e.isOrdinary = false)
      (killCursor target given) w := by
  refine ensures_killCursor.2 (Program.ensures_mono ?_ hsend)
  rintro (e | a) w' ⟨hS, hR⟩
  · dsimp only
    split
    · exact ⟨h.fails e w' hS, by simp⟩
    · rename_i he
      refine ⟨hS, fun e' heq => ?_⟩
      cases heq
      exact ⟨hR e rfl, eq_false_of_ne_true he⟩
  · exact ⟨hS, by simp⟩

theorem Sendable.ensures_killCursor_over (h : Sendable env P S R target) (x : Connection) {w : ω}
    (hw : P (env.take (killBegins (cell.load w).mode target) w)) :
    Ensures env cell (fun o w' => S w' ∧ ∀ e, o = .error e → R e ∧ e.isOrdinary = false)
      (killCursor target (some x)) w :=
  h.ensures_killCursor_of (h.send x _ _ hw)

theorem Killable.ensures_killCursor (h : Killable env cell P S R target)
    (given : Option Connection) {w : ω}
    (hw : P (env.take (killBegins (cell.load w).mode target) w)) :
    Ensures env cell (fun o w' => S w' ∧ ∀ e, o = .error e → R e ∧ e.isOrdinary = false)
      (killCursor target given) w := by
  cases given with
  | some x => exact h.toSendable.ensures_killCursor_over x hw
  | none =>
    refine h.toSendable.ensures_killCursor_of ?_
    unfold sendKill
    refine ensures_withConnection.2 ?_
    split
    · exact h.send _ _ _ hw
    · rename_i hconnection hsource
      obtain ⟨hS, hR⟩ := h.noSource _ hw hconnection hsource
      refine ⟨hS, fun e he => ?_⟩
      cases he
      exact hR
    · rename_i handle _ _
      obtain ⟨hdemands, hresumes⟩ := h.lease handle.resource _ hw
      refine ⟨hdemands, fun x w' hw' => ?_⟩
      have hanswer := hresumes x w' hw'
      rcases x with e | x
      · refine ⟨hanswer.1, fun e' he => ?_⟩
        cases he
        exact hanswer.2
      · exact Program.ensures_mono (fun o w'' h'' => ⟨h.back x w'' h''.1, h''.2⟩)
          (h.send x _ w' hanswer)

end

/-! ## Closing -/

/-- A property that kills keep, whatever it makes of their steps. -/
structure Tended (env : Environment ω) (cell : Program.Cell ω Cursor) (P : ω → Prop) : Prop
    extends Alterable env cell P where
  /-- A kill goes over a connection that is at hand. -/
  kill : ∀ target connection, Keeps env cell P (killCursor target (some connection))
  /-- A blocking cursor may have to lease one for it; any other leaves that to a scheduled kill. -/
  killOwn : ∀ target w, P w → (cell.load w).mode = .blocking →
    Keeps env cell P (killCursor target none)
  skip : ∀ target w, P w → P (env.take (killSkipped target) w)

theorem Closable.tended (h : Closable env cell P) : Tended env cell P where
  toAlterable := h.toAlterable
  kill target connection := h.keeps_killCursor target (some connection)
  killOwn target _ _ _ := h.keeps_killCursor target none
  skip _ := h.log .warning _

section
variable (h : Tended env cell P)
include h

theorem Tended.keeps_releaseResources : Keeps env cell P releaseResources :=
  fun w hw => ensures_releaseResources.2 (h.settle w hw)

theorem Tended.ensures_killHeld {given : Option Connection} {w : ω} (hw : P w)
    (hmode : given = none → (cell.load w).mode = .blocking) :
    Ensures env cell (fun _ w' => P w') (killHeld given) w := by
  simp only [killHeld, Program.ensures_bind, Program.ensures_get, Program.continues_ok]
  split
  · exact hw
  · rename_i target _
    refine Program.ensures_bind.2 ?_
    cases given with
    | some connection => exact h.kill target connection _ (h.forget w hw)
    | none => exact h.killOwn target w hw (hmode rfl) _ (h.forget w hw)

theorem Tended.keeps_killHeld (connection : Connection) :
    Keeps env cell P (killHeld (some connection)) :=
  fun _ hw => h.ensures_killHeld hw nofun

theorem Tended.keeps_cleanup {target : ServerCursor}
    (hkill : Keeps env cell P (killCursor target none)) : Keeps env cell P (cleanup target) :=
  keeps_always hkill h.keeps_releaseResources

theorem Tended.keeps_scheduleCleanup (loopRuns : Bool) :
    Keeps env cell P (scheduleCleanup loopRuns) := by
  refine keeps_bind keeps_get fun c => ?_
  split
  · exact h.keeps_releaseResources
  · refine keeps_bind (fun w hw => h.forget w hw) fun _ => ?_
    split
    · exact fun w hw => h.schedule w _ hw
    · exact keeps_bind (fun w hw => h.skip _ w hw) fun _ => h.keeps_releaseResources

theorem Tended.keeps_close (loopRuns : Bool) : Keeps env cell P (close loopRuns) := by
  have hshut : Keeps env cell P (Program.modify fun c => { c with closed := true }) :=
    fun w hw => h.shut w hw
  intro w hw
  simp only [close, Program.ensures_bind, Program.ensures_get, Program.continues_ok]
  split
  · exact hw
  split
  · rename_i hmode
    exact ensures_always_of_keeps (h.ensures_killHeld hw fun _ => hmode)
      (keeps_bind hshut fun _ => h.keeps_releaseResources)
  · exact keeps_bind hshut (fun _ => h.keeps_scheduleCleanup loopRuns) w hw

theorem Tended.keeps_giveUp (e : Failure) : Keeps env cell P (giveUp e) := by
  cases e with
  | cursorMissing id address =>
    exact keeps_bind (fun w hw => h.forget w hw) fun _ => h.keeps_close true
  | cancelled => exact keeps_pure ()
  | _ => exact h.keeps_close true

/-- What holds after the first batch was absorbed holds once the cursor is made. -/
theorem Tended.ensures_start {first : QueryResult} {loopRuns : Bool} {w : ω}
    (habsorb : Ensures env cell (fun _ w' => P w') (absorb first) w) :
    Ensures env cell (fun _ w' => P w') (start first loopRuns) w := by
  refine Program.ensures_bind.2 (Program.ensures_mono ?_ habsorb)
  rintro (e | verdict) w₁ h₁
  · exact h₁
  simp only [Program.ensures_bind, Program.ensures_get, Program.continues_ok]
  split
  · exact h₁
  · exact h.keeps_releaseResources w₁ h₁
  · rename_i hmode
    refine Program.ensures_bind.2
      (Program.ensures_mono ?_ (h.ensures_killHeld h₁ fun _ => hmode))
    rintro (e | _) w₂ h₂
    · exact h₂
    · exact h.keeps_releaseResources w₂ h₂
  · exact h.keeps_scheduleCleanup loopRuns w₁ h₁

end

theorem Closable.keeps_cleanup (h : Closable env cell P) (target : ServerCursor) :
    Keeps env cell P (cleanup target) :=
  h.tended.keeps_cleanup (h.keeps_killCursor target none)

/-! ## Fetching -/

/-- A batch that has come is refused by a closed cursor, or absorbed and followed up on. -/
theorem ensures_follow {x : Connection} {result : QueryResult} {w : ω}
    (hclosed : (cell.load w).closed → P w)
    (habsorb : (cell.load w).closed = false →
      Ensures env cell (fun _ w' => P w') (absorb result) w)
    (hkill : Keeps env cell P (killHeld (some x))) :
    Ensures env cell (fun _ w' => P w') (follow x result) w := by
  simp only [follow, Program.ensures_bind, Program.ensures_get, Program.continues_ok]
  split
  · rename_i hc
    exact hclosed hc
  · rename_i hc
    refine Program.ensures_bind.2 (Program.ensures_mono ?_ (habsorb (eq_false_of_ne_true hc)))
    rintro (e | verdict) w₁ h₁
    · exact h₁
    rw [Program.continues_ok]
    split
    · exact keeps_bind hkill (fun _ => keeps_pure verdict) w₁ h₁
    · exact h₁

theorem keeps_follow {x : Connection} {result : QueryResult}
    (habsorb : Keeps env cell P (absorb result)) (hkill : Keeps env cell P (killHeld (some x))) :
    Keeps env cell P (follow x result) :=
  fun w hw => ensures_follow (fun _ => hw) (fun _ => habsorb w hw) hkill

/-- A fetch asks with a connection, and gives up or releases the resources where it has to. -/
theorem ensures_fetch {w : ω} (hw : P w)
    (hlend : ∀ target, (cell.load w).progress.serverCursor = some target →
      Ensures env cell (fun _ w' => P w') (withConnection (fetchOver target)) w)
    (hgiveUp : ∀ e, Keeps env cell P (giveUp e)) (hrelease : Keeps env cell P releaseResources) :
    Ensures env cell (fun _ w' => P w') fetch w := by
  simp only [fetch, Program.ensures_bind, Program.ensures_get, Program.continues_ok]
  split
  · exact hw
  rename_i target hs
  refine Program.ensures_bind.2 (Program.ensures_attempt.2
    (Program.ensures_mono (fun o w₁ h₁ => ?_) (hlend target hs)))
  rw [Program.continues_ok]
  rcases o with e | verdict
  · exact keeps_bind (hgiveUp e) (fun _ => keeps_fail e) w₁ h₁
  · dsimp only
    split
    · exact h₁
    · exact hrelease w₁ h₁

theorem Tended.keeps_fetch (h : Tended env cell P)
    (hlend : ∀ target, Keeps env cell P (withConnection (fetchOver target))) :
    Keeps env cell P fetch :=
  fun w hw => ensures_fetch hw (fun target _ => hlend target w hw) h.keeps_giveUp
    h.keeps_releaseResources

/-! ## Retrieving -/

/-- A property that survives fetches and pauses, where no batch is at hand and one can come. -/
structure Retrievable (env : Environment ω) (cell : Program.Cell ω Cursor) (P : ω → Prop) :
    Prop where
  fetch : ∀ w, P w → (cell.load w).isSettled = false →
    Ensures env cell (fun _ w' => P w') fetch w
  wait : ∀ w, P w → (cell.load w).isSettled = false →
    Ensures env cell (fun _ w' => P w') waitBeforeRetry w

theorem keeps_ensureOpen : Keeps env cell P ensureOpen := by
  refine keeps_bind keeps_get fun c => ?_
  split
  · exact keeps_fail _
  · exact keeps_pure ()

section
variable (h : Retrievable env cell P)
include h

theorem Retrievable.keeps_pauseUnlessSettled : Keeps env cell P pauseUnlessSettled := by
  intro w hw
  simp only [pauseUnlessSettled, Program.ensures_bind, Program.ensures_get, Program.continues_ok]
  split
  · exact hw
  · rename_i hs
    exact h.wait w hw (eq_false_of_ne_true hs)

theorem Retrievable.keeps_awaitBatch (rounds : Nat) : Keeps env cell P (awaitBatch rounds) := by
  induction rounds with
  | zero => exact keeps_pure _
  | succ rounds ih =>
    rw [awaitBatch_succ]
    intro w hw
    simp only [Program.ensures_bind, Program.ensures_get, Program.continues_ok]
    split
    · exact hw
    rename_i hb
    split
    · exact hw
    rename_i he
    refine Program.ensures_bind.2 (Program.ensures_mono ?_
      (h.fetch w hw (isSettled_eq_false_iff.2 ⟨eq_false_of_ne_true hb, eq_false_of_ne_true he⟩)))
    rintro (e | _) w' hw'
    · exact hw'
    refine keeps_bind h.keeps_pauseUnlessSettled (fun _ => ih) w' hw'

theorem Retrievable.keeps_hasNext (rounds : Nat) : Keeps env cell P (hasNext rounds) :=
  keeps_bind keeps_ensureOpen fun _ => h.keeps_awaitBatch rounds

theorem Retrievable.keeps_fetchUnlessSettled : Keeps env cell P fetchUnlessSettled := by
  intro w hw
  simp only [fetchUnlessSettled, Program.ensures_bind, Program.ensures_get, Program.continues_ok]
  split
  · exact hw
  · rename_i hs
    exact h.fetch w hw (eq_false_of_ne_true hs)

theorem Retrievable.keeps_next (htake : Keeps env cell P takeBatch) (rounds : Nat) :
    Keeps env cell P (next rounds) := by
  refine keeps_bind (h.keeps_hasNext rounds) fun available => ?_
  cases available with
  | ready => exact keeps_bind htake fun _ => keeps_pure _
  | ended => exact keeps_pure _
  | pending => exact keeps_pure _

theorem Retrievable.keeps_tryNext (htake : Keeps env cell P takeBatch) :
    Keeps env cell P tryNext := by
  rw [tryNext_eq]
  refine keeps_bind keeps_ensureOpen fun _ => keeps_bind h.keeps_fetchUnlessSettled fun _ => ?_
  refine keeps_bind keeps_get fun c => ?_
  split
  · exact keeps_bind htake fun _ => keeps_pure _
  · exact keeps_pure _

theorem Retrievable.keeps_program (htake : Keeps env cell P takeBatch) {a : Activity}
    (ha : a.isRetrieval) : Keeps env cell P a.program := by
  cases a, ha using Activity.retrieval_cases with
  | hasNext rounds => exact keeps_bind (h.keeps_hasNext rounds) fun _ => keeps_pure _
  | next rounds => exact keeps_bind (h.keeps_next htake rounds) fun _ => keeps_pure _
  | tryNext => exact keeps_bind (h.keeps_tryNext htake) fun _ => keeps_pure _

end

/-! ## Operations -/

/-- A property that an operation keeps, whatever it is. -/
structure Operable (env : Environment ω) (cell : Program.Cell ω Cursor) (P : ω → Prop)
    (a : Activity) : Prop where
  retrieve : a.isRetrieval → Retrievable env cell P
  take : a.isRetrieval → Keeps env cell P takeBatch
  close : ∀ loopRuns, a = .close loopRuns → Keeps env cell P (close loopRuns)
  interrupt : Keeps env cell P interrupt
  resize : ∀ n, Keeps env cell P (setBatchSize n)

theorem Operable.keeps_program {a : Activity} (h : Operable env cell P a) (ha : a.isOperation) :
    Keeps env cell P a.program := by
  cases a, ha using Activity.operation_cases with
  | close loopRuns => exact keeps_bind (h.close loopRuns rfl) fun _ => keeps_pure _
  | interrupt => exact keeps_bind h.interrupt fun _ => keeps_pure _
  | setBatchSize n => exact keeps_bind (h.resize n) fun _ => keeps_pure _
  | _ => exact (h.retrieve rfl).keeps_program (h.take rfl) rfl

end

end DocumentClient.Cursor
