/-
  Activities of an asynchronous cursor provide for its resources.

  Whatever is called, answered, cancelled and run in between, on a running loop or not, the
  activities of an asynchronous cursor keep `Provident`.  A retrieval counts on four facts
  in turn: that the others leave the resources to it (`Calling`), that an open cursor keeps
  its server cursor while it is fetched from (`Pursuing`), that nobody releases while the
  server cursor is killed (`Killing`), and that the resources may go then (`Leaving`).
-/
import DocumentClient.Proofs.Cursor.EventLoop
import DocumentClient.Proofs.Cursor.Keeping
import DocumentClient.Proofs.Cursor.Provision

namespace DocumentClient.Cursor

open Program (Ensures Environment)

/-! ## The protocol -/

/-- Activities of an asynchronous cursor. -/
def provision (plan : Plan) : Protocol where
  invariant := Provident plan
  respects := Lasts
  spares := Concedes plan
  admits _ _ := True

variable {plan : Plan} {R R' : Moment → Prop} {absorbing : Bool} {w : Stretch} {m m' : Moment}

theorem composable_provision (plan : Plan) : (provision plan).Composable where
  respects _ _ _ := .trans
  spares _ _ _ := .trans

/-- In a stretch the cursor is provided for, and its activity counts on a fact. -/
abbrev Upheld (plan : Plan) (R : Moment → Prop) (absorbing : Bool) (w : Stretch) : Prop :=
  (provision plan).Abides R absorbing w

/-- A fact that survives what others may do. -/
abbrev Lasting (plan : Plan) (R : Moment → Prop) (absorbing : Bool) : Prop :=
  (provision plan).Stable R absorbing

/-- An activity that absorbs owes nothing to those that wait. -/
theorem upheld_absorbing (h : Provident plan m) (hlasts : Lasts w.since m) (hR : R m) :
    Upheld plan R true ⟨w.since, m⟩ := ⟨h, hlasts, nofun, hR⟩

/-- The first moment of a stretch. -/
theorem upheld_start (h : Provident plan m) (hR : R m) : Upheld plan R absorbing ⟨m, m⟩ :=
  ⟨h, .refl m, fun _ => .refl m, hR⟩

theorem Upheld.moved (hR : Lasting plan R absorbing) (h : Upheld plan R absorbing w)
    (hm : Provident plan m') (hc : Concedes plan w.now m') :
    Upheld plan R absorbing ⟨w.since, m'⟩ :=
  Protocol.Abides.moved (composable_provision plan) h hm hc.toLasts (fun _ => hc)
    (hR _ _ hc.toLasts (fun _ => hc) h.kept)

theorem Upheld.record (hR : Lasting plan R absorbing) (h : Upheld plan R absorbing w) {i : Incident}
    (hi : Passing plan w.now i) : Upheld plan R absorbing ⟨w.since, w.now.record i⟩ :=
  Upheld.moved hR h (h.invariant.record hi) hi.alike.concedes

/-- What an activity counts on survives any exchange. -/
theorem Upheld.ask (hR : Lasting plan R absorbing) (h : Upheld plan R absorbing w) (q : Exchange) :
    ((provision plan).environment absorbing).demands q w ∧
      ∀ x w', ((provision plan).environment absorbing).resumes q w x w' →
        ∃ m, Provident plan m ∧ R m ∧ w' = ⟨m, m.answer q x⟩ := by
  obtain ⟨hdemands, hresumes⟩ :=
    Protocol.Abides.ask hR (Upheld.record hR h (passing_asked plan w.now q))
  exact ⟨hdemands, fun x w' hw' => (hresumes x w' hw').2⟩

/-- An exchange that is no kill is like any other. -/
theorem Upheld.asked (hR : Lasting plan R absorbing) (h : Upheld plan R absorbing w) {q : Exchange}
    (hq : ∀ x wasOpen, (Incident.answered q x wasOpen).cancelsKill = false) :
    ((provision plan).environment absorbing).demands q w ∧
      ∀ x w', ((provision plan).environment absorbing).resumes q w x w' →
        Upheld plan R absorbing w' := by
  obtain ⟨hdemands, hresumes⟩ := Upheld.ask hR h q
  refine ⟨hdemands, fun x w' hw' => ?_⟩
  obtain ⟨m, hm, hk, rfl⟩ := hresumes x w' hw'
  exact Upheld.record hR (upheld_start hm hk) (passing_answered fun hkill => by simp [hq] at hkill)

theorem lasting_calling : Lasting plan (Calling plan) true := fun _ _ _ hc => (hc rfl).calling

theorem lasting_pursuing : Lasting plan (Pursuing plan) true := fun _ _ _ hc => (hc rfl).pursuing

theorem lasting_killing : Lasting plan (Killing plan) true := fun _ _ _ hc => (hc rfl).killing

theorem lasting_leaving : Lasting plan (Leaving plan) true := fun _ _ _ hc => (hc rfl).leaving

/-! ## Fetching -/

/-- What a fetch comes to: the resources are to go, or are left to the others. -/
def Upshot (plan : Plan) : Outcome Verdict → Moment → Prop
  | .ok v, m => if v.followUp = .nothing then Calling plan m else Leaving plan m
  | .error _, m => Calling plan m

theorem lasting_upshot (o : Outcome Verdict) : Lasting plan (Upshot plan o) true := by
  intro m m' hl hc hm
  rcases o with e | v
  · exact lasting_calling m m' hl hc hm
  · by_cases hv : v.followUp = .nothing
    · simp only [Upshot, if_pos hv] at hm ⊢
      exact lasting_calling m m' hl hc hm
    · simp only [Upshot, if_neg hv] at hm ⊢
      exact lasting_leaving m m' hl hc hm

theorem upheld_error {e : Failure} (h : Upheld plan (Pursuing plan) true w) :
    Upheld plan (Upshot plan (.error e)) true w :=
  ⟨h.invariant, h.respects, h.spares, h.kept.toCalling⟩

/-- The kill that ends a fetch is answered. -/
theorem upholds_kill (h : Upheld plan (Killing plan) true w) (target : ServerCursor)
    (connection : Connection) :
    (provision plan).Holds true (fun o w' => match o with
        | .ok _ => Upheld plan (Leaving plan) true w'
        | .error _ => Upheld plan (Calling plan) true w')
      (killCursor target (some connection)) w := by
  have hbegins := Upheld.record lasting_killing h
    (passing_log plan w.now .info _ : Passing plan w.now
      (.noticed (killBegins w.now.cursor.mode target)))
  obtain ⟨hdemands, hresumes⟩ := Upheld.ask lasting_killing hbegins
    (.killCursors connection w.now.cursor.ns [target.id])
  refine ensures_killCursor.2 ⟨hdemands, fun (x : Outcome Unit) w' hw' => ?_⟩
  obtain ⟨m, hm, hkilling, rfl⟩ := hresumes x w' hw'
  have hcancelled := hm.killCancelled connection w.now.cursor.ns [target.id] hkilling
  have hanswered : x ≠ .error .cancelled → Upheld plan (Leaving plan) true
      ⟨m, m.answer (.killCursors connection w.now.cursor.ns [target.id]) x⟩ := fun hx => by
    obtain ⟨hprovident, hleaving⟩ :=
      hm.killAnswered connection w.now.cursor.ns [target.id] hkilling hx
    exact ⟨hprovident, ⟨id, fun hs => ⟨hs, rfl⟩⟩, nofun, hleaving⟩
  rcases x with e | a
  · change if e.isOrdinary then _ else _
    split
    · rename_i he
      have hx : (.error e : Outcome Unit) ≠ .error .cancelled := by
        rintro heq
        cases heq
        simp [Failure.isOrdinary] at he
      exact Upheld.record lasting_leaving (hanswered hx) (passing_log ..)
    · rename_i he
      obtain rfl : e = .cancelled := by
        cases e <;> simp_all [Failure.isOrdinary]
      exact ⟨hcancelled.1, ⟨id, fun hs => ⟨hs, rfl⟩⟩, nofun, hcancelled.2⟩
  · exact hanswered (by simp)

/-- A batch that has come is absorbed; if it reaches the limit, the server cursor is killed. -/
theorem upholds_follow (h : Upheld plan (Pursuing plan) true w) (connection : Connection)
    (result : QueryResult) :
    (provision plan).Holds true (fun o w' => Upheld plan (Upshot plan o) true w')
      (follow connection result) w := by
  refine Program.ensures_bind.2 ?_
  simp only [Program.ensures_get, Program.continues_ok, Stretch.cell_load]
  split
  · exact upheld_error h
  rename_i hc
  obtain ⟨hreceived, hlasts⟩ := h.invariant.received h.kept (eq_false_of_ne_true hc) result
  refine Program.ensures_bind.2 (Program.ensures_mono ?_
    (holds_of_silent w.since (silent_absorb (m := w.now) result)))
  rintro _ w₁ ⟨hsince, rfl, hnow⟩
  obtain rfl : w₁ = ⟨w.since, w.now.absorbed result⟩ := by
    rw [← hsince, ← hnow]
  have hlasts' : Lasts w.since (w.now.absorbed result) := h.respects.trans hlasts
  rw [Program.continues_ok]
  split
  · rename_i hv
    obtain ⟨target, hs, hforgotten, hkilling⟩ := hreceived.reached hv
    have hkill : Upheld plan (Killing plan) true
        ⟨w.since, (w.now.absorbed result).put (w.now.absorbed result).cursor.forget⟩ :=
      upheld_absorbing hforgotten (hlasts'.trans ⟨id, fun hnone => by simp [hs] at hnone⟩) hkilling
    simp only [killHeld, Program.ensures_bind, Program.ensures_get, Program.continues_ok,
      Stretch.cell_load, hs, Program.ensures_modify, Stretch.cell_store]
    refine Program.ensures_mono ?_ (upholds_kill hkill target connection)
    rintro (e | _) w₂ h₂
    · exact h₂
    · have hne : (w.now.firstVerdict result).followUp ≠ .nothing := by simp [hv]
      exact ⟨h₂.invariant, h₂.respects, h₂.spares, by simpa [Upshot, hne] using h₂.kept⟩
  · rename_i hkill
    refine upheld_absorbing hreceived.provident hlasts' ?_
    by_cases hv : (w.now.firstVerdict result).followUp = .nothing
    · simpa [Upshot, hv] using hreceived.kept hv
    · simpa [Upshot, hv] using hreceived.ended (FollowUp.eq_release hv hkill)

theorem upholds_fetchOver (h : Upheld plan (Pursuing plan) true w) (target : ServerCursor)
    (connection : Connection) :
    (provision plan).Holds true (fun o w' => Upheld plan (Upshot plan o) true w')
      (fetchOver target connection) w := by
  have hbegins : Upheld plan (Pursuing plan) true
      ⟨w.since, w.now.record (.noticed (fetchBegins w.now.cursor target))⟩ :=
    Upheld.record lasting_pursuing h (passing_log ..)
  have hfetch : ∀ x wasOpen, (Incident.answered (fetchExchange w.now.cursor connection target)
      x wasOpen).cancelsKill = false := by
    intro x wasOpen
    have := isFetch_fetchExchange w.now.cursor connection target
    generalize fetchExchange w.now.cursor connection target = q at x this
    cases q <;> first | rfl | simp [isFetch] at this
  obtain ⟨hdemands, hresumes⟩ := Upheld.asked lasting_pursuing hbegins hfetch
  rw [fetchOver_eq]
  refine Program.ensures_bind.2 (ensures_requestBatch.2 ⟨hdemands, fun x w' hw' => ?_⟩)
  have h' := hresumes x w' hw'
  rcases fetched target _ x with e | result
  · exact upheld_error h'
  · exact upholds_follow (Upheld.record lasting_pursuing h' (passing_log ..)) connection result

theorem upholds_fetching (h : Upheld plan (Pursuing plan) true w) (target : ServerCursor) :
    (provision plan).Holds true (fun o w' => Upheld plan (Upshot plan o) true w')
      (withConnection (fetchOver target)) w := by
  refine ensures_withConnection.2 ?_
  simp only [Stretch.cell_load]
  split
  · exact upholds_fetchOver h target _
  · exact upheld_error h
  · rename_i handle hc _
    have hnone : plan.connection = none := h.invariant.connection ▸ hc
    obtain ⟨hdemands, hresumes⟩ := Upheld.asked lasting_pursuing h
      (q := .lease handle.resource) fun _ _ => rfl
    refine ⟨hdemands, fun x w' hw' => ?_⟩
    have h' := hresumes x w' hw'
    rcases x with e | connection
    · exact upheld_error h'
    · refine Program.ensures_mono (fun o w'' h'' => ?_) (upholds_fetchOver h' target connection)
      exact Upheld.record (lasting_upshot o) h'' (passing_releaseConnection hnone _ connection)

/-- Between its fetches a retrieval keeps what it counts on. -/
abbrev Upholds {α : Type} (plan : Plan) (p : Program Cursor α) : Prop :=
  Keeps ((provision plan).environment true) Stretch.cell (Upheld plan (Calling plan) true) p

theorem upholds_giveUp (e : Failure) : Upholds plan (giveUp e) := by
  intro w h
  refine Program.ensures_mono ?_
    (holds_of_silent w.since (silent_giveUp (m := w.now) h.invariant.async e))
  rintro _ w' ⟨hsince, rfl, hnow⟩
  obtain rfl : w' = ⟨w.since, w.now.abandoned e⟩ := by
    rw [← hsince, ← hnow]
  obtain ⟨hprovident, hcalling, hlasts⟩ := h.invariant.abandoned h.kept e
  exact upheld_absorbing hprovident (h.respects.trans hlasts) hcalling

theorem upholds_fetch : Upholds plan fetch := by
  intro w h
  simp only [fetch, Program.ensures_bind, Program.ensures_get, Program.continues_ok,
    Stretch.cell_load]
  rcases hs : w.now.cursor.progress.serverCursor with _ | target
  · exact h
  have hsome : w.now.cursor.progress.serverCursor.isSome := by simp [hs]
  have hpursuing : Upheld plan (Pursuing plan) true w :=
    ⟨h.invariant, h.respects, h.spares, h.kept, (h.invariant.live hsome).2.2, fun _ => hsome⟩
  refine Program.ensures_bind.2 (Program.ensures_attempt.2
    (Program.ensures_mono ?_ (upholds_fetching hpursuing target)))
  rintro (e | v) w' h'
  · exact keeps_bind (upholds_giveUp e) (fun _ => keeps_fail e) w'
      ⟨h'.invariant, h'.respects, h'.spares, h'.kept⟩
  · simp only [Program.continues_ok]
    have hkept := h'.kept
    split
    · rename_i hv
      rw [Upshot, if_pos hv] at hkept
      exact ⟨h'.invariant, h'.respects, h'.spares, hkept⟩
    · rename_i hv
      rw [Upshot, if_neg hv] at hkept
      obtain ⟨hprovident, hcalling, hlasts⟩ := h'.invariant.left hkept
      rw [ensures_releaseResources, settle_stretch]
      exact upheld_absorbing hprovident (h'.respects.trans hlasts) hcalling

/-! ## Retrieving -/

/-- A change that touches neither the resources nor the server cursor. -/
theorem Provident.put (h : Provident plan m) {c : Cursor} (hsetup : c.setup = m.cursor.setup)
    (hreleased : c.released = m.cursor.released) (hclosed : c.closed = m.cursor.closed)
    (hcleanups : c.cleanups = m.cursor.cleanups)
    (hs : c.progress.serverCursor = m.cursor.progress.serverCursor)
    (hdelivered : c.progress.delivered = m.cursor.progress.delivered) :
    Provident plan (m.put c) ∧ Concedes plan m (m.put c) := by
  have halike : Alike plan m (m.put c) :=
    alike_put (congrArg Setup.limit hsetup) hclosed hreleased hcleanups hs hdelivered
  have hguarded : Guarded plan (m.put c) :=
    h.toGuarded.put hsetup hreleased hclosed hcleanups fun hsome => h.live (hs ▸ hsome)
  exact ⟨h.alike halike hguarded, halike.concedes⟩

theorem upholds_waitBeforeRetry : Upholds plan waitBeforeRetry := by
  refine keeps_bind keeps_get fun c => keeps_bind (keeps_ofOutcome _) fun length => ?_
  refine keeps_bind (fun w h => Upheld.asked lasting_calling h (q := .pause length) fun _ _ => rfl)
    fun _ => ?_
  intro w h
  simp only [Program.ensures_bind, Program.ensures_get, Program.continues_ok]
  split
  · obtain ⟨hprovident, hc⟩ := h.invariant.put
      (c := { w.now.cursor with interrupted := false }) rfl rfl rfl rfl rfl rfl
    exact Upheld.moved lasting_calling h hprovident hc
  · split <;> exact h

theorem retrievable_upheld : Retrievable ((provision plan).environment true) Stretch.cell
    (Upheld plan (Calling plan) true) where
  fetch w h _ := upholds_fetch w h
  wait w h _ := upholds_waitBeforeRetry w h

theorem upholds_takeBatch : Upholds plan takeBatch := by
  intro w h
  refine ensures_takeBatch.2 ?_
  split
  · exact h
  · obtain ⟨hprovident, hc⟩ := h.invariant.put (c := { w.now.cursor with
      progress := { w.now.cursor.progress with nextBatch := none } }) rfl rfl rfl rfl rfl rfl
    exact Upheld.moved lasting_calling h hprovident hc

/-! ## Activities -/

/-- A retrieval that keeps what it counts on behaves. -/
theorem behaves_retrieval {a : Activity} (ha : a.isRetrieval = true) (hp : Upholds plan a.program)
    (h : Provident plan m) : (provision plan).Behaves a ⟨m, m.record (.begun a)⟩ a.program := by
  obtain ⟨hprovident, hcalling, hlasts⟩ := h.called ha
  have habsorbs : a.absorbs = true := by simp [Activity.absorbs, ha]
  unfold Protocol.Behaves
  rw [habsorbs]
  refine Program.ensures_mono (fun o w' h' => ?_)
    (hp _ (upheld_absorbing (w := ⟨m, m⟩) hprovident hlasts hcalling))
  obtain ⟨hended, hlasts'⟩ := h'.invariant.returned h'.kept ha o
  exact .absorbing hended (h'.respects.trans hlasts')

/-- An activity that is over at once behaves if what it leaves is provided for. -/
theorem behaves_silent {a : Activity} (hc : a.isCleanup = false) (hr : a.isRetrieval = false)
    (h : Provident plan m) {f : Moment → Moment} (hf : ∀ m, Provident plan m →
      Provident plan (f m) ∧ Concedes plan m (f m))
    (hsilent : Silent (fun o m' => o = .ok .nothing ∧ m' = f (m.record (.begun a))) a.program
      (m.record (.begun a))) :
    (provision plan).Behaves a ⟨m, m.record (.begun a)⟩ a.program := by
  have hbegun : Passing plan m (.begun a) := passing_begun hc hr
  obtain ⟨hprovident, hconcedes⟩ := hf _ (h.record hbegun)
  refine Program.ensures_mono ?_ (holds_of_silent m hsilent)
  rintro _ w' ⟨hsince, rfl, hnow⟩
  have hended : Passing plan (f (m.record (.begun a))) (.ended a (.ok .nothing)) :=
    passing_ended hc hr
  have hall := (hbegun.alike.concedes.trans hconcedes).trans hended.alike.concedes
  rw [hsince, hnow]
  exact ⟨hprovident.record hended, hall.toLasts, fun _ => hall⟩

/-- A scheduled kill counts on this. -/
theorem lasting_doomed : Lasting plan (Doomed plan) absorbing :=
  fun _ _ hl _ h => h.imp_right hl.closed

theorem undisturbed_upheld : Undisturbed ((provision plan).environment absorbing) Stretch.cell
    (Upheld plan (Doomed plan) absorbing) where
  ask q w _ h := by
    obtain ⟨hdemands, hresumes⟩ := Upheld.ask lasting_doomed h q
    refine ⟨hdemands, fun x w' hw' => ?_⟩
    obtain ⟨m, hm, hdoomed, rfl⟩ := hresumes x w' hw'
    exact Upheld.record lasting_doomed (upheld_start hm hdoomed) (passing_answered fun _ => hdoomed)
  log _ _ _ h := Upheld.record lasting_doomed h (passing_log ..)
  giveBack connection w₀ w h₀ hc h := by
    have hnone : plan.connection = none := h₀.invariant.connection ▸ hc
    exact Upheld.record lasting_doomed h (passing_releaseConnection hnone _ connection)

theorem behaves_doomed {target : ServerCursor} (h : Upheld plan (Doomed plan) false w) :
    (provision plan).Behaves (.cleanup target) w (Activity.cleanup target).program := by
  refine Program.ensures_bind.2 (Program.ensures_always.2 (Program.ensures_mono ?_
    (undisturbed_upheld.keeps_killCursor target none w h)))
  intro o w' h'
  have hends : ∀ outcome, (provision plan).Ends false w'.since
      (w'.now.settled.record (.ended (.cleanup target) outcome)) := by
    intro outcome
    obtain ⟨hprovident, hc⟩ := h'.invariant.finished h'.kept target outcome
    exact ⟨hprovident, h'.respects.trans hc.toLasts, fun _ => (h'.spares rfl).trans hc⟩
  rw [ensures_releaseResources, settle_stretch]
  rcases o with e | _
  · exact hends (.error e)
  · exact hends (.ok .nothing)

theorem sound_provision (plan : Plan) : (provision plan).Sound fun _ => True where
  refl m := ⟨.refl m, .refl m⟩
  respects_trans _ _ _ := .trans
  spares_trans _ _ _ := .trans
  call a m _ ha h := by
    cases a, ha using Activity.operation_cases with
    | close loopRuns =>
      exact behaves_silent rfl rfl h (fun m hm => hm.shutBy loopRuns)
        (silent_yield (silent_close (m := m.record (.begun (.close loopRuns))) h.async loopRuns))
    | interrupt =>
      exact behaves_silent rfl rfl h (f := fun m => m.put { m.cursor with interrupted := true })
        (fun m hm => hm.put rfl rfl rfl rfl rfl rfl) ⟨rfl, rfl⟩
    | setBatchSize n =>
      exact behaves_silent rfl rfl h (f := fun m => m.put { m.cursor with batchSize := n })
        (fun m hm => hm.put rfl rfl rfl rfl rfl rfl) ⟨rfl, rfl⟩
    | _ => exact behaves_retrieval rfl (retrievable_upheld.keeps_program upholds_takeBatch rfl) h
  run m before target after hc h := by
    obtain ⟨hprovident, halike⟩ := h.begun hc
    exact behaves_doomed ⟨hprovident, halike.lasts, fun _ => halike.concedes, h.toGuarded.doomed hc⟩

/-! ## Whole lives -/

/-- A cursor is provided for once it is made. -/
theorem provident_opening {c : Cursor} (hc : ofPlan .async plan = .ok c) (loopRuns : Bool) :
    ∃ m, Life.opening c plan.first loopRuns = ⟨m, []⟩ ∧ Provident plan m := by
  have hmode := (planned_of_ofPlan hc).mode
  have hfresh := fresh_of_ofPlan hc plan.first loopRuns
  have hu : (⟨c, [.begun (.opening plan.first loopRuns)]⟩ : Moment).unfinished = 0 := by
    obtain ⟨settings, rfl⟩ := exists_of_ofPlan hc
    rfl
  have hstranded : ¬ Stranded plan ⟨c, [.begun (.opening plan.first loopRuns)]⟩ := by
    rintro ⟨-, -, hany⟩
    simp [Incident.cancelsKill] at hany
  have hprovident := hfresh.provident_started hu (Nat.zero_le _) hstranded loopRuns
  exact ⟨_, opening_eq (.inl hmode), hprovident.record (passing_ended rfl rfl)⟩

theorem orderly_provident {c : Cursor} (hc : ofPlan .async plan = .ok c) (loopRuns : Bool) :
    (provision plan).Orderly (Life.opening c plan.first loopRuns) := by
  obtain ⟨m, heq, hprovident⟩ := provident_opening hc loopRuns
  rw [heq]
  exact ⟨hprovident, fun t ht => absurd ht List.not_mem_nil, Nat.zero_le _⟩

end DocumentClient.Cursor
