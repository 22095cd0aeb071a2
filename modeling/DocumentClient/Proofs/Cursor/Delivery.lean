/-
  Which documents a cursor hands out, and in which order.

  The history of a cursor tells which documents have arrived (by the fetches answered
  while it was open) and which batches were handed out.  `Books` says that the two agree:
  what was handed out, then what is at hand, is the first batch and then all that has
  arrived, in this order.  Only an answer, an absorbed batch and a batch that is taken
  touch this; everything else spares it.

  `faithful_of_reaches`: so it is at every moment of every life.
-/
import DocumentClient.Proofs.Cursor.Keeping
import DocumentClient.Proofs.Cursor.Interleaved

namespace DocumentClient.Cursor

open Program (Ensures Environment)

/-! ## Documents in a history -/

/-- The documents that an answer brings, if it is the answer to a fetch and holds a batch. -/
def received : (q : Exchange) → Outcome q.Answer → List Value
  | .command connection _ _ _ _ _, .ok reply =>
    match QueryResult.ofGetMoreReply reply connection.server.address with
    | .ok result => result.results
    | .error _ => []
  | .getMore _ _ _ _ _, .ok result => result.results
  | _, _ => []

/-- The batch that an operation yields. -/
def Yield.batch : Yield → Option (List Value)
  | .retrieval (.batch documents) => some documents
  | .attempted batch => batch
  | _ => none

/-- The batch that an operation ends with. -/
def batchOf : Outcome Yield → Option (List Value)
  | .ok y => y.batch
  | .error _ => none

namespace Incident

/-- The documents that arrive, while the cursor is open. -/
def arrivals : Incident → List Value
  | .answered q x true => received q x
  | _ => []

/-- The batch that is handed out. -/
def handedOut : Incident → Option (List Value)
  | .ended _ outcome => batchOf outcome
  | _ => none

end Incident

namespace Moment

/-- All documents that have arrived, in this order. -/
def arrivals (m : Moment) : List Value := m.history.reverse.flatMap Incident.arrivals

/-- All batches that were handed out, in this order. -/
def handedOut (m : Moment) : List (List Value) := m.history.reverse.filterMap Incident.handedOut

/-- The documents at hand. -/
def atHand (m : Moment) : List Value := m.cursor.progress.nextBatch.getD []

@[simp] theorem put_arrivals (c : Cursor) (m : Moment) : (m.put c).arrivals = m.arrivals := rfl

@[simp] theorem put_handedOut (c : Cursor) (m : Moment) : (m.put c).handedOut = m.handedOut := rfl

theorem record_arrivals (i : Incident) (m : Moment) :
    (m.record i).arrivals = m.arrivals ++ i.arrivals := by
  simp [arrivals]

theorem record_handedOut (i : Incident) (m : Moment) :
    (m.record i).handedOut = m.handedOut ++ i.handedOut.toList := by
  cases h : i.handedOut <;> simp [handedOut, h]

end Moment

/-- **No document is lost, doubled or moved.** What was handed out and what is at hand are the
    first documents and all that have arrived. -/
structure Faithful (first : List Value) (m : Moment) : Prop where
  order : m.handedOut.flatten ++ m.atHand = first ++ m.arrivals
  count : m.cursor.progress.delivered = (first ++ m.arrivals).length
  filled : ∀ batch ∈ m.handedOut, batch ≠ []

/-! ## The books -/

/-- The books of a cursor, with documents that were taken by an operation which has not ended, and
    documents that have arrived and are still to be absorbed. -/
structure Books (first taken arriving : List Value) (m : Moment) : Prop where
  order : m.handedOut.flatten ++ taken ++ m.atHand ++ arriving = first ++ m.arrivals
  count : m.cursor.progress.delivered + arriving.length = (first ++ m.arrivals).length
  filled : ∀ batch ∈ m.handedOut, batch ≠ []
  nonempty : m.cursor.progress.nextBatch ≠ some []

/-- What the books record is the same. -/
structure Spares (m m' : Moment) : Prop where
  nextBatch : m'.cursor.progress.nextBatch = m.cursor.progress.nextBatch
  delivered : m'.cursor.progress.delivered = m.cursor.progress.delivered
  arrivals : m'.arrivals = m.arrivals
  handedOut : m'.handedOut = m.handedOut

theorem Spares.refl (m : Moment) : Spares m m := ⟨rfl, rfl, rfl, rfl⟩

theorem Spares.trans {m₁ m₂ m₃ : Moment} (h : Spares m₁ m₂) (h' : Spares m₂ m₃) : Spares m₁ m₃ :=
  ⟨h'.nextBatch.trans h.nextBatch, h'.delivered.trans h.delivered, h'.arrivals.trans h.arrivals,
    h'.handedOut.trans h.handedOut⟩

theorem Books.spared {first taken arriving : List Value} {m m' : Moment}
    (h : Books first taken arriving m) (hs : Spares m m') : Books first taken arriving m' where
  order := by rw [Moment.atHand, hs.handedOut, hs.nextBatch, hs.arrivals]; exact h.order
  count := by rw [hs.delivered, hs.arrivals]; exact h.count
  filled := by rw [hs.handedOut]; exact h.filled
  nonempty := by rw [hs.nextBatch]; exact h.nonempty

theorem spares_record {m : Moment} {i : Incident} (ha : i.arrivals = []) (ho : i.handedOut = none) :
    Spares m (m.record i) :=
  ⟨rfl, rfl, by rw [Moment.record_arrivals, ha, List.append_nil],
    by rw [Moment.record_handedOut, ho]; simp⟩

theorem arrivals_of_not_isFetch {q : Exchange} (hq : isFetch q = false) (x : Outcome q.Answer)
    (wasOpen : Bool) : (Incident.answered q x wasOpen).arrivals = [] := by
  cases wasOpen with
  | false => rfl
  | true => cases q <;> first | rfl | simp [isFetch] at hq

/-- What arrives is the batch that the fetch comes to. -/
theorem received_of_fetched {q : Exchange} (target : ServerCursor) (x : Outcome q.Answer) :
    received q x = match fetched target q x with
      | .ok result => result.results
      | .error _ => [] := by
  cases q <;> rcases x with e | answer <;> rfl

/-! ## Entries -/

variable {first : List Value} {m : Moment}

theorem Books.arrive (h : Books first [] [] m) {q : Exchange}
    (hn : m.cursor.progress.nextBatch = none) (x : Outcome q.Answer) :
    Books first [] (if m.cursor.closed then [] else received q x) (m.answer q x) := by
  have harrivals : (m.answer q x).arrivals =
      m.arrivals ++ if m.cursor.closed then [] else received q x := by
    rw [Moment.answer, Moment.record_arrivals]
    cases m.cursor.closed <;> rfl
  have hhanded : (m.answer q x).handedOut = m.handedOut := by
    rw [Moment.answer, Moment.record_handedOut]
    simp [Incident.handedOut]
  have horder := h.order
  have hcount := h.count
  simp only [Moment.atHand, hn, Option.getD_none, List.append_nil] at horder
  refine ⟨?_, ?_, by rw [hhanded]; exact h.filled, h.nonempty⟩
  · simp only [harrivals, hhanded, Moment.atHand, Moment.answer_cursor, hn, Option.getD_none,
      List.append_nil, ← List.append_assoc, horder]
  · rw [harrivals, Moment.answer_cursor, ← List.append_assoc]
    generalize (if m.cursor.closed then [] else received q x) = arrived
    simp at hcount ⊢
    omega

theorem Books.absorb {result : QueryResult} (h : Books first [] result.results m)
    (hn : m.cursor.progress.nextBatch = none) (limit batchSize : Int) :
    Books first [] [] (m.put { m.cursor with
      progress := (m.cursor.progress.advance limit batchSize result).1 }) := by
  have horder := h.order
  have hcount := h.count
  simp only [Moment.atHand, hn, Option.getD_none, List.append_nil] at horder
  refine ⟨?_, ?_, h.filled, Progress.advance_filled _ _ _ _⟩
  · simpa only [Moment.atHand, Moment.put_cursor, Moment.put_handedOut, Moment.put_arrivals,
      Progress.advance_atHand, List.append_nil] using horder
  · simpa [Progress.advance_delivered] using hcount

theorem Books.take {batch : List Value} (h : Books first [] [] m)
    (hb : m.cursor.progress.nextBatch = some batch) :
    Books first batch [] (m.put { m.cursor with
      progress := { m.cursor.progress with nextBatch := none } }) ∧ batch ≠ [] := by
  have horder := h.order
  simp only [Moment.atHand, hb, Option.getD_some, List.append_nil] at horder
  refine ⟨⟨?_, h.count, h.filled, by simp⟩, fun he => h.nonempty (he ▸ hb)⟩
  simpa [Moment.atHand] using horder

/-! ## The protocol -/

/-- Every activity keeps the books. -/
def delivery (first : List Value) : Protocol where
  invariant := Books first [] []
  respects _ _ := True
  spares := Spares
  admits _ _ := True

/-- The books are kept, others are spared, and what a retrieval counts on still holds. -/
structure Steady (first : List Value) (R : Moment → Prop) (absorbing : Bool) (w : Stretch) :
    Prop where
  books : Books first [] [] w.now
  spared : absorbing = false → Spares w.since w.now
  kept : absorbing → R w.now

theorem Steady.moved {R : Moment → Prop} (hR : ∀ m m', Spares m m' → R m → R m')
    {absorbing : Bool} {w : Stretch} (h : Steady first R absorbing w) {m' : Moment}
    (hs : Spares w.now m') : Steady first R absorbing ⟨w.since, m'⟩ :=
  ⟨h.books.spared hs, fun ha => (h.spared ha).trans hs, fun ha => hR _ _ hs (h.kept ha)⟩

/-- Housekeeping is steady. -/
theorem closable_steady {R : Moment → Prop} (hR : ∀ m m', Spares m m' → R m → R m')
    (absorbing : Bool) :
    Closable ((delivery first).environment absorbing) Stretch.cell (Steady first R absorbing) where
  ask q w hq h := by
    have hasked : Spares w.now (w.now.record (.asked q)) := spares_record rfl rfl
    refine ⟨⟨h.books.spared hasked, trivial, fun ha => (h.spared ha).trans hasked⟩, ?_⟩
    rintro x _ ⟨-, m₁, hbooks, -, hspares, rfl⟩
    have hanswer : Spares m₁ (m₁.answer q x) :=
      spares_record (arrivals_of_not_isFetch hq x _) rfl
    exact ⟨hbooks.spared hanswer, fun _ => hanswer,
      fun ha => hR _ _ ((hasked.trans (hspares ha)).trans hanswer) (h.kept ha)⟩
  log _ _ w h := h.moved hR (spares_record rfl rfl)
  giveBack _ _ w _ _ h := h.moved hR (spares_record rfl rfl)
  forget w h := h.moved hR ⟨rfl, rfl, rfl, rfl⟩
  settle w h := settle_of_take (fun n w h => h.moved hR (spares_record rfl rfl))
    (fun w h => h.moved hR ⟨rfl, rfl, rfl, rfl⟩) h
  shut w h := h.moved hR ⟨rfl, rfl, rfl, rfl⟩
  schedule w cleanups h := h.moved hR ⟨rfl, rfl, rfl, rfl⟩
  interrupt w interrupted h := h.moved hR ⟨rfl, rfl, rfl, rfl⟩

/-! ## Fetching -/

/-- The books are balanced in the stretch of a retrieval. -/
abbrev Balanced (first : List Value) : Stretch → Prop := Steady first (fun _ => True) true

/-- The books are balanced, and no batch is at hand. -/
abbrev Vacant (first : List Value) : Stretch → Prop :=
  Steady first (fun m => m.cursor.progress.nextBatch = none) true

/-- A retrieval keeps the books balanced. -/
abbrev Balances {α : Type} (first : List Value) (p : Program Cursor α) (w : Stretch) : Prop :=
  (delivery first).Holds true (fun _ w' => Balanced first w') p w

theorem Books.steady {R : Moment → Prop} {w : Stretch} (h : Books first [] [] w.now)
    (hR : R w.now) : Steady first R true w := ⟨h, nofun, fun _ => hR⟩

theorem Books.balanced {w : Stretch} (h : Books first [] [] w.now) : Balanced first w :=
  h.steady trivial

theorem closable_balanced :
    Closable ((delivery first).environment true) Stretch.cell (Balanced first) :=
  closable_steady (fun _ _ _ _ => trivial) true

theorem balances_bind {α β : Type} {p : Program Cursor α} {f : α → Program Cursor β} {w : Stretch}
    (hp : Balances first p w) (hf : ∀ a w', Balanced first w' → Balances first (f a) w') :
    Balances first (p >>= f) w := by
  refine Program.ensures_bind.2 (Program.ensures_mono ?_ hp)
  rintro (e | a) w' h
  · exact h
  · exact hf a w' h

/-- A batch that has come while the cursor is open is absorbed. -/
theorem balances_absorb {w : Stretch} {result : QueryResult}
    (h : Books first [] result.results w.now) (hn : w.now.cursor.progress.nextBatch = none) :
    Balances first (absorb result) w := by
  refine ensures_absorb fun w₁ hw₁ => Books.balanced ?_
  rcases hw₁ with rfl | ⟨message, rfl⟩
  · exact h.absorb hn _ _
  · exact (h.spared (spares_record rfl rfl)).absorb hn _ _

theorem vacant_of_spares (m m' : Moment) (hs : Spares m m')
    (hn : m.cursor.progress.nextBatch = none) : m'.cursor.progress.nextBatch = none :=
  hs.nextBatch.trans hn

/-- A batch that has come is absorbed, or refused by a closed cursor. -/
theorem balances_follow {w : Stretch} {result : QueryResult}
    (h : Books first [] (if w.now.cursor.closed then [] else result.results) w.now)
    (hn : w.now.cursor.progress.nextBatch = none) (connection : Connection) :
    Balances first (follow connection result) w := by
  refine Program.ensures_bind.2 ?_
  simp only [Program.ensures_get, Program.continues_ok, Stretch.cell_load]
  split
  · rename_i hc
    rw [if_pos hc] at h
    exact h.balanced
  · rename_i hc
    rw [if_neg hc] at h
    refine balances_bind (balances_absorb h hn) fun verdict w' h' => ?_
    split
    · exact balances_bind (closable_balanced.tended.keeps_killHeld _ _ h') fun _ _ h'' => h''
    · exact h'

theorem balances_fetchOver {w : Stretch} (h : Vacant first w) (target : ServerCursor)
    (connection : Connection) : Balances first (fetchOver target connection) w := by
  have hasked : Spares w.now ((w.now.record (.noticed (fetchBegins w.now.cursor target))).record
      (.asked (fetchExchange w.now.cursor connection target))) :=
    (spares_record rfl rfl).trans (spares_record rfl rfl)
  rw [fetchOver_eq]
  refine Program.ensures_bind.2
    (ensures_requestBatch.2 ⟨.absorbing (h.books.spared hasked) trivial, ?_⟩)
  rintro x _ ⟨-, m₁, hbooks, -, hspares, rfl⟩
  have hn : m₁.cursor.progress.nextBatch = none :=
    vacant_of_spares _ _ (hasked.trans (hspares rfl)) (h.kept rfl)
  have harrive := Books.arrive hbooks hn x
  rw [received_of_fetched target] at harrive
  generalize fetched target (fetchExchange (Stretch.cell.load w) connection target) x = outcome
    at harrive ⊢
  rcases outcome with e | result
  · exact Books.balanced (by simpa using harrive)
  · refine balances_follow ?_ hn connection
    exact harrive.spared (spares_record rfl rfl)

theorem balances_fetching {w : Stretch} (h : Vacant first w) (target : ServerCursor) :
    Balances first (withConnection (fetchOver target)) w := by
  refine ensures_withConnection.2 ?_
  simp only [Stretch.cell_load]
  split
  · exact balances_fetchOver h target _
  · exact h.books.balanced
  · rename_i handle _ _
    obtain ⟨hasked, hresumes⟩ :=
      (closable_steady vacant_of_spares true).ask (.lease handle.resource) w rfl h
    refine ⟨hasked, fun x w' hw' => ?_⟩
    have h' := hresumes x w' hw'
    rcases x with e | connection
    · exact h'.books.balanced
    · refine Program.ensures_mono (fun _ w'' h'' => ?_) (balances_fetchOver h' target connection)
      exact h''.moved (fun _ _ _ _ => trivial) (spares_record rfl rfl)

/-- A fetch keeps the books, if no batch is at hand. -/
theorem balances_fetch {w : Stretch} (h : Balanced first w)
    (hn : w.now.cursor.progress.nextBatch = none) : Balances first fetch w := by
  simp only [fetch, Balances, Program.ensures_bind, Program.ensures_get, Program.continues_ok,
    Stretch.cell_load]
  rcases w.now.cursor.progress.serverCursor with _ | target
  · exact h
  refine balances_bind (Program.ensures_attempt.2
    (balances_fetching (h.books.steady hn) target)) fun o w' h' => ?_
  rcases o with e | verdict
  · exact balances_bind (closable_balanced.tended.keeps_giveUp e _ h') fun _ _ h'' => h''
  · dsimp only
    split
    · exact h'
    · exact closable_balanced.tended.keeps_releaseResources _ h'

/-! ## Retrieving -/

theorem retrievable_balanced :
    Retrievable ((delivery first).environment true) Stretch.cell (Balanced first) where
  fetch w h hs := balances_fetch h (by simpa [hasBatch] using (isSettled_eq_false_iff.1 hs).1)
  wait w h _ := closable_balanced.keeps_waitBeforeRetry closable_balanced.interrupt w h

/-- A retrieval comes to its end with a batch that is still to be handed out, or with none. -/
structure Brings (first : List Value) (batch : Option (List Value)) (w : Stretch) : Prop where
  books : Books first (batch.getD []) [] w.now
  nonempty : batch ≠ some []

theorem Balanced.brings {w : Stretch} (h : Balanced first w) : Brings first none w :=
  ⟨h.books, nofun⟩

theorem brings_takeBatch {w : Stretch} (h : Balanced first w) :
    (delivery first).Holds true (fun o w' => Brings first o.toOption w') takeBatch w := by
  refine ensures_takeBatch.2 ?_
  split
  · exact h.brings
  · rename_i batch hb
    obtain ⟨hbooks, hne⟩ := h.books.take hb
    exact ⟨hbooks, fun he => hne (Option.some.inj he)⟩

theorem brings_next (rounds : Nat) {w : Stretch} (h : Balanced first w) :
    (delivery first).Holds true (fun o w' => Brings first (batchOf o) w')
      (Activity.next rounds).program w := by
  refine Program.ensures_bind.2 (Program.ensures_bind.2
    (Program.ensures_mono ?_ (retrievable_balanced.keeps_hasNext rounds w h)))
  rintro (e | available) w₁ h₁
  · exact h₁.brings
  cases available with
  | ready =>
    refine Program.ensures_bind.2 (Program.ensures_mono ?_ (brings_takeBatch h₁))
    rintro (e | documents) w₂ h₂ <;> exact h₂
  | ended => exact h₁.brings
  | pending => exact h₁.brings

theorem brings_tryNext {w : Stretch} (h : Balanced first w) :
    (delivery first).Holds true (fun o w' => Brings first (batchOf o) w')
      Activity.tryNext.program w := by
  refine Program.ensures_bind.2 ?_
  rw [tryNext_eq]
  refine Program.ensures_bind.2 (Program.ensures_mono ?_ (keeps_ensureOpen w h))
  rintro (e | _) w₁ h₁
  · exact h₁.brings
  refine Program.ensures_bind.2 (Program.ensures_mono ?_
    (retrievable_balanced.keeps_fetchUnlessSettled w₁ h₁))
  rintro (e | _) w₂ h₂
  · exact h₂.brings
  simp only [handOut, Program.ensures_bind, Program.ensures_get, Program.continues_ok]
  split
  · refine Program.ensures_bind.2 (Program.ensures_mono ?_ (brings_takeBatch h₂))
    rintro (e | documents) w₃ h₃ <;> exact h₃
  · exact h₂.brings

/-! ## Whole lives -/

/-- At its end a retrieval hands out its batch. -/
theorem Brings.ended {o : Outcome Yield} {w : Stretch} (h : Brings first (batchOf o) w)
    (a : Activity) : Books first [] [] (w.now.record (.ended a o)) := by
  have harrivals : (w.now.record (.ended a o)).arrivals = w.now.arrivals := by
    simp [Moment.record_arrivals, Incident.arrivals]
  have hhanded : (w.now.record (.ended a o)).handedOut = w.now.handedOut ++ (batchOf o).toList :=
    Moment.record_handedOut _ _
  have hflatten : (batchOf o).toList.flatten = (batchOf o).getD [] := by
    cases batchOf o <;> simp
  refine ⟨?_, ?_, ?_, h.books.nonempty⟩
  · rw [harrivals, hhanded, List.flatten_append, hflatten]
    simpa [Moment.atHand] using h.books.order
  · rw [harrivals]; exact h.books.count
  · rw [hhanded]
    intro batch hb
    rcases List.mem_append.1 hb with hb | hb
    · exact h.books.filled batch hb
    · rintro rfl
      exact h.nonempty (Option.mem_toList.1 hb)

theorem behaves_of_brings {a : Activity} (ha : a.absorbs = true) {w : Stretch}
    (h : (delivery first).Holds true (fun o w' => Brings first (batchOf o) w') a.program w) :
    (delivery first).Behaves a w a.program := by
  unfold Protocol.Behaves
  rw [ha]
  exact Program.ensures_mono (fun o w' h' => .absorbing (h'.ended a) trivial) h

/-- An activity that yields nothing behaves if it is steady. -/
theorem behaves_of_steady {a : Activity} {w : Stretch} {p : Program Cursor Unit}
    (hp : (delivery first).Holds a.absorbs
      (fun _ w' => Steady first (fun _ => True) a.absorbs w') p w) :
    (delivery first).Behaves a w (p >>= fun _ => pure .nothing) := by
  refine Program.ensures_bind.2 (Program.ensures_mono ?_ hp)
  rintro (e | _) w' h
  · have hs := spares_record (m := w'.now) (i := .ended a (.error e)) rfl rfl
    exact ⟨h.books.spared hs, trivial, fun ha => (h.spared ha).trans hs⟩
  · have hs := spares_record (m := w'.now) (i := .ended a (.ok .nothing)) rfl rfl
    exact ⟨h.books.spared hs, trivial, fun ha => (h.spared ha).trans hs⟩

theorem sound_delivery (first : List Value) (offers : Activity → Prop) :
    (delivery first).Sound offers where
  refl m := ⟨trivial, .refl m⟩
  respects_trans _ _ _ _ _ := trivial
  spares_trans _ _ _ := .trans
  call a m _ ha h := by
    have hbegun : Spares m (m.record (.begun a)) := spares_record rfl rfl
    have hsteady : ∀ absorbing, Steady first (fun _ => True) absorbing ⟨m, m.record (.begun a)⟩ :=
      fun _ => ⟨h.spared hbegun, fun _ => hbegun, fun _ => trivial⟩
    cases a, ha using Activity.operation_cases with
    | hasNext rounds =>
      refine behaves_of_brings rfl (Program.ensures_bind.2
        (Program.ensures_mono ?_ (retrievable_balanced.keeps_hasNext rounds _ (hsteady true))))
      rintro (e | available) w₁ h₁ <;> exact h₁.brings
    | next rounds => exact behaves_of_brings rfl (brings_next rounds (hsteady true))
    | tryNext => exact behaves_of_brings rfl (brings_tryNext (hsteady true))
    | close loopRuns =>
      exact behaves_of_steady ((closable_steady (fun _ _ _ _ => trivial) false).tended.keeps_close
        loopRuns _ (hsteady false))
    | interrupt =>
      exact behaves_of_steady ((closable_steady (fun _ _ _ _ => trivial) false).interrupt
        _ true (hsteady false))
    | setBatchSize n =>
      exact behaves_of_steady ((hsteady false).moved (fun _ _ _ _ => trivial) ⟨rfl, rfl, rfl, rfl⟩)
  run m before target after hc h := by
    have hput : Spares m (m.put { m.cursor with cleanups := before ++ after }) :=
      ⟨rfl, rfl, rfl, rfl⟩
    have hbegun := hput.trans (spares_record (i := .begun (.cleanup target)) rfl rfl)
    exact behaves_of_steady ((closable_steady (fun _ _ _ _ => trivial) false).keeps_cleanup
      target _ ⟨h.spared hbegun, fun _ => hbegun, fun _ => trivial⟩)

/-- The making of a cursor absorbs the first batch, and keeps the books from then on. -/
theorem behaves_opening {plan : Plan} {mode : Mode} {c : Cursor} (hc : ofPlan mode plan = .ok c)
    (loopRuns : Bool) (since : Moment) :
    (delivery plan.first.results).Behaves (.opening plan.first loopRuns)
      ⟨since, ⟨c, [.begun (.opening plan.first loopRuns)]⟩⟩
      (Activity.opening plan.first loopRuns).program := by
  obtain ⟨settings, rfl⟩ := exists_of_ofPlan hc
  refine behaves_of_steady (closable_balanced.tended.ensures_start (balances_absorb ?_ rfl))
  refine ⟨?_, ?_, nofun, nofun⟩
  · simp [Moment.handedOut, Moment.arrivals, Moment.atHand, Incident.handedOut, Incident.arrivals]
  · simp [Moment.arrivals, Incident.arrivals]

theorem books_of_reaches {mode : Mode} {plan : Plan} {c : Cursor} {loopRuns : Bool} {l : Life}
    (hc : ofPlan mode plan = .ok c)
    (hl : Life.Reaches ⟨false, fun _ => True, fun _ _ => True⟩
      (Life.opening c plan.first loopRuns) l) : Books plan.first.results [] [] l.moment :=
  (sound_delivery plan.first.results fun _ => True).invariant_of_reaches hl
    (Protocol.orderly_opening (behaves_opening hc loopRuns ⟨c, []⟩))

/-- **Every document once, in order.** Whatever the mode and the plan of a cursor, and whatever is
    called, answered, cancelled and run in between, what was handed out and what is at hand are the
    first documents and then all that have arrived. -/
theorem faithful_of_reaches {mode : Mode} {plan : Plan} {c : Cursor} {loopRuns : Bool} {l : Life}
    (hc : ofPlan mode plan = .ok c)
    (hl : Life.Reaches ⟨false, fun _ => True, fun _ _ => True⟩
      (Life.opening c plan.first loopRuns) l) :
    Faithful plan.first.results l.moment := by
  have hopening : (delivery plan.first.results).Orderly (Life.opening c plan.first loopRuns) :=
    Protocol.orderly_opening (behaves_opening hc loopRuns ⟨c, []⟩)
  have hbooks := (sound_delivery plan.first.results fun _ => True).invariant_of_reaches hl hopening
  exact ⟨by simpa using hbooks.order, by simpa using hbooks.count, hbooks.filled⟩

/-- A retrieval is cancelled while it waits for its connection; the next one brings the batch. -/
def retried : Life :=
  let taken := (Life.opening (sample .async 0) (Plan.sample 0).first true).begin (.next 2)
  let cancelled := (taken.begin (.next 2)).respond fun _ => .error .cancelled
  ((cancelled.begin (.next 2)).respond obliging).respond obliging

theorem faithful_retried : retried.moment.handedOut = [[.int 1], [.int 2]] ∧
    Faithful (Plan.sample 0).first.results retried.moment := by
  let opened := Life.opening (sample .async 0) (Plan.sample 0).first true
  have hopened : Life.Reaches ⟨false, fun _ => True, fun _ _ => True⟩ opened opened := .refl
  have htaken := hopened.begin (a := .next 2)
    ⟨trivial, rfl, by decide +kernel, fun _ => by decide +kernel⟩
  have hwaiting := htaken.begin (a := .next 2)
    ⟨trivial, rfl, by decide +kernel, fun _ => by decide +kernel⟩
  have hcancelled := hwaiting.respond (fun _ => .error .cancelled) fun _ => trivial
  have hagain := hcancelled.begin (a := .next 2)
    ⟨trivial, rfl, by decide +kernel, fun _ => by decide +kernel⟩
  have hover := (hagain.respond obliging fun _ => trivial).respond obliging fun _ => trivial
  exact ⟨by decide +kernel, faithful_of_reaches (ofPlan_sample _ _) hover⟩

end DocumentClient.Cursor
