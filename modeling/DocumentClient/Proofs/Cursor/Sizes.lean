/-
  How many documents a cursor asks for.

  A retrieval looks whether the limit is reached right before each fetch, and only retrievals
  absorb batches, one at a time.  So a fetch is sent where the limit leaves room, and the batch
  that answers it finds the same room.  `Sized` says what such a fetch carries: `sizeDue` is the
  number of documents, `Room` what bounds it.

  `sized_of_reaches`: every fetch of every life is sized by the cursor as it is then, whatever
  batch sizes were set; and where no fetch brings more than it asked for, no more documents are
  received than the limit admits.
-/
import DocumentClient.Proofs.Cursor.Delivery
import DocumentClient.Proofs.Cursor.Serving

namespace DocumentClient

/-! ## Arithmetic -/

/-- How many documents the next fetch is to ask for; zero leaves it to the server. -/
def sizeDue (limit batchSize delivered : Int) : Int :=
  if limit = 0 then batchSize.natAbs
  else if batchSize = 0 then limit.natAbs - delivered
  else min (limit.natAbs - delivered) batchSize.natAbs

/-- The limit leaves something to fetch. -/
def Room (limit delivered : Int) : Prop := limit ≠ 0 → delivered < limit.natAbs

section
variable {limit batchSize delivered : Int}

theorem room_of_not_limitReached (h : limitReached limit delivered = false) :
    Room limit delivered := by
  simp only [limitReached, Bool.and_eq_false_iff, bne_eq_false_iff_eq, Int.natAbs_eq_zero,
    decide_eq_false_iff_not] at h
  unfold Room
  omega

theorem sizeDue_bounds (h : Room limit delivered) (hlimit : limit ≠ 0) :
    1 ≤ sizeDue limit batchSize delivered ∧
      sizeDue limit batchSize delivered ≤ limit.natAbs - delivered := by
  have hleft := h hlimit
  unfold sizeDue
  rw [if_neg hlimit]
  split <;> omega

theorem natAbs_numberToReturn (h : Room limit delivered) :
    ((numberToReturn limit batchSize delivered).natAbs : Int)
      = sizeDue limit batchSize delivered := by
  unfold numberToReturn sizeDue
  by_cases hlimit : limit = 0
  · simp [hlimit]
  have hleft := h hlimit
  rw [if_pos hlimit, if_neg hlimit]
  dsimp only
  split <;> split <;> omega

/-- A fetch asks for the last documents where the batch size says so, and is what bounds it. -/
theorem numberToReturn_neg_iff (h : Room limit delivered) :
    numberToReturn limit batchSize delivered < 0 ↔
      batchSize < 0 ∧ (limit = 0 ∨ (batchSize.natAbs : Int) < limit.natAbs - delivered) := by
  unfold numberToReturn
  by_cases hlimit : limit = 0
  · simp [hlimit]
  have hleft := h hlimit
  rw [if_pos hlimit]
  dsimp only
  split <;> omega

end

theorem lookup_batchSize_getMoreCommand (ns : Namespace) (id : Int) (count : Nat)
    (maxTimeMs : Int) :
    Document.lookup "batchSize" (getMoreCommand ns id count maxTimeMs) =
      if (count : Int) = 0 then none else some (.int count) := by
  unfold getMoreCommand
  by_cases hcount : count = 0 <;> by_cases htime : maxTimeMs = 0 <;>
    simp [hcount, htime, Document.lookup]

namespace Cursor

open Program (Ensures Environment)

/-! ## Fetches -/

/-- A fetch carries the number of documents that are due: a command leaves out a zero, and a
    message says by the sign whether the server is to close its cursor. -/
def CarriesSize (limit batchSize delivered : Int) : Exchange → Prop
  | .command _ _ command _ _ _ => Document.lookup "batchSize" command =
      if sizeDue limit batchSize delivered = 0 then none
      else some (.int (sizeDue limit batchSize delivered))
  | .getMore _ _ _ count _ => (count.natAbs : Int) = sizeDue limit batchSize delivered ∧
      (count < 0 ↔
        batchSize < 0 ∧ (limit = 0 ∨ (batchSize.natAbs : Int) < limit.natAbs - delivered))
  | _ => False

/-- A fetch that a cursor with a limit sends as it is. -/
structure Sized (limit : Int) (c : Cursor) (q : Exchange) : Prop where
  room : Room limit c.progress.delivered
  bounds : limit ≠ 0 → 1 ≤ sizeDue limit c.batchSize c.progress.delivered ∧
    sizeDue limit c.batchSize c.progress.delivered ≤ limit.natAbs - c.progress.delivered
  carried : CarriesSize limit c.batchSize c.progress.delivered q

/-- How many documents an exchange asks for; zero leaves it to the server. -/
def wanted : Exchange → Nat
  | .command _ _ command _ _ _ => (askedFor command).natAbs
  | .getMore _ _ _ count _ => count.natAbs
  | _ => 0

/-- An answer brings no more documents than were asked for, if a number was. -/
def Moderate (q : Exchange) (x : Outcome q.Answer) : Prop :=
  wanted q ≠ 0 → (received q x).length ≤ wanted q

section
variable {c : Cursor}

theorem sized_fetchExchange (h : Room c.limit c.progress.delivered) (connection : Connection)
    (target : ServerCursor) : Sized c.limit c (fetchExchange c connection target) := by
  refine ⟨h, sizeDue_bounds h, ?_⟩
  have hcount : ((DocumentClient.numberToReturn c.limit c.batchSize
      c.progress.delivered).natAbs : Int) = sizeDue c.limit c.batchSize c.progress.delivered :=
    natAbs_numberToReturn h
  unfold fetchExchange
  split
  · have hcarried := lookup_batchSize_getMoreCommand c.ns target.id
      (requestedCount c.limit c.batchSize c.progress.delivered) c.maxTimeMs
    rwa [requestedCount, hcount] at hcarried
  · exact ⟨hcount, numberToReturn_neg_iff h⟩

theorem wanted_fetchExchange (h : Room c.limit c.progress.delivered) (connection : Connection)
    (target : ServerCursor) : (wanted (fetchExchange c connection target) : Int)
      = sizeDue c.limit c.batchSize c.progress.delivered := by
  unfold fetchExchange
  split
  · have hasked := askedFor_getMoreCommand c.ns target.id
      (requestedCount c.limit c.batchSize c.progress.delivered) c.maxTimeMs
    simp only [wanted, getMoreCommand, hasked, Int.natAbs_natCast]
    exact natAbs_numberToReturn h
  · exact natAbs_numberToReturn h

end

/-! ## The protocol -/

variable {plan : Plan} {admits : (q : Exchange) → Outcome q.Answer → Prop}

/-- No batch is too long, neither the first one nor one that answers a fetch. -/
def Tame (plan : Plan) (admits : (q : Exchange) → Outcome q.Answer → Prop) : Prop :=
  (plan.limit ≠ 0 → plan.first.results.length ≤ plan.limit.natAbs) ∧
    ∀ q x, admits q x → Moderate q x

/-- No more documents were received than the limit admits, if no batch is too long. -/
def Bounded (plan : Plan) (admits : (q : Exchange) → Outcome q.Answer → Prop) (received : Int) :
    Prop :=
  Tame plan admits → plan.limit ≠ 0 → received ≤ plan.limit.natAbs

/-- The documents stay within the limit, and a fetch that was just sent is sized. -/
structure Sizes (plan : Plan) (admits : (q : Exchange) → Outcome q.Answer → Prop) (m : Moment) :
    Prop where
  limit : m.cursor.limit = plan.limit
  bounded : Bounded plan admits m.cursor.progress.delivered
  sized : ∀ q earlier, m.history = .asked q :: earlier → isFetch q → Sized plan.limit m.cursor q

/-- Every activity sizes its fetches. -/
def sizing (plan : Plan) (admits : (q : Exchange) → Outcome q.Answer → Prop) : Protocol where
  invariant := Sizes plan admits
  respects _ _ := True
  spares m m' := m'.cursor.progress.delivered = m.cursor.progress.delivered
  admits := admits

/-- The documents are counted in a stretch, and what a retrieval counts on still holds of their
    number. -/
structure Measured (plan : Plan) (admits : (q : Exchange) → Outcome q.Answer → Prop)
    (R : Int → Prop) (absorbing : Bool) (w : Stretch) : Prop where
  limit : w.now.cursor.limit = plan.limit
  bounded : Bounded plan admits w.now.cursor.progress.delivered
  spared : absorbing = false →
    w.now.cursor.progress.delivered = w.since.cursor.progress.delivered
  kept : absorbing → R w.now.cursor.progress.delivered

namespace Measured
variable {R : Int → Prop} {absorbing : Bool} {w : Stretch}

theorem moved (h : Measured plan admits R absorbing w) {m : Moment}
    (hlimit : m.cursor.limit = w.now.cursor.limit)
    (hdelivered : m.cursor.progress.delivered = w.now.cursor.progress.delivered) :
    Measured plan admits R absorbing ⟨w.since, m⟩ :=
  ⟨hlimit.trans h.limit, hdelivered ▸ h.bounded, fun ha => hdelivered.trans (h.spared ha),
    fun ha => hdelivered ▸ h.kept ha⟩

/-- A stretch ends in order, whatever has happened last, unless it was a fetch out of size. -/
theorem ends (h : Measured plan admits R absorbing w) (i : Incident)
    (hi : ∀ q, i = .asked q → isFetch q → Sized plan.limit w.now.cursor q) :
    (sizing plan admits).Ends absorbing w.since (w.now.record i) := by
  refine ⟨⟨h.limit, h.bounded, fun q earlier heq hq => ?_⟩, trivial, h.spared⟩
  exact hi q (List.cons.inj heq).1 hq

/-- While an exchange is under way, others leave the number of documents as it is. -/
theorem ask (h : Measured plan admits R absorbing w) {q : Exchange}
    (hq : isFetch q → Sized plan.limit w.now.cursor q) :
    ((sizing plan admits).environment absorbing).demands q w ∧
      ∀ x w', ((sizing plan admits).environment absorbing).resumes q w x w' →
        admits q x ∧ Measured plan admits R absorbing w' := by
  refine ⟨h.ends _ fun q' heq hq' => ?_, ?_⟩
  · cases heq
    exact hq hq'
  rintro x _ ⟨hx, m, hm, -, hspares, rfl⟩
  refine ⟨hx, hm.limit, hm.bounded, fun _ => rfl, fun ha => ?_⟩
  have hdelivered : m.cursor.progress.delivered = w.now.cursor.progress.delivered := hspares ha
  exact hdelivered ▸ h.kept ha

/-- What holds now can be counted on. -/
theorem counting {R' : Int → Prop} (h : Measured plan admits R absorbing w)
    (hR : R' w.now.cursor.progress.delivered) : Measured plan admits R' absorbing w :=
  ⟨h.limit, h.bounded, h.spared, fun _ => hR⟩

end Measured

theorem closable_measured {R : Int → Prop} {absorbing : Bool} :
    Closable ((sizing plan admits).environment absorbing) Stretch.cell
      (Measured plan admits R absorbing) where
  ask q w hq h := by
    obtain ⟨hdemands, hresumes⟩ := h.ask (q := q) fun hfetch => by simp [hq] at hfetch
    exact ⟨hdemands, fun x w' hw' => (hresumes x w' hw').2⟩
  log _ _ w h := h.moved rfl rfl
  giveBack _ _ w _ _ h := h.moved rfl rfl
  forget w h := h.moved rfl rfl
  settle w h := settle_of_take (fun n w h => h.moved rfl rfl) (fun w h => h.moved rfl rfl) h
  shut w h := h.moved rfl rfl
  schedule w cleanups h := h.moved rfl rfl
  interrupt w interrupted h := h.moved rfl rfl

/-! ## Fetching -/

/-- The documents are counted in the stretch of a retrieval. -/
abbrev Counting (plan : Plan) (admits : (q : Exchange) → Outcome q.Answer → Prop) :
    Stretch → Prop :=
  Measured plan admits (fun _ => True) true

/-- A retrieval that counts on something keeps the documents counted. -/
abbrev Counts {α : Type} (plan : Plan) (admits : (q : Exchange) → Outcome q.Answer → Prop)
    (p : Program Cursor α) (w : Stretch) : Prop :=
  (sizing plan admits).Holds true (fun _ w' => Counting plan admits w') p w

/-- There is room for a batch. -/
def FitsIn (plan : Plan) (admits : (q : Exchange) → Outcome q.Answer → Prop) (batch : List Value)
    (delivered : Int) : Prop :=
  Bounded plan admits (delivered + batch.length)

theorem counts_absorb {w : Stretch} {result : QueryResult}
    (h : Measured plan admits (FitsIn plan admits result.results) true w) :
    Counts plan admits (absorb result) w := by
  refine ensures_absorb fun w₁ hw₁ => ?_
  have hcursor : w₁.now.cursor = w.now.cursor := by
    rcases hw₁ with rfl | ⟨message, rfl⟩ <;> rfl
  refine ⟨h.limit, ?_, nofun, fun _ => trivial⟩
  have hfits := h.kept rfl
  simp only [Stretch.cell_load, Stretch.cell_store, Moment.put_cursor, Progress.advance_delivered]
  exact hfits

/-- A batch for which there is room is absorbed, or refused by a closed cursor. -/
theorem counts_follow {w : Stretch} {result : QueryResult}
    (h : Measured plan admits (FitsIn plan admits result.results) true w)
    (connection : Connection) :
    Counts plan admits (follow connection result) w := by
  exact ensures_follow (fun _ => h.counting trivial) (fun _ => counts_absorb h)
    (closable_measured.tended.keeps_killHeld _)

/-- There is room for what an exchange asks for. -/
def LeavesRoom (limit : Int) (q : Exchange) (delivered : Int) : Prop :=
  limit ≠ 0 → wanted q ≠ 0 ∧ delivered + wanted q ≤ limit.natAbs

/-- What moderate answers bring fits, where there is room for what was asked for. -/
theorem fits_of_leavesRoom {q : Exchange} {x : Outcome q.Answer} {delivered : Int}
    (h : LeavesRoom plan.limit q delivered) (hx : admits q x) {target : ServerCursor}
    {result : QueryResult} (hresult : fetched target q x = .ok result) :
    FitsIn plan admits result.results delivered := by
  intro htame hlimit
  obtain ⟨hwanted, hroom⟩ := h hlimit
  have hlength := htame.2 q x hx hwanted
  simp only [received_of_fetched target, hresult] at hlength
  omega

/-- A fetch that finds room asks for no more than that. -/
theorem counts_fetchOver {w : Stretch} (h : Measured plan admits (Room plan.limit) true w)
    (target : ServerCursor) (connection : Connection) :
    Counts plan admits (fetchOver target connection) w := by
  have hroom : Room w.now.cursor.limit w.now.cursor.progress.delivered := h.limit ▸ h.kept rfl
  have hsized := sized_fetchExchange hroom connection target
  have hleaves : LeavesRoom w.now.cursor.limit (fetchExchange w.now.cursor connection target)
      w.now.cursor.progress.delivered := by
    intro hlimit
    have hbounds := hsized.bounds hlimit
    rw [← wanted_fetchExchange hroom connection target] at hbounds
    omega
  rw [h.limit] at hsized hleaves
  have hbegun := (h.counting hleaves).moved (m := w.now.record (.noticed
    (fetchBegins w.now.cursor target))) rfl rfl
  obtain ⟨hdemands, hresumes⟩ := hbegun.ask fun _ => hsized
  rw [fetchOver_eq]
  refine Program.ensures_bind.2 (ensures_requestBatch.2 ⟨hdemands, fun x w' hw' => ?_⟩)
  obtain ⟨hx, h'⟩ := hresumes x w' hw'
  rcases hfetched : fetched target (fetchExchange w.now.cursor connection target) x with e | result
  · simp only [Stretch.cell_load, hfetched]
    exact h'.counting trivial
  · simp only [Stretch.cell_load, hfetched]
    have hfits := fits_of_leavesRoom (h'.kept rfl) hx hfetched
    exact counts_follow ((h'.counting hfits).moved (m := w'.now.record (.noticed
      (fetchEnds w.now.cursor target result))) rfl rfl) connection

theorem counts_fetching {w : Stretch} (h : Measured plan admits (Room plan.limit) true w)
    (target : ServerCursor) : Counts plan admits (withConnection (fetchOver target)) w := by
  refine ensures_withConnection.2 ?_
  split
  · exact counts_fetchOver h target _
  · exact h.counting trivial
  · rename_i handle _ _
    obtain ⟨hdemands, hresumes⟩ := closable_measured.ask (.lease handle.resource) w rfl h
    refine ⟨hdemands, fun x w' hw' => ?_⟩
    have h' := hresumes x w' hw'
    rcases x with e | connection
    · exact h'.counting trivial
    · exact Program.ensures_mono (fun _ w'' h'' => h''.moved rfl rfl)
        (counts_fetchOver h' target connection)

/-- A fetch keeps the documents counted, if the limit leaves something to fetch. -/
theorem counts_fetch {w : Stretch} (h : Counting plan admits w)
    (he : w.now.cursor.isExhausted = false) : Counts plan admits fetch w := by
  have hroom : Room plan.limit w.now.cursor.progress.delivered := by
    simp only [isExhausted, Bool.or_eq_false_iff] at he
    exact h.limit ▸ room_of_not_limitReached he.2
  exact ensures_fetch h (fun target _ => counts_fetching (h.counting hroom) target)
    closable_measured.tended.keeps_giveUp closable_measured.tended.keeps_releaseResources

theorem retrievable_counting :
    Retrievable ((sizing plan admits).environment true) Stretch.cell (Counting plan admits) where
  fetch _ h hs := counts_fetch h (isSettled_eq_false_iff.1 hs).2
  wait w h _ := closable_measured.keeps_waitBeforeRetry closable_measured.interrupt w h

theorem keeps_takeBatch_counting :
    Keeps ((sizing plan admits).environment true) Stretch.cell (Counting plan admits)
      takeBatch := by
  intro w h
  refine ensures_takeBatch.2 ?_
  split
  · exact h
  · exact h.moved rfl rfl

theorem operable_measured (a : Activity) :
    Operable ((sizing plan admits).environment a.absorbs) Stretch.cell
      (Measured plan admits (fun _ => True) a.absorbs) a where
  retrieve ha := Activity.absorbs_of_isRetrieval ha ▸ retrievable_counting
  take ha := Activity.absorbs_of_isRetrieval ha ▸ keeps_takeBatch_counting
  close loopRuns _ := closable_measured.tended.keeps_close loopRuns
  interrupt w h := closable_measured.interrupt w true h
  resize _ _ h := h.moved rfl rfl

/-! ## Whole lives -/

/-- What an activity keeps measured, it keeps up to its end. -/
theorem behaves_of_measured {a : Activity} {w : Stretch} {p : Program Cursor Yield}
    (hp : (sizing plan admits).Holds a.absorbs
      (fun _ w' => Measured plan admits (fun _ => True) a.absorbs w') p w) :
    (sizing plan admits).Behaves a w p :=
  Program.ensures_mono (fun _ _ h => h.ends _ fun _ heq => by simp at heq) hp

theorem sound_sizing : (sizing plan admits).Sound fun _ => True where
  refl _ := ⟨trivial, rfl⟩
  respects_trans _ _ _ _ _ := trivial
  spares_trans _ _ _ h h' := h'.trans h
  call a m _ ha h := by
    have hbegun : Measured plan admits (fun _ => True) a.absorbs ⟨m, m.record (.begun a)⟩ :=
      ⟨h.limit, h.bounded, fun _ => rfl, fun _ => trivial⟩
    exact behaves_of_measured ((operable_measured a).keeps_program ha _ hbegun)
  run m before target after _ h := by
    refine behaves_of_measured (keeps_bind (closable_measured.keeps_cleanup target)
      (fun _ => keeps_pure _) _ ?_)
    exact ⟨h.limit, h.bounded, fun _ => rfl, fun _ => trivial⟩

/-- The making of a cursor absorbs the first batch, and keeps the documents counted from then on. -/
theorem behaves_opening_sizing {mode : Mode} {c : Cursor} (hc : ofPlan mode plan = .ok c)
    (loopRuns : Bool) (since : Moment) :
    (sizing plan admits).Behaves (.opening plan.first loopRuns)
      ⟨since, ⟨c, [.begun (.opening plan.first loopRuns)]⟩⟩
      (Activity.opening plan.first loopRuns).program := by
  obtain ⟨settings, rfl⟩ := exists_of_ofPlan hc
  refine behaves_of_measured (Program.ensures_bind.2 (Program.ensures_mono ?_
    (closable_measured.tended.ensures_start (counts_absorb ?_))))
  · rintro (e | _) w h <;> exact h
  · refine ⟨rfl, fun _ _ => by simp, nofun, fun _ htame hlimit => ?_⟩
    have hfirst := htame.1 hlimit
    dsimp only
    omega

theorem sizes_of_reaches {mode : Mode} {c : Cursor} {loopRuns : Bool} {l : Life}
    (hc : ofPlan mode plan = .ok c)
    (hl : Life.Reaches ⟨false, fun _ => True, admits⟩ (Life.opening c plan.first loopRuns) l) :
    Sizes plan admits l.moment := by
  have hsound : (sizing plan admits).Sound fun _ => True := sound_sizing
  exact hsound.invariant_of_reaches hl
    (Protocol.orderly_opening (behaves_opening_sizing hc loopRuns ⟨c, []⟩))

/-- **Every fetch is sized, and the limit is kept.**  Whatever batch sizes are set, a fetch is only
    sent where the limit leaves room, and asks for as many documents as the limit and the batch
    size say.  If no batch is longer than that, no more documents come than the limit admits. -/
theorem sized_of_reaches {mode : Mode} {c : Cursor} {loopRuns : Bool} {l : Life}
    (hc : ofPlan mode plan = .ok c)
    (hl : Life.Reaches ⟨false, fun _ => True, admits⟩ (Life.opening c plan.first loopRuns) l) :
    (∀ q earlier, l.moment.history = .asked q :: earlier → isFetch q →
      Sized plan.limit l.moment.cursor q) ∧
    ((plan.limit ≠ 0 → plan.first.results.length ≤ plan.limit.natAbs) →
      (∀ q x, admits q x → Moderate q x) → plan.limit ≠ 0 →
      l.moment.cursor.progress.delivered ≤ plan.limit.natAbs) := by
  have hsizes := sizes_of_reaches hc hl
  exact ⟨hsizes.sized, fun hfirst hmoderate => hsizes.bounded ⟨hfirst, hmoderate⟩⟩

/-- A cursor that asks for the last two documents, after the batch size was set. -/
def askingTwo : Life :=
  ((((Life.opening (sample .blocking 5) (Plan.sample 5).first true).begin (.next 1)).begin
    (.setBatchSize (-2))).begin (.next 2)).respond lively

theorem sized_askingTwo :
    (∃ q earlier, askingTwo.moment.history = .asked q :: earlier ∧ wanted q = 2 ∧
      Sized 5 askingTwo.moment.cursor q) ∧
    (askingTwo.respond lively).moment.cursor.progress.delivered ≤ 5 := by
  have hopened : Life.Reaches ⟨false, fun _ => True, fun q x => x = lively q⟩
      (Life.opening (sample .blocking 5) (Plan.sample 5).first true)
      (Life.opening (sample .blocking 5) (Plan.sample 5).first true) := .refl
  have htaken := hopened.begin (a := .next 1)
    ⟨trivial, rfl, by decide +kernel, fun _ => by decide +kernel⟩
  have hset := htaken.begin (a := .setBatchSize (-2))
    ⟨trivial, rfl, by decide +kernel, by simp [Activity.isRetrieval]⟩
  have hwaiting := hset.begin (a := .next 2)
    ⟨trivial, rfl, by decide +kernel, fun _ => by decide +kernel⟩
  have hasking : Life.Reaches _ _ askingTwo := hwaiting.respond lively fun _ => rfl
  have hmoderate : ∀ q x, x = lively q → Moderate q x := by
    rintro q _ rfl hwanted
    cases q with
    | getMore connection ns cursorId count decode =>
      exact Nat.one_le_iff_ne_zero.2 hwanted
    | command connection database command secondaryOk names decode => exact Nat.zero_le _
    | _ => exact absurd rfl hwanted
  refine ⟨⟨_, _, rfl, rfl, (sized_of_reaches (ofPlan_sample _ _) hasking).1 _ _ rfl rfl⟩, ?_⟩
  exact (sized_of_reaches (ofPlan_sample .blocking 5) (hasking.respond lively fun _ => rfl)).2
    (by decide +kernel) hmoderate (by decide)

end Cursor

end DocumentClient
