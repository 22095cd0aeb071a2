/-
  How often a call fetches and pauses.

  `perform` runs an operation in a world that answers it, by all that has happened, and that
  nobody else acts in.  `Shows` says what a stretch of the history shows of it: the replies
  that came, as many requests of fetches, and the pauses.  A reply is idle if it is an empty
  batch after which the cursor still awaits a fetch.

  `next_polls`: awaiting a batch is polling for it, in all that is asked and left; an attempt
  fetches at most once, and never pauses.  A call from a cursor that awaits a fetch fetches
  once more than it pauses, and pauses as often as the replies to come first are idle; where
  no other reply comes, its rounds are over, or something else has cut it short.
-/
import DocumentClient.Proofs.Cursor.Alone
import DocumentClient.Proofs.Cursor.Polling

namespace DocumentClient.Cursor

open Program (Ensures Environment Interpreter interpret)

variable {c : Cursor} {m m' m₁ m₂ : Moment} {result : QueryResult}
  {since later earlier : List Incident} {rs rs' : List (Option QueryResult)} {k k' : Nat}

/-! ## Worlds -/

/-- The world that answers by what has happened, and does nothing else. -/
def world (answers : List Incident → (q : Exchange) → Outcome q.Answer) : Interpreter Moment where
  take n m := m.record (.noticed n)
  answer q m := (answers m.history q, (m.record (.asked q)).answer q (answers m.history q))

/-- An operation in that world, from a moment on. -/
def perform {α : Type} (answers : List Incident → (q : Exchange) → Outcome q.Answer)
    (p : Program Cursor α) (m : Moment) : Outcome α × Moment :=
  interpret (world answers) Moment.cell p m

/-- The environment of an operation that is answered at once, and may ask for anything. -/
def solitary : Environment Moment := answering fun _ _ => True

theorem perform_of_ensures {α : Type} {Q : Outcome α → Moment → Prop} {p : Program Cursor α}
    (answers : List Incident → (q : Exchange) → Outcome q.Answer) :
    ∀ {m : Moment}, Ensures solitary Moment.cell Q p m →
      Q (perform answers p m).1 (perform answers p m).2 := by
  induction p with
  | done outcome => exact fun h => h
  | read next ih => exact fun h => ih _ h
  | write c next ih => exact fun h => ih h
  | note n next ih => exact fun h => ih h
  | ask q next ih => exact fun h => ih _ (h.2 _ _ rfl)

/-! ## What a history shows -/

/-- The batch that an answer brings, if it brings one. -/
def brought : (q : Exchange) → Outcome q.Answer → Option QueryResult
  | .command connection _ _ _ _ _, .ok reply =>
    (QueryResult.ofGetMoreReply reply connection.server.address).toOption
  | .getMore _ _ _ _ _, .ok result => some result
  | _, _ => none

namespace Incident

/-- Whether an exchange of some kind is asked for. -/
def asksFor (p : Exchange → Bool) : Incident → Bool
  | .asked q => p q
  | _ => false

/-- The reply to a fetch: a batch, or none if the fetch has failed. -/
def reply : Incident → Option (Option QueryResult)
  | .answered q x _ => if isFetch q then some (brought q x) else none
  | _ => none

end Incident

/-- The replies in a history, in this order. -/
def replies (history : List Incident) : List (Option QueryResult) :=
  history.reverse.filterMap Incident.reply

theorem replies_append (later earlier : List Incident) :
    replies (later ++ earlier) = replies earlier ++ replies later := by
  simp [replies]

theorem replies_answered (q : Exchange) (x : Outcome q.Answer) (wasOpen : Bool) :
    replies [.answered q x wasOpen, .asked q] = if isFetch q then [brought q x] else [] := by
  by_cases hq : isFetch q <;> simp [replies, List.filterMap_cons, Incident.reply, hq]

/-- A stretch of a history shows some replies, as many requests of fetches, and some pauses. -/
structure Shows (since : List Incident) (rs : List (Option QueryResult)) (pauses : Nat) :
    Prop where
  replies : replies since = rs
  fetches : since.countP (Incident.asksFor isFetch) = rs.length
  pauses : since.countP (Incident.asksFor isPause) = pauses

theorem Shows.append (h : Shows earlier rs k) (h' : Shows later rs' k') :
    Shows (later ++ earlier) (rs ++ rs') (k + k') where
  replies := by rw [replies_append, h.replies, h'.replies]
  fetches := by
    rw [List.countP_append, h.fetches, h'.fetches, List.length_append, Nat.add_comm]
  pauses := by rw [List.countP_append, h.pauses, h'.pauses, Nat.add_comm]

theorem brought_eq {q : Exchange} (hq : isFetch q) (x : Outcome q.Answer) (target : ServerCursor) :
    brought q x = (fetched target q x).toOption := by
  cases q with
  | command => rcases x with e | reply <;> rfl
  | getMore => rcases x with e | result <;> rfl
  | _ => simp [isFetch] at hq

/-- From a moment to another, a stretch of history shows some replies and pauses. -/
structure Passes (m m' : Moment) (since : List Incident) (rs : List (Option QueryResult))
    (pauses : Nat) : Prop extends Shows since rs pauses where
  history : m'.history = since ++ m.history

theorem Passes.refl (m : Moment) : Passes m m [] [] 0 := ⟨⟨rfl, rfl, rfl⟩, rfl⟩

theorem Passes.trans (h : Passes m m₁ earlier rs k) (h' : Passes m₁ m₂ later rs' k') :
    Passes m m₂ (later ++ earlier) (rs ++ rs') (k + k') where
  toShows := h.toShows.append h'.toShows
  history := by rw [h'.history, h.history, List.append_assoc]

theorem passes_noticed (m : Moment) (n : Notice) :
    Passes m (m.record (.noticed n)) [.noticed n] [] 0 :=
  ⟨⟨rfl, rfl, rfl⟩, rfl⟩

/-- A fetch shows its reply. -/
theorem passes_fetch {q : Exchange} (hq : isFetch q) (x : Outcome q.Answer) (m : Moment) :
    Passes m ((m.record (.asked q)).answer q x) [.answered q x (!m.cursor.closed), .asked q]
      [brought q x] 0 where
  replies := by rw [replies_answered, if_pos hq]
  fetches := by simp [Incident.asksFor, hq]
  pauses := by cases q <;> simp_all [Incident.asksFor, isFetch, isPause]
  history := rfl

theorem passes_pause (d : Duration) (x : Outcome Unit) (m : Moment) :
    Passes m ((m.record (.asked (.pause d))).answer (.pause d) x)
      [.answered (.pause d) x (!m.cursor.closed), .asked (.pause d)] [] 1 :=
  ⟨⟨rfl, rfl, rfl⟩, rfl⟩

/-- Other exchanges show neither. -/
theorem passes_answered {q : Exchange} (hfetch : isFetch q = false) (hpause : isPause q = false)
    (x : Outcome q.Answer) (m : Moment) : Passes m ((m.record (.asked q)).answer q x)
      [.answered q x (!m.cursor.closed), .asked q] [] 0 where
  replies := by rw [replies_answered, if_neg (by simp [hfetch])]
  fetches := by simp [Incident.asksFor, hfetch]
  pauses := by simp [Incident.asksFor, hpause]
  history := rfl

/-- Since a moment, neither a fetch was asked for nor a pause. -/
def Aside (m m' : Moment) : Prop := ∃ since, Passes m m' since [] 0

theorem Aside.refl (m : Moment) : Aside m m := ⟨[], .refl m⟩

theorem Aside.trans (h : Aside m m₁) (h' : Aside m₁ m₂) : Aside m m₂ := by
  obtain ⟨since, h⟩ := h
  obtain ⟨since', h'⟩ := h'
  exact ⟨since' ++ since, h.trans h'⟩

theorem Aside.put (h : Aside m m') (c : Cursor) : Aside m (m'.put c) :=
  h.imp fun _ h => ⟨h.toShows, h.history⟩

theorem Aside.noticed (h : Aside m m') (n : Notice) : Aside m (m'.record (.noticed n)) :=
  h.trans ⟨_, passes_noticed m' n⟩

theorem Aside.answered {q : Exchange} (h : Aside m m') (hfetch : isFetch q = false)
    (hpause : isPause q = false) (x : Outcome q.Answer) :
    Aside m ((m'.record (.asked q)).answer q x) :=
  h.trans ⟨_, passes_answered hfetch hpause x m'⟩

/-! ## Idle replies -/

/-- A cursor that has absorbed a batch. -/
def absorbing (c : Cursor) (result : QueryResult) : Cursor :=
  { c with progress := (c.progress.advance c.limit c.batchSize result).1 }

/-- Whether a batch is empty, and leaves a cursor awaiting a fetch. -/
def idles (c : Cursor) (result : QueryResult) : Bool :=
  result.results.isEmpty && decide ((c.absorbing result).state = .awaitingFetch)

/-- How many replies come first that are idle. -/
def idleReplies : Cursor → List (Option QueryResult) → Nat
  | c, some result :: rs => if c.idles result then idleReplies (c.absorbing result) rs + 1 else 0
  | _, _ => 0

theorem state_eq_awaitingFetch_iff :
    c.state = .awaitingFetch ↔ c.closed = false ∧ c.isSettled = false := by
  unfold state isSettled
  cases c.closed <;> cases c.hasBatch <;> cases c.isExhausted <;> decide

/-! ## Giving up -/

/-- Kills neither fetch nor pause. -/
theorem killable_aside (m : Moment) (target : ServerCursor) :
    Killable solitary Moment.cell (Aside m) (Aside m) (fun _ => True) target where
  send _ _ _ h := ⟨trivial, by rintro x _ rfl; exact ⟨h.answered rfl rfl x, fun _ _ => trivial⟩⟩
  fails _ _ h := h.noticed _
  back _ _ h := h.noticed _
  lease _ _ h := by
    refine ⟨trivial, ?_⟩
    rintro (e | x) _ rfl
    · exact ⟨h.answered rfl rfl _, trivial⟩
    · exact h.answered rfl rfl _
  noSource _ h _ _ := ⟨h, trivial⟩

theorem keeps_aside_killCursor (m : Moment) (target : ServerCursor) (given : Option Connection) :
    Keeps solitary Moment.cell (Aside m) (killCursor target given) :=
  fun _ h => Program.ensures_mono (fun _ _ h' => h'.1)
    ((killable_aside m target).ensures_killCursor given (h.noticed _))

theorem tended_aside (m : Moment) : Tended solitary Moment.cell (Aside m) where
  forget _ h := h.put _
  settle _ h := settle_of_take (fun _ _ h => h.noticed _) (fun _ h => h.put _) h
  shut _ h := h.put _
  schedule _ _ h := h.put _
  interrupt _ _ h := h.put _
  kill target connection := keeps_aside_killCursor m target (some connection)
  killOwn target _ _ _ := keeps_aside_killCursor m target none
  skip _ _ h := h.noticed _

/-! ## Fetches -/

/-- What a reply leaves of a cursor: it is idle, or else the cursor is settled unless the fetch
    fails. -/
inductive Receipt (c : Cursor) : Option QueryResult → Outcome Verdict → Cursor → Prop where
  | idle {result : QueryResult} {c' : Cursor} (h : c.idles result)
      (hcursor : c' = c.absorbing result) : Receipt c (some result) (.ok .kept) c'
  | other {r : Option QueryResult} {o : Outcome Verdict} {c' : Cursor}
      (h : idleReplies c [r] = 0) (hsettled : ∀ v, o = .ok v → c'.isSettled) : Receipt c r o c'

theorem not_idles_of_isSettled (h : (c.absorbing result).isSettled) : c.idles result = false := by
  refine Bool.and_eq_false_imp.2 fun _ => decide_eq_false fun hstate => ?_
  rw [(state_eq_awaitingFetch_iff.1 hstate).2] at h
  cases h

theorem idleReplies_eq_zero (h : c.idles result = false) : idleReplies c [some result] = 0 := by
  simp [idleReplies, h]

/-- A batch that is absorbed leaves the cursor settled, unless it is idle. -/
theorem receipt_absorbing (hopen : c.closed = false) {v : Verdict}
    (h : (c.progress.advance c.limit c.batchSize result).2 = v) :
    Receipt c (some result) (.ok v) (c.absorbing result) := by
  have hfate := Progress.advance_fate c.progress c.limit c.batchSize result
  rw [h] at hfate
  have hother (hs : (c.absorbing result).isSettled) :
      Receipt c (some result) (.ok v) (c.absorbing result) :=
    .other (idleReplies_eq_zero (not_idles_of_isSettled hs)) fun _ _ => hs
  cases hfate with
  | ended _ hs => exact hother (isSettled_of_none hs)
  | dropped _ _ _ hs => exact hother (isSettled_of_none hs)
  | limitReached _ hl _ =>
    exact hother (Bool.or_eq_true_iff.2 (.inr (Bool.or_eq_true_iff.2 (.inr hl))))
  | kept _ hl _ hs =>
    have hnext : (c.absorbing result).progress.nextBatch =
        if result.results.isEmpty then none else some result.results :=
      Progress.advance_nextBatch ..
    by_cases hempty : result.results.isEmpty
    · have hsettled : (c.absorbing result).isSettled = false := by
        rw [if_pos hempty] at hnext
        refine isSettled_eq_false_iff.2 ⟨by rw [hasBatch, hnext]; rfl, ?_⟩
        exact Bool.or_eq_false_iff.2 ⟨Option.isNone_eq_false_iff.2 (hs ▸ rfl), hl⟩
      exact .idle (Bool.and_eq_true_iff.2
        ⟨hempty, decide_eq_true (state_eq_awaitingFetch_iff.2 ⟨hopen, hsettled⟩)⟩) rfl
    · rw [if_neg hempty] at hnext
      exact hother (Bool.or_eq_true_iff.2 (.inl (by rw [hasBatch, hnext]; rfl)))

theorem aside_tell (ns : List Notice) (h : Aside m m') :
    Aside m (ns.foldl (fun m n => m.record (.noticed n)) m') := by
  induction ns generalizing m' with
  | nil => exact h
  | cons n ns ih => exact ih (h.noticed n)

theorem ensures_absorb_receipt (hopen : m.cursor.closed = false) (result : QueryResult) :
    Ensures solitary Moment.cell (fun o m' => Aside m m' ∧ m'.cursor = m.cursor.absorbing result ∧
      ∃ v, o = .ok v ∧ Receipt m.cursor (some result) o m'.cursor) (absorb result) m :=
  (ensures_absorb_iff rfl).2
    ⟨(aside_tell _ (.refl m)).put _, rfl, _, rfl, receipt_absorbing hopen rfl⟩

/-- Where more follows than nothing, the reply is not idle. -/
theorem Receipt.changed {r : Option QueryResult} {v : Verdict} {o : Outcome Verdict}
    {c₁ c₂ : Cursor} (h : Receipt c r (.ok v) c₁) (hv : v.followUp ≠ .nothing)
    (hsettled : ∀ v, o = .ok v → c₂.isSettled) : Receipt c r o c₂ := by
  cases h with
  | idle _ _ => exact absurd rfl hv
  | other h _ => exact .other h hsettled

theorem Receipt.not_idle {r : Option QueryResult} {e : Failure} {c₁ : Cursor}
    (h : Receipt c r (.error e) c₁) : idleReplies c [r] = 0 := by
  cases h with
  | other h _ => exact h

/-- A server cursor that is gone stays gone. -/
theorem undisturbed_none :
    Undisturbed solitary Moment.cell fun m => m.cursor.progress.serverCursor = none where
  ask _ _ _ h := ⟨trivial, by rintro x _ rfl; exact h⟩
  log _ _ _ h := h
  giveBack _ _ _ _ _ h := h

/-- What is absorbed is followed up on without a fetch or a pause. -/
theorem ensures_follow_receipt (hopen : m.cursor.closed = false) (connection : Connection)
    (result : QueryResult) : Ensures solitary Moment.cell
      (fun o m' => Aside m m' ∧ Receipt m.cursor (some result) o m'.cursor)
      (follow connection result) m := by
  simp only [follow, Program.ensures_bind, Program.ensures_get, Program.continues_ok,
    Moment.cell_load, hopen]
  split
  · rename_i hclosed
    simp at hclosed
  refine Program.ensures_bind.2 (Program.ensures_mono ?_ (ensures_absorb_receipt hopen result))
  rintro _ m₁ ⟨haside, hcursor, v, rfl, hreceipt⟩
  rw [Program.continues_ok]
  split
  · rename_i hkill
    refine Program.ensures_bind.2 (Program.ensures_mono ?_ (Program.ensures_and
      ((tended_aside m).keeps_killHeld connection m₁ haside)
      (undisturbed_none.ensures_killHeld rfl (fun hs => hs) (some connection))))
    rintro (e | _) m₂ ⟨h₂, hs⟩
    · exact ⟨h₂, hreceipt.changed (by simp [hkill]) (by simp)⟩
    · exact ⟨h₂, hreceipt.changed (by simp [hkill]) fun _ _ => isSettled_of_none hs⟩
  · exact ⟨haside, hreceipt⟩

/-- A fetch over a connection asks once, and shows one reply. -/
theorem ensures_fetchOver_receipt (hopen : m.cursor.closed = false) (target : ServerCursor)
    (connection : Connection) : Ensures solitary Moment.cell
      (fun o m' => ∃ since r, Passes m m' since [r] 0 ∧ Receipt m.cursor r o m'.cursor)
      (fetchOver target connection) m := by
  rw [fetchOver_eq]
  refine Program.ensures_bind.2 (ensures_requestBatch.2 ⟨trivial, ?_⟩)
  rintro x _ rfl
  have hq := isFetch_fetchExchange (Moment.cell.load m) connection target
  have hasked := (passes_noticed m (fetchBegins m.cursor target)).trans
    (passes_fetch hq x (m.record (.noticed (fetchBegins m.cursor target))))
  rw [brought_eq hq x target] at hasked
  generalize fetched target (fetchExchange (Moment.cell.load m) connection target) x = outcome
    at hasked ⊢
  rcases outcome with e | result
  · exact ⟨_, _, hasked, .other rfl nofun⟩
  · refine Program.ensures_mono ?_ (ensures_follow_receipt ?_ connection result)
    · rintro o m' ⟨⟨since, haside⟩, hreceipt⟩
      exact ⟨_, _, hasked.trans ((passes_noticed _ _).trans haside), hreceipt⟩
    · exact hopen

/-- What cuts a call short that still awaits a fetch: a lease or a pause that fails, or that there
    is nothing to lease from, no interval to pause for, or an interruption. -/
inductive CutShort (c : Cursor) (since : List Incident) : Prop where
  | lease {source : Source} {e : Failure} {wasOpen : Bool}
      (h : .answered (.lease source) (.error e) wasOpen ∈ since)
  | pause {length : Duration} {e : Failure} {wasOpen : Bool}
      (h : .answered (.pause length) (.error e) wasOpen ∈ since)
  | noSource (hconnection : c.connection = none) (hsource : c.source = none)
  | noInterval {e : Failure} (h : Duration.ofInterval c.settings.pollInterval = .error e)
  | interrupted (h : c.interrupted)

theorem CutShort.mono (h : CutShort c since) (hsince : since ⊆ later) : CutShort c later := by
  cases h with
  | lease h => exact .lease (hsince h)
  | pause h => exact .pause (hsince h)
  | noSource h h' => exact .noSource h h'
  | noInterval h => exact .noInterval h
  | interrupted h => exact .interrupted h

/-- How a fetch ends that a cursor awaits. -/
inductive FetchEnd (m : Moment) : Outcome Unit → Moment → Prop where
  /-- Nothing was asked for. -/
  | cut {m' : Moment} {since : List Incident} {e : Failure} (h : Passes m m' since [] 0)
      (hcut : CutShort m.cursor since) : FetchEnd m (.error e) m'
  | idle {m' : Moment} {since : List Incident} {result : QueryResult}
      (h : Passes m m' since [some result] 0) (hidle : m.cursor.idles result)
      (hcursor : m'.cursor = m.cursor.absorbing result) : FetchEnd m (.ok ()) m'
  | other {m' : Moment} {since : List Incident} {r : Option QueryResult} {o : Outcome Unit}
      (h : Passes m m' since [r] 0) (hidle : idleReplies m.cursor [r] = 0)
      (hsettled : o = .ok () → m'.cursor.isSettled) : FetchEnd m o m'

theorem ensures_fetching_end (hopen : m.cursor.closed = false) (target : ServerCursor) :
    Ensures solitary Moment.cell (fun o m' =>
      (∃ since, Passes m m' since [] 0 ∧ CutShort m.cursor since ∧ ∃ e, o = .error e) ∨
        ∃ since r, Passes m m' since [r] 0 ∧ Receipt m.cursor r o m'.cursor)
      (withConnection (fetchOver target)) m := by
  refine ensures_withConnection.2 ?_
  split
  · exact Program.ensures_mono (fun _ _ => .inr) (ensures_fetchOver_receipt hopen target _)
  · rename_i hconnection hsource
    exact .inl ⟨[], .refl m, .noSource hconnection hsource, _, rfl⟩
  · rename_i handle _ _
    refine ⟨trivial, ?_⟩
    rintro (e | x) m₁ rfl
    · exact .inl ⟨_, passes_answered rfl rfl _ m, .lease (List.mem_cons_self ..), _, rfl⟩
    · refine Program.ensures_mono ?_ (ensures_fetchOver_receipt ?_ target x)
      · rintro o m₂ ⟨since, r, hpasses, hreceipt⟩
        exact .inr ⟨_, r, ((passes_answered rfl rfl _ m).trans hpasses).trans
          (passes_noticed m₂ _), hreceipt⟩
      · exact hopen

/-- A fetch that a cursor awaits asks once, unless it is cut short. -/
theorem ensures_fetch_end (hstate : m.cursor.state = .awaitingFetch) :
    Ensures solitary Moment.cell (FetchEnd m) fetch m := by
  obtain ⟨hopen, hs⟩ := state_eq_awaitingFetch_iff.1 hstate
  simp only [fetch, Program.ensures_bind, Program.ensures_get, Program.continues_ok]
  split
  · rename_i hnone
    rw [Moment.cell_load] at hnone
    rw [isSettled_of_none hnone] at hs
    cases hs
  refine Program.ensures_bind.2 (Program.ensures_attempt.2 (Program.ensures_mono ?_
    (ensures_fetching_end hopen _)))
  rintro (e | v) m₁ (⟨since, hpasses, hcut, he⟩ | ⟨since, r, hpasses, hreceipt⟩)
  · refine Program.ensures_bind.2 (Program.ensures_mono ?_
      ((tended_aside m₁).keeps_giveUp e m₁ (.refl m₁)))
    rintro (e' | _) m₂ ⟨later, haside⟩ <;>
      exact .cut (hpasses.trans haside) (hcut.mono (List.subset_append_right ..))
  · refine Program.ensures_bind.2 (Program.ensures_mono ?_
      ((tended_aside m₁).keeps_giveUp e m₁ (.refl m₁)))
    rintro (e' | _) m₂ ⟨later, haside⟩ <;>
      exact .other (hpasses.trans haside) hreceipt.not_idle (by simp)
  · obtain ⟨e, he⟩ := he
    cases he
  · rw [Program.continues_ok]
    cases hreceipt with
    | idle hidle hcursor => exact .idle hpasses hidle hcursor
    | other hidle hsettled =>
      dsimp only
      split
      · exact .other hpasses hidle fun _ => hsettled v rfl
      · obtain ⟨later, haside⟩ := (tended_aside m₁).settle m₁ (.refl m₁)
        refine ensures_releaseResources.2 (.other (hpasses.trans haside) hidle fun _ => ?_)
        rw [Moment.settle_eq rfl, Moment.settled_cursor]
        exact hsettled v rfl

/-! ## Pauses -/

/-- How a pause between two fetches ends. -/
inductive PauseEnd (m : Moment) : Outcome Unit → Moment → Prop where
  | elapsed {m' : Moment} {since : List Incident} (h : Passes m m' since [] 1)
      (hcursor : m'.cursor = m.cursor) : PauseEnd m (.ok ()) m'
  | cut {m' : Moment} {since : List Incident} {e : Failure} {k : Nat} (h : Passes m m' since [] k)
      (hk : k ≤ 1) (hcut : CutShort m.cursor since) : PauseEnd m (.error e) m'

theorem ensures_waitBeforeRetry_end (hopen : m.cursor.closed = false) :
    Ensures solitary Moment.cell (PauseEnd m) waitBeforeRetry m := by
  refine ensures_waitBeforeRetry.2 ?_
  split
  · rename_i e he
    exact .cut (.refl m) (Nat.zero_le 1) (.noInterval he)
  rename_i length _
  refine ⟨trivial, ?_⟩
  rintro (e | _) m₁ rfl
  · exact .cut (passes_pause length (.error e) m) le_rfl (.pause (List.mem_cons_self ..))
  have hpasses := passes_pause length (.ok ()) m
  dsimp only
  split
  · rename_i hinterrupted
    exact .cut ⟨hpasses.toShows, hpasses.history⟩ le_rfl (.interrupted hinterrupted)
  split
  · rename_i hclosed
    rw [show m.cursor.closed = true from hclosed] at hopen
    cases hopen
  · exact .elapsed hpasses rfl

/-! ## Calls -/

/-- How often a call fetches and pauses that begins where a fetch is awaited. -/
inductive Paced {α : Type} (pending : α) (m m' : Moment) (o : Outcome α) : Prop where
  /-- A reply comes after those that are idle. -/
  | answered {since : List Incident} {rs : List (Option QueryResult)}
      (h : Passes m m' since rs (idleReplies m.cursor rs))
      (hlast : rs.length = idleReplies m.cursor rs + 1)
  /-- All replies are idle: the call is over before another one comes. -/
  | idle {since : List Incident} {rs : List (Option QueryResult)} {k : Nat}
      (h : Passes m m' since rs k) (hidle : rs.length = idleReplies m.cursor rs)
      (hk : k ≤ idleReplies m.cursor rs)
      (hcut : o = .ok pending ∨ (∃ e, o = .error e) ∧ CutShort m.cursor since)

theorem CutShort.of_absorbing (h : CutShort (c.absorbing result) since) : CutShort c since := by
  cases h with
  | lease h => exact .lease h
  | pause h => exact .pause h
  | noSource h h' => exact .noSource h h'
  | noInterval h => exact .noInterval h
  | interrupted h => exact .interrupted h

theorem idleReplies_cons (hidle : c.idles result) (rs : List (Option QueryResult)) :
    idleReplies c (some result :: rs) = idleReplies (c.absorbing result) rs + 1 :=
  if_pos hidle

/-- An idle reply and a pause come before the rest of a call. -/
theorem Paced.after {α : Type} {pending : α} {o : Outcome α}
    (hm : Passes m m₁ since [some result] 1) (hidle : m.cursor.idles result)
    (hcursor : m₁.cursor = m.cursor.absorbing result) (h : Paced pending m₁ m' o) :
    Paced pending m m' o := by
  cases h with
  | @answered later rs h hlast =>
    rw [hcursor] at h hlast
    have hidle := idleReplies_cons hidle rs
    have hpasses := hm.trans h
    rw [List.singleton_append, Nat.add_comm, ← hidle] at hpasses
    exact .answered hpasses (by rw [hidle, List.length_cons, hlast])
  | @idle later rs k h hlast hk hcut =>
    rw [hcursor] at hlast hk hcut
    have hidle := idleReplies_cons hidle rs
    have hpasses := hm.trans h
    rw [List.singleton_append, Nat.add_comm] at hpasses
    refine .idle hpasses (by rw [hidle, List.length_cons, hlast]) ?_ ?_
    · rw [hidle]
      exact Nat.succ_le_succ hk
    · exact hcut.imp_right fun ⟨he, hcut⟩ =>
        ⟨he, hcut.of_absorbing.mono (List.subset_append_left ..)⟩

/-- A settled cursor is looked at only. -/
theorem ensures_awaitBatch_of_isSettled {m : Moment} (hs : m.cursor.isSettled) (rounds : Nat) :
    Ensures solitary Moment.cell (fun _ m' => m' = m) (awaitBatch rounds) m := by
  cases rounds with
  | zero => exact rfl
  | succ rounds =>
    rw [awaitBatch_succ]
    simp only [Program.ensures_bind, Program.ensures_get, Program.continues_ok, Moment.cell_load]
    split
    · exact rfl
    rename_i hb
    split
    · exact rfl
    rename_i he
    simp [isSettled, hb, he] at hs

theorem state_of_idles (hidle : c.idles result) : (c.absorbing result).state = .awaitingFetch :=
  of_decide_eq_true (Bool.and_eq_true_iff.1 hidle).2

theorem ensures_pauseUnlessSettled_end (hstate : m.cursor.state = .awaitingFetch) :
    Ensures solitary Moment.cell (PauseEnd m) pauseUnlessSettled m := by
  obtain ⟨hopen, hs⟩ := state_eq_awaitingFetch_iff.1 hstate
  refine (Program.ensures_bind (p := Program.get)).2 ?_
  rw [Program.ensures_get, Program.continues_ok, Moment.cell_load,
    if_neg (ne_true_of_eq_false hs)]
  exact ensures_waitBeforeRetry_end hopen

theorem ensures_awaitBatch_paced (rounds : Nat) : ∀ {m : Moment}, m.cursor.state = .awaitingFetch →
    Ensures solitary Moment.cell (fun o m' => Paced .pending m m' o) (awaitBatch rounds) m := by
  induction rounds with
  | zero => exact fun _ => .idle (.refl _) rfl le_rfl (.inl rfl)
  | succ rounds ih =>
    intro m hstate
    obtain ⟨hb, he⟩ := isSettled_eq_false_iff.1 (state_eq_awaitingFetch_iff.1 hstate).2
    rw [awaitBatch_succ]
    refine (Program.ensures_bind (p := Program.get)).2 ?_
    rw [Program.ensures_get, Program.continues_ok, Moment.cell_load,
      if_neg (ne_true_of_eq_false hb), if_neg (ne_true_of_eq_false he)]
    refine Program.ensures_bind.2 (Program.ensures_mono ?_ (ensures_fetch_end hstate))
    rintro o m₁ hend
    cases hend with
    | cut h hcut => exact .idle h rfl (Nat.zero_le _) (.inr ⟨⟨_, rfl⟩, hcut⟩)
    | idle h hidle hcursor =>
      refine Program.ensures_bind.2 (Program.ensures_mono ?_
        (ensures_pauseUnlessSettled_end (hcursor ▸ state_of_idles hidle)))
      rintro o m₂ hpause
      cases hpause with
      | elapsed h' hcursor' =>
        have hcursor₂ : m₂.cursor = m.cursor.absorbing _ := hcursor'.trans hcursor
        exact Program.ensures_mono (fun _ _ => Paced.after (h.trans h') hidle hcursor₂)
          (ih (hcursor₂ ▸ state_of_idles hidle))
      | cut h' hk hcut =>
        rw [hcursor] at hcut
        have hone : idleReplies m.cursor [some _] = 1 := idleReplies_cons hidle []
        refine .idle (h.trans h') hone.symm ?_ (.inr ⟨⟨_, rfl⟩,
          hcut.of_absorbing.mono (List.subset_append_left ..)⟩)
        rw [Nat.zero_add]
        exact hk.trans_eq hone.symm
    | other h hidle hsettled =>
      have hpaced {m' : Moment} (heq : m' = m₁) (o : Outcome Availability) :
          Paced .pending m m' o := by
        rw [← hidle, ← heq] at h
        exact .answered h (by rw [hidle]; rfl)
      rcases o with e | _
      · exact hpaced rfl _
      refine Program.ensures_bind.2 ((Program.ensures_bind (p := Program.get)).2 ?_)
      rw [Program.ensures_get, Program.continues_ok, Moment.cell_load, if_pos (hsettled rfl)]
      exact Program.ensures_mono (fun o _ heq => hpaced heq o)
        (ensures_awaitBatch_of_isSettled (hsettled rfl) rounds)

/-- What follows a call without a fetch or a pause leaves it paced. -/
theorem Paced.followed {α β : Type} {pending : α} {pending' : β} {o : Outcome α} {o' : Outcome β}
    (h : Paced pending m m₁ o) (hhistory : m₂.history = m₁.history)
    (hpending : o = .ok pending → o' = .ok pending')
    (herror : ∀ e, o = .error e → o' = .error e) : Paced pending' m m₂ o' := by
  have hpasses {since rs k} (h : Passes m m₁ since rs k) : Passes m m₂ since rs k :=
    ⟨h.toShows, hhistory.trans h.history⟩
  cases h with
  | answered h hlast => exact .answered (hpasses h) hlast
  | idle h hidle hk hcut =>
    refine .idle (hpasses h) hidle hk (hcut.imp hpending ?_)
    rintro ⟨⟨e, he⟩, hcut⟩
    exact ⟨⟨e, herror e he⟩, hcut⟩

/-- A call that awaits a batch, and hands it out. -/
theorem ensures_next_paced (hstate : m.cursor.state = .awaitingFetch) (rounds : Nat) :
    Ensures solitary Moment.cell (fun o m' => Paced .pending m m' o) (next rounds) m := by
  have hopen := (state_eq_awaitingFetch_iff.1 hstate).1
  refine Program.ensures_bind.2 (Program.ensures_bind.2 (ensures_ensureOpen.2 ?_))
  rw [Moment.cell_load, if_neg (ne_true_of_eq_false hopen), Program.continues_ok]
  refine Program.ensures_mono ?_ (ensures_awaitBatch_paced rounds hstate)
  rintro (e | available) m₁ hpaced
  · exact hpaced.followed rfl nofun fun _ he => congrArg _ (Except.error.inj he)
  cases available with
  | ready =>
    refine Program.ensures_bind.2 (ensures_takeBatch.2 ?_)
    split <;> exact hpaced.followed rfl nofun nofun
  | ended => exact hpaced.followed rfl nofun nofun
  | pending => exact hpaced.followed rfl (fun _ => rfl) nofun

/-- From a moment to another, one fetch is asked for at most, and no pause. -/
def AtMostOnce (m m' : Moment) : Prop := ∃ since rs, Passes m m' since rs 0 ∧ rs.length ≤ 1

theorem FetchEnd.atMostOnce {o : Outcome Unit} (h : FetchEnd m o m') : AtMostOnce m m' := by
  cases h with
  | cut h _ => exact ⟨_, _, h, Nat.zero_le 1⟩
  | idle h _ _ => exact ⟨_, _, h, le_rfl⟩
  | other h _ _ => exact ⟨_, _, h, le_rfl⟩

/-- An attempt fetches at most once, and never pauses. -/
theorem ensures_tryNext_atMostOnce (m : Moment) :
    Ensures solitary Moment.cell (fun _ m' => AtMostOnce m m') tryNext m := by
  rw [tryNext_eq]
  refine Program.ensures_bind.2 (ensures_ensureOpen.2 ?_)
  split
  · exact ⟨[], [], .refl m, Nat.zero_le 1⟩
  rename_i hopen
  have hfetch : Ensures solitary Moment.cell (fun _ m' => AtMostOnce m m')
      fetchUnlessSettled m := by
    refine (Program.ensures_bind (p := Program.get)).2 ?_
    rw [Program.ensures_get, Program.continues_ok, Moment.cell_load]
    split
    · exact ⟨[], [], .refl m, Nat.zero_le 1⟩
    · rename_i hs
      exact Program.ensures_mono (fun _ _ => FetchEnd.atMostOnce) (ensures_fetch_end
        (state_eq_awaitingFetch_iff.2 ⟨eq_false_of_ne_true hopen, eq_false_of_ne_true hs⟩))
  refine Program.ensures_bind.2 (Program.ensures_mono ?_ hfetch)
  rintro (e | _) m₁ honce
  · exact honce
  obtain ⟨since, rs, h, hrs⟩ := honce
  refine (Program.ensures_bind (p := Program.get)).2 ?_
  rw [Program.ensures_get, Program.continues_ok]
  split
  · refine Program.ensures_bind.2 (ensures_takeBatch.2 ?_)
    split <;> exact ⟨since, rs, ⟨h.toShows, h.history⟩, hrs⟩
  · exact ⟨since, rs, h, hrs⟩

/-! ## The main theorem -/

/-- **To await a batch is to try for it again and again.**  Whatever the world answers, each of the
    two does just what the other does, if that comes to its end.  An attempt fetches at most once,
    and does not pause; where a fetch is awaited, a call fetches once more than replies come first
    that are idle, and pauses as often as these. -/
theorem next_polls (answers : List Incident → (q : Exchange) → Outcome q.Answer) (m : Moment) :
    (∀ rounds, (perform answers (next rounds) m).1 ≠ .ok .pending →
      perform answers (poll (rounds + 1)) m = perform answers (next rounds) m) ∧
    (∀ rounds, (perform answers (poll rounds) m).1 ≠ .ok .pending →
      perform answers (next (rounds + 1)) m = perform answers (poll rounds) m) ∧
    AtMostOnce m (perform answers tryNext m).2 ∧
    (m.cursor.state = .awaitingFetch → ∀ rounds,
      Paced .pending m (perform answers (next rounds) m).2 (perform answers (next rounds) m).1) :=
  ⟨fun rounds => outlasts_next_poll rounds m, fun rounds => outlasts_poll_next rounds m,
    perform_of_ensures answers (ensures_tryNext_atMostOnce m),
    fun hstate rounds => perform_of_ensures answers (ensures_next_paced hstate rounds)⟩

/-- A world in which nothing comes with the first two replies. -/
def hesitant (history : List Incident) : (q : Exchange) → Outcome q.Answer
  | .getMore _ ns _ _ _ =>
    if (replies history).length < 2 then .ok ⟨ns, [], 7, {}⟩ else .ok ⟨ns, [.int 2], 0, {}⟩
  | q => obliging q

/-- A cursor that has handed out its first batch. -/
def expectant (mode : Mode) : Moment :=
  ((Life.opening (sample mode 0) (Plan.sample 0).first true).begin (.next 1)).moment

theorem next_polls_hesitant :
    let run := perform hesitant (next 4) (expectant .async)
    run.1 = .ok (.batch [.int 2]) ∧
    run.2.history.countP (Incident.asksFor isFetch) = 3 ∧
    run.2.history.countP (Incident.asksFor isPause) = 2 ∧
    perform hesitant (poll 5) (expectant .async) = run ∧
    run = perform hesitant (poll 3) (expectant .async) ∧
    AtMostOnce (expectant .async) (perform hesitant tryNext (expectant .async)).2 ∧
    Paced Retrieval.pending (expectant .async) run.2 run.1 := by
  have hnext : (perform hesitant (next 4) (expectant .async)).1 = .ok (.batch [.int 2]) := rfl
  have hpoll : (perform hesitant (poll 3) (expectant .async)).1 = .ok (.batch [.int 2]) := rfl
  obtain ⟨hpolls, hawaits, honce, hpaced⟩ := next_polls hesitant (expectant .async)
  exact ⟨hnext, rfl, rfl, hpolls 4 (by rw [hnext]; nofun), hawaits 3 (by rw [hpoll]; nofun), honce,
    hpaced rfl 4⟩

end DocumentClient.Cursor
