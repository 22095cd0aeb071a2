/-
  Waiting for a batch is trying for one again and again.

  `next` looks for a batch, fetches, and pauses as long as nothing has come.  `poll` does so
  with `tryNext` alone: it tries, and pauses after each attempt that leaves more to come.  The
  two look at the cursor at different places; `looks` is what both come to, one look after the
  other, and `Outlasts` says that a program does what another does unless that is left pending.

  `next_polls`: whatever the world answers, the two ask for the same, leave the same and end
  alike.  An attempt fetches once at most, and never pauses; so a call that awaits a fetch
  fetches once more than it pauses, and pauses as often as there are replies that leave the
  cursor as it was, with nothing to hand out and more to fetch.
-/
import DocumentClient.Proofs.Cursor.Alone

namespace DocumentClient.Cursor

open Program (Ensures Environment Interpreter interpret)

/-- Tries for a batch, and pauses after each attempt that leaves more to come. -/
def poll : (rounds : Nat) → Program Cursor Retrieval
  | 0 => pure .pending
  | rounds + 1 => do
    match ← tryNext with
    | some documents => return .batch documents
    | none => do
      let c ← Program.get
      if c.isExhausted then return .ended
      else do
        waitBeforeRetry
        poll rounds

/-! ## Looks -/

/-- Hands out what has come, or pauses where more is to come. -/
def handOutOrPause : Program Cursor (Option Retrieval) := do
  let c ← Program.get
  if c.hasBatch then do
    let documents ← takeBatch
    return some (.batch documents)
  else if c.isExhausted then return some .ended
  else do
    waitBeforeRetry
    return none

/-- Goes on where there is no result yet. -/
def orElse (rest : Program Cursor Retrieval) : Option Retrieval → Program Cursor Retrieval
  | some r => pure r
  | none => rest

/-- Looks for a batch, and goes on where more is to come. -/
def lookThen (rest : Program Cursor Retrieval) : Program Cursor Retrieval := do
  fetchUnlessSettled
  let result ← handOutOrPause
  orElse rest result

/-- Looks for a batch, one look after the other. -/
def looks : (rounds : Nat) → Program Cursor Retrieval
  | 0 => pure .pending
  | rounds + 1 => lookThen (looks rounds)

/-- What `next` makes of what it has awaited. -/
def retrieved : Availability → Program Cursor Retrieval
  | .ready => do
    let documents ← takeBatch
    return .batch documents
  | .ended => pure .ended
  | .pending => pure .pending

/-- A retrieval by `next` from an open cursor. -/
def awaitNext (rounds : Nat) : Program Cursor Retrieval := awaitBatch rounds >>= retrieved

section
variable {ω : Type} {i : Interpreter ω} {cell : Program.Cell ω Cursor} {w w' : ω}

/-- A pause that is over leaves an open cursor. -/
theorem open_of_waitBeforeRetry (h : interpret i cell waitBeforeRetry w = (.ok (), w')) :
    (cell.load w').closed = false := by
  have hensures : Ensures i.environment cell
      (fun o w' => o = .ok () → (cell.load w').closed = false) waitBeforeRetry w := by
    refine ensures_waitBeforeRetry.2 ?_
    split
    · exact nofun
    refine ⟨trivial, ?_⟩
    rintro (e | _) w₁ -
    · exact nofun
    dsimp only
    split
    · exact nofun
    split
    · exact nofun
    · rename_i hc
      exact fun _ => eq_false_of_ne_true hc
  have hrun := Program.ensures_interpreter.1 hensures
  rw [h] at hrun
  exact hrun rfl

theorem interpret_fetchUnlessSettled : interpret i cell fetchUnlessSettled w =
    if (cell.load w).isSettled then (.ok (), w) else interpret i cell fetch w := by
  change interpret i cell (if (cell.load w).isSettled then _ else _) w = _
  split <;> rfl

theorem interpret_pauseUnlessSettled : interpret i cell pauseUnlessSettled w =
    if (cell.load w).isSettled then (.ok (), w) else interpret i cell waitBeforeRetry w := by
  change interpret i cell (if (cell.load w).isSettled then _ else _) w = _
  split <;> rfl

theorem interpret_ensureOpen : interpret i cell ensureOpen w =
    (if (cell.load w).closed then .error (.cursorClosed .before) else .ok (), w) := by
  change interpret i cell (if (cell.load w).closed then _ else _) w = _
  split <;> rfl

theorem interpret_handOut : interpret i cell handOut w =
    if (cell.load w).hasBatch then
      interpret i cell (takeBatch >>= fun documents => pure (some documents)) w
    else (.ok none, w) := by
  change interpret i cell (if (cell.load w).hasBatch then _ else _) w = _
  split <;> rfl

theorem interpret_handOutOrPause : interpret i cell handOutOrPause w =
    if (cell.load w).hasBatch then
      interpret i cell (takeBatch >>= fun documents => pure (some (.batch documents))) w
    else if (cell.load w).isExhausted then (.ok (some .ended), w)
    else interpret i cell (waitBeforeRetry >>= fun _ => pure none) w := by
  change interpret i cell (if (cell.load w).hasBatch then _ else _) w = _
  split
  · rfl
  · split <;> rfl

/-- Where more is to come, a look leaves an open cursor. -/
theorem open_of_handOutOrPause (h : interpret i cell handOutOrPause w = (.ok none, w')) :
    (cell.load w').closed = false := by
  rw [interpret_handOutOrPause] at h
  split at h
  · rw [Program.interpret_bind] at h
    generalize interpret i cell takeBatch w = taken at h
    obtain ⟨_ | _, _⟩ := taken <;> cases h
  split at h
  · cases h
  · rw [Program.interpret_bind] at h
    rcases hwait : interpret i cell waitBeforeRetry w with ⟨e | _, w₁⟩
    · rw [hwait] at h
      cases h
    · rw [hwait] at h
      obtain rfl : w₁ = w' := congrArg Prod.snd h
      exact open_of_waitBeforeRetry hwait

/-! ## Pending programs -/

/-- One program does what another does, unless that is left pending. -/
def Outlasts (i : Interpreter ω) (cell : Program.Cell ω Cursor)
    (p p' : Program Cursor Retrieval) : Prop :=
  ∀ w, (interpret i cell p w).1 ≠ .ok .pending → interpret i cell p' w = interpret i cell p w

theorem outlasts_pending (p : Program Cursor Retrieval) : Outlasts i cell (pure .pending) p :=
  fun _ h => absurd rfl h

theorem Outlasts.trans {p p' p'' : Program Cursor Retrieval} (h : Outlasts i cell p p')
    (h' : Outlasts i cell p' p'') : Outlasts i cell p p'' := by
  intro w hw
  rw [h' w (by rw [h w hw]; exact hw), h w hw]

theorem Outlasts.lookThen {p p' : Program Cursor Retrieval} (h : Outlasts i cell p p') :
    Outlasts i cell (lookThen p) (lookThen p') := by
  intro w hw
  simp only [Cursor.lookThen, Program.interpret_bind] at hw ⊢
  generalize interpret i cell fetchUnlessSettled w = first at hw ⊢
  obtain ⟨e | _, w₁⟩ := first
  · rfl
  dsimp only at hw ⊢
  generalize interpret i cell handOutOrPause w₁ = second at hw ⊢
  obtain ⟨e | _ | r, w₂⟩ := second
  · rfl
  · exact h w₂ hw
  · rfl

/-! ## Awaiting -/

/-- From a settled cursor, the result is handed out at once. -/
theorem interpret_awaitNext_of_settled (hs : (cell.load w).isSettled) (rounds : Nat)
    (rest : Program Cursor Retrieval) :
    interpret i cell (awaitNext (rounds + 1)) w =
      interpret i cell (handOutOrPause >>= orElse rest) w := by
  rw [awaitNext, awaitBatch_succ]
  change interpret i cell ((if (cell.load w).hasBatch then _ else _) >>= retrieved) w =
    interpret i cell ((if (cell.load w).hasBatch then _ else _) >>= orElse rest) w
  by_cases hb : (cell.load w).hasBatch
  · rw [if_pos hb, if_pos hb]
    change interpret i cell (takeBatch >>= fun documents => pure (Retrieval.batch documents)) w = _
    rw [Program.interpret_bind, Program.interpret_bind, Program.interpret_bind]
    rcases interpret i cell takeBatch w with ⟨_ | _, _⟩ <;> rfl
  · have he : (cell.load w).isExhausted := by simpa [isSettled, hb] using hs
    rw [if_neg hb, if_neg hb, if_pos he, if_pos he]
    rfl

/-- A retrieval is a look, and a shorter one where more is to come; what has come in the last
    round is not found out. -/
theorem interpret_awaitNext (i : Interpreter ω) (cell : Program.Cell ω Cursor) (rounds : Nat)
    (w : ω) : interpret i cell (awaitNext (rounds + 1)) w =
        interpret i cell (lookThen (awaitNext rounds)) w ∨
      rounds = 0 ∧ (interpret i cell (awaitNext (rounds + 1)) w).1 = .ok .pending := by
  have hlook : interpret i cell (lookThen (awaitNext rounds)) w = _ :=
    Program.interpret_bind (p := fetchUnlessSettled)
  by_cases hs : (cell.load w).isSettled
  · left
    rw [interpret_awaitNext_of_settled hs rounds (awaitNext rounds), hlook,
      interpret_fetchUnlessSettled, if_pos hs]
  obtain ⟨hb, he⟩ := isSettled_eq_false_iff.1 (eq_false_of_ne_true hs)
  have hawait : interpret i cell (awaitNext (rounds + 1)) w =
      interpret i cell (fetch >>= fun _ => pauseUnlessSettled >>= fun _ => awaitNext rounds) w := by
    rw [awaitNext, awaitBatch_succ]
    change interpret i cell ((if (cell.load w).hasBatch then _ else _) >>= retrieved) w = _
    rw [if_neg (by simp [hb]), if_neg (by simp [he])]
    simp only [awaitNext, Program.interpret_bind]
    rcases interpret i cell fetch w with ⟨e | _, w₁⟩
    · rfl
    dsimp only
    rcases interpret i cell pauseUnlessSettled w₁ with ⟨e | _, w₂⟩ <;> rfl
  rw [hlook, interpret_fetchUnlessSettled, if_neg hs, hawait, Program.interpret_bind]
  rcases interpret i cell fetch w with ⟨e | _, w₁⟩
  · exact .inl rfl
  dsimp only
  rw [Program.interpret_bind, interpret_pauseUnlessSettled]
  by_cases hs₁ : (cell.load w₁).isSettled
  · rw [if_pos hs₁]
    cases rounds with
    | zero => exact .inr ⟨rfl, rfl⟩
    | succ rounds => exact .inl (interpret_awaitNext_of_settled hs₁ rounds _)
  · left
    obtain ⟨hb₁, he₁⟩ := isSettled_eq_false_iff.1 (eq_false_of_ne_true hs₁)
    rw [if_neg hs₁, Program.interpret_bind, interpret_handOutOrPause, if_neg (by simp [hb₁]),
      if_neg (by simp [he₁]), Program.interpret_bind]
    rcases interpret i cell waitBeforeRetry w₁ with ⟨e | _, w₂⟩ <;> rfl

theorem outlasts_awaitNext (rounds : Nat) :
    Outlasts i cell (awaitNext (rounds + 1)) (lookThen (awaitNext rounds)) ∧
      Outlasts i cell (lookThen (awaitNext (rounds + 1))) (awaitNext (rounds + 2)) := by
  constructor
  · intro w hw
    rcases interpret_awaitNext i cell rounds w with h | h
    · exact h.symm
    · exact absurd h.2 hw
  · intro w hw
    rcases interpret_awaitNext i cell (rounds + 1) w with h | h
    · exact h
    · exact absurd h.1 (Nat.succ_ne_zero rounds)

/-- Looks do what awaiting does. -/
theorem outlasts_awaitNext_looks (rounds : Nat) :
    Outlasts i cell (awaitNext rounds) (looks rounds) := by
  induction rounds with
  | zero => exact outlasts_pending _
  | succ rounds ih => exact (outlasts_awaitNext rounds).1.trans ih.lookThen

theorem outlasts_looks_awaitNext (rounds : Nat) :
    Outlasts i cell (looks rounds) (awaitNext (rounds + 1)) := by
  induction rounds with
  | zero => exact outlasts_pending _
  | succ rounds ih => exact ih.lookThen.trans (outlasts_awaitNext rounds).2

/-! ## Polling -/

/-- An attempt looks, and a pause follows it where more is to come. -/
theorem interpret_poll_succ (hopen : (cell.load w).closed = false) (rounds : Nat) :
    interpret i cell (poll (rounds + 1)) w = interpret i cell (lookThen (poll rounds)) w := by
  rw [poll, tryNext_eq, lookThen]
  simp only [Program.interpret_bind, interpret_ensureOpen, if_neg (ne_true_of_eq_false hopen)]
  rcases interpret i cell fetchUnlessSettled w with ⟨e | _, w₁⟩
  · rfl
  dsimp only
  rw [interpret_handOut, interpret_handOutOrPause]
  by_cases hb : (cell.load w₁).hasBatch
  · rw [if_pos hb, if_pos hb, Program.interpret_bind, Program.interpret_bind]
    rcases interpret i cell takeBatch w₁ with ⟨_ | _, _⟩ <;> rfl
  rw [if_neg hb, if_neg hb]
  change interpret i cell (if (cell.load w₁).isExhausted then _ else _) w₁ = _
  by_cases he : (cell.load w₁).isExhausted
  · rw [if_pos he, if_pos he]
    rfl
  · rw [if_neg he, if_neg he, Program.interpret_bind, Program.interpret_bind]
    rcases interpret i cell waitBeforeRetry w₁ with ⟨_ | _, _⟩ <;> rfl

/-- From an open cursor, polling is looking again and again. -/
theorem interpret_poll (rounds : Nat) : ∀ {w : ω}, (cell.load w).closed = false →
    interpret i cell (poll rounds) w = interpret i cell (looks rounds) w := by
  induction rounds with
  | zero => exact fun _ => rfl
  | succ rounds ih =>
    intro w hopen
    rw [interpret_poll_succ hopen, looks, lookThen, lookThen]
    simp only [Program.interpret_bind]
    rcases interpret i cell fetchUnlessSettled w with ⟨e | _, w₁⟩
    · rfl
    dsimp only
    rcases hpause : interpret i cell handOutOrPause w₁ with ⟨e | _ | r, w₂⟩
    · rfl
    · exact ih (open_of_handOutOrPause hpause)
    · rfl

/-- A closed cursor neither awaits nor polls. -/
theorem interpret_next_of_closed (hclosed : (cell.load w).closed) (rounds : Nat) :
    interpret i cell (next rounds) w = (.error (.cursorClosed .before), w) := by
  rw [next, hasNext]
  simp only [Program.interpret_bind, interpret_ensureOpen, if_pos hclosed]

theorem interpret_poll_of_closed (hclosed : (cell.load w).closed) (rounds : Nat) :
    interpret i cell (poll (rounds + 1)) w = (.error (.cursorClosed .before), w) := by
  rw [poll, tryNext_eq]
  simp only [Program.interpret_bind, interpret_ensureOpen, if_pos hclosed]

theorem interpret_next_of_open (hopen : (cell.load w).closed = false) (rounds : Nat) :
    interpret i cell (next rounds) w = interpret i cell (awaitNext rounds) w := by
  rw [next, hasNext, awaitNext]
  simp only [Program.interpret_bind, interpret_ensureOpen, if_neg (ne_true_of_eq_false hopen)]
  rcases interpret i cell (awaitBatch rounds) w with ⟨e | _ | _ | _, w₁⟩ <;> rfl

/-- Awaiting a batch is polling for it. -/
theorem outlasts_next_poll (rounds : Nat) : Outlasts i cell (next rounds) (poll (rounds + 1)) := by
  intro w hw
  rcases hc : (cell.load w).closed with _ | _
  · rw [interpret_next_of_open hc] at hw ⊢
    rw [interpret_poll _ hc]
    exact ((outlasts_awaitNext_looks rounds).trans
      ((outlasts_looks_awaitNext rounds).trans (outlasts_awaitNext_looks (rounds + 1)))) w hw
  · rw [interpret_poll_of_closed hc, interpret_next_of_closed hc]

theorem outlasts_poll_next (rounds : Nat) : Outlasts i cell (poll rounds) (next (rounds + 1)) := by
  intro w hw
  rcases hc : (cell.load w).closed with _ | _
  · rw [interpret_next_of_open hc]
    rw [interpret_poll _ hc] at hw ⊢
    exact outlasts_looks_awaitNext rounds w hw
  · rw [interpret_next_of_closed hc]
    cases rounds with
    | zero => exact absurd rfl hw
    | succ rounds => rw [interpret_poll_of_closed hc]

end

end DocumentClient.Cursor
