/-
  What a history tells about the server cursor.

  A server cursor is held until it ends, is dropped, or is given up alive, and then it is
  to be killed.  `ledger` reads from a plan and a history which of these has come about,
  without a look at the cursor: the first batch, the calls of `close`, and the answers to
  fetches that came while the cursor was open decide it.  The attempts to kill it are the
  records with which each of them begins.

  `Rightful` says what may happen after a history: kills are of the server cursor that is
  to be killed, no retrieval fetches that was called after a kill, and a retrieval ends
  as its fetch has gone, or with a failure if the cursor was closed meanwhile.
-/
import DocumentClient.Proofs.Cursor.Rules

namespace DocumentClient.Cursor

/-! ## Kills -/

/-- Whether a notice is the record with which a kill begins. -/
def isKillRecord : Notice → Bool
  | .log .info message => "killing ".toList.isPrefixOf message.toList
  | _ => false

@[simp] theorem isKillRecord_killBegins (mode : Mode) (target : ServerCursor) :
    isKillRecord (killBegins mode target) = true := by
  simp [killBegins, isKillRecord, toString, List.isPrefixOf]

@[simp] theorem isKillRecord_killFails (target : ServerCursor) (e : Failure) :
    isKillRecord (killFails target e) = false := rfl

@[simp] theorem isKillRecord_fetchBegins (c : Cursor) (target : ServerCursor) :
    isKillRecord (fetchBegins c target) = false := by
  simp [fetchBegins, isKillRecord, toString, List.isPrefixOf]

@[simp] theorem isKillRecord_fetchEnds (c : Cursor) (target : ServerCursor)
    (result : QueryResult) : isKillRecord (fetchEnds c target result) = false := by
  simp [fetchEnds, isKillRecord, toString, List.isPrefixOf]

theorem isKillRecord_of_mem_dropRecords {v : Verdict} {n : Notice} (hn : n ∈ dropRecords v) :
    isKillRecord n = false := by
  cases v with
  | dropped cursor =>
    obtain rfl := List.mem_singleton.1 hn
    simp [isKillRecord, toString, List.isPrefixOf]
  | _ => simp [dropRecords] at hn

theorem isKillRecord_of_mem_dues {c : Cursor} {n : Notice} (hn : n ∈ dues c) :
    isKillRecord n = false := by
  have howed : ∀ {ρ : Type} {release : ρ → Notice} {handle : Option (Handle ρ)},
      n ∈ owed release handle → ∃ resource, n = release resource := by
    intro ρ release handle h
    rcases handle with _ | ⟨_ | _, resource⟩ <;> simp [owed] at h
    exact ⟨resource, h⟩
  rcases List.mem_append.1 hn with h | h
  · obtain ⟨x, rfl⟩ := howed h
    rfl
  · obtain ⟨s, rfl⟩ := howed h
    rfl

namespace Incident

/-- Whether a kill begins. -/
def attempts : Incident → Bool
  | .noticed n => isKillRecord n
  | _ => false

/-- Whether a kill is requested. -/
def requestsKill : Incident → Bool
  | .asked (.killCursors _ _ _) => true
  | _ => false

end Incident

/-- How many kills have begun. -/
def Moment.attempts (m : Moment) : Nat := m.history.countP Incident.attempts

/-! ## Fetches -/

/-- The failure of a lease. -/
def refused : (q : Exchange) → Outcome q.Answer → Option Failure
  | .lease _, .error e => some e
  | _, _ => none

/-- How an answer ends a fetch; a lease that succeeds does not end it. -/
def fetchOutcome (target : ServerCursor) (q : Exchange) (x : Outcome q.Answer) :
    Option (Outcome QueryResult) :=
  if isFetch q then some (fetched target q x) else (refused q x).map .error

theorem fetchOutcome_of_isFetch {q : Exchange} (hq : isFetch q) (target : ServerCursor)
    (x : Outcome q.Answer) : fetchOutcome target q x = some (fetched target q x) :=
  if_pos hq

/-! ## The ledger -/

/-- What has become of a server cursor. -/
inductive Standing where
  /-- There is none any more, and nothing to be killed. -/
  | gone
  | held (target : ServerCursor)
  /-- It was given up alive, and is to be killed. -/
  | doomed (target : ServerCursor)

/-- What a history tells about a cursor. -/
structure Ledger where
  standing : Standing
  delivered : Int
  batchSize : Int
  /-- The failure that has ended a fetch. -/
  failure : Option Failure

namespace Ledger

/-- A batch comes in. -/
def receive (limit : Int) (result : QueryResult) (l : Ledger) : Ledger :=
  let delivered := l.delivered + result.results.length
  { l with
    delivered := delivered
    standing := match result.cursor with
      | none => .gone
      | some target =>
        if DocumentClient.limitReached limit delivered then .doomed target
        else if isFinalBatch limit l.batchSize then .gone
        else .held target }

/-- A fetch fails: the server cursor is given up, unless it was the task that was cancelled. -/
def fail (target : ServerCursor) (e : Failure) (l : Ledger) : Ledger :=
  match e with
  | .cancelled => l
  | .cursorMissing _ _ => { l with standing := .gone, failure := some e }
  | _ => { l with standing := .doomed target, failure := some e }

/-- The cursor is closed. -/
def close (l : Ledger) : Ledger :=
  match l.standing with
  | .held target => { l with standing := .doomed target }
  | _ => l

/-- An answer comes in while the cursor is open. -/
def answer (limit : Int) (q : Exchange) (x : Outcome q.Answer) (l : Ledger) : Ledger :=
  match l.standing with
  | .held target =>
    match fetchOutcome target q x with
    | none => l
    | some (.ok result) => l.receive limit result
    | some (.error e) => l.fail target e
  | _ => l

/-- What an incident adds to the ledger. -/
def enter (limit : Int) : Incident → Ledger → Ledger
  | .begun (.close _), l => l.close
  | .begun (.setBatchSize n), l => { l with batchSize := n }
  | .answered q x true, l => l.answer limit q x
  | _, l => l

/-- Whether a server cursor is held. -/
def isHeld (l : Ledger) : Bool :=
  match l.standing with
  | .held _ => true
  | _ => false

end Ledger

/-- The ledger of a plan after its first batch, and then a history. -/
def ledger (plan : Plan) (history : List Incident) : Ledger :=
  history.foldr (Ledger.enter plan.limit)
    (Ledger.receive plan.limit plan.first ⟨.gone, 0, plan.batchSize, none⟩)

section
variable {plan : Plan} {l : Ledger} {limit : Int} {target : ServerCursor}

@[simp] theorem ledger_cons (i : Incident) (h : List Incident) :
    ledger plan (i :: h) = (ledger plan h).enter plan.limit i := rfl

namespace Ledger

@[simp] theorem enter_asked (q : Exchange) : l.enter limit (.asked q) = l := rfl

@[simp] theorem enter_noticed (n : Notice) : l.enter limit (.noticed n) = l := rfl

@[simp] theorem enter_ended (a : Activity) (o : Outcome Yield) :
    l.enter limit (.ended a o) = l := rfl

theorem enter_unanswered (q : Exchange) (x : Outcome q.Answer) :
    l.enter limit (.answered q x false) = l := rfl

theorem isHeld_of_standing (h : l.standing = .held target) : l.isHeld = true := by
  simp [isHeld, h]

theorem answer_of_held (h : l.standing = .held target) (q : Exchange) (x : Outcome q.Answer) :
    l.answer limit q x = match fetchOutcome target q x with
      | none => l
      | some (.ok result) => l.receive limit result
      | some (.error e) => l.fail target e := by
  simp only [answer, h]

theorem answer_of_not_held (h : l.isHeld = false) (q : Exchange) (x : Outcome q.Answer) :
    l.answer limit q x = l := by
  unfold isHeld at h
  unfold answer
  split <;> simp_all

theorem close_of_not_held (h : l.isHeld = false) : l.close = l := by
  unfold isHeld at h
  unfold close
  split <;> simp_all

theorem isHeld_close : l.close.isHeld = false := by
  rcases hs : l.standing with _ | _ | _ <;> simp [close, isHeld, hs]

/-- Two ledgers agree, apart from the batch size. -/
structure Alike (l l' : Ledger) : Prop where
  standing : l.standing = l'.standing
  delivered : l.delivered = l'.delivered
  failure : l.failure = l'.failure

theorem Alike.isHeld {l l' : Ledger} (h : l.Alike l') : l.isHeld = l'.isHeld := by
  rw [Ledger.isHeld, h.standing]
  rfl

/-- Once it is not held, a server cursor stays as it is. -/
theorem enter_of_not_held (h : l.isHeld = false) (i : Incident) : (l.enter limit i).Alike l := by
  cases i with
  | begun a =>
    cases a with
    | close loopRuns =>
      simp only [enter, close_of_not_held h]
      exact ⟨rfl, rfl, rfl⟩
    | _ => exact ⟨rfl, rfl, rfl⟩
  | answered q x wasOpen =>
    cases wasOpen with
    | true =>
      simp only [enter, answer_of_not_held h]
      exact ⟨rfl, rfl, rfl⟩
    | false => exact ⟨rfl, rfl, rfl⟩
  | _ => exact ⟨rfl, rfl, rfl⟩

/-- A ledger with a failure holds no server cursor. -/
def Sound (l : Ledger) : Prop := l.isHeld = true → l.failure = none

theorem Sound.enter (h : l.Sound) (i : Incident) : (l.enter limit i).Sound := by
  intro hheld
  by_cases hl : l.isHeld = true
  · cases i with
    | begun a =>
      cases a with
      | close loopRuns => simp [Ledger.enter, isHeld_close] at hheld
      | _ => exact h hl
    | answered q x wasOpen =>
      cases wasOpen with
      | true =>
        rcases hs : l.standing with _ | target | _
        · simp [isHeld, hs] at hl
        · simp only [Ledger.enter, answer_of_held hs] at hheld ⊢
          split
          · exact h hl
          · exact h hl
          · rename_i e he
            rw [he] at hheld
            cases e with
            | cancelled => exact h hl
            | _ => simp [fail, isHeld] at hheld
        · simp [isHeld, hs] at hl
      | false => exact h hl
    | _ => exact h hl
  · rw [(enter_of_not_held (eq_false_of_ne_true hl) i).isHeld] at hheld
    exact absurd hheld hl

end Ledger

theorem sound_ledger (history : List Incident) : (ledger plan history).Sound := by
  induction history with
  | nil => exact fun _ => rfl
  | cons i history ih => exact ih.enter i

/-- What is not held does not come back. -/
theorem ledger_append_of_not_held {history : List Incident}
    (h : (ledger plan history).isHeld = false) (later : List Incident) :
    (ledger plan (later ++ history)).Alike (ledger plan history) := by
  induction later with
  | nil => exact ⟨rfl, rfl, rfl⟩
  | cons i later ih =>
    have henter : (ledger plan (i :: (later ++ history))).Alike _ :=
      Ledger.enter_of_not_held (ih.isHeld.trans h) i
    exact ⟨henter.standing.trans ih.standing, henter.delivered.trans ih.delivered,
      henter.failure.trans ih.failure⟩

/-! ## The retrieval under way -/

/-- What has happened since the latest retrieval was called. -/
def sinceCall (history : List Incident) : List Incident :=
  history.takeWhile fun i => !i.begins Activity.isRetrieval

/-- What had happened when the latest retrieval was called. -/
def untilCall (history : List Incident) : List Incident :=
  (history.dropWhile fun i => !i.begins Activity.isRetrieval).tail

section
variable {later history : List Incident}

theorem sinceCall_append (h : ∀ i ∈ later, i.begins Activity.isRetrieval = false) :
    sinceCall (later ++ history) = later ++ sinceCall history :=
  List.takeWhile_append_of_pos fun i hi => by simp [h i hi]

theorem untilCall_append (h : ∀ i ∈ later, i.begins Activity.isRetrieval = false) :
    untilCall (later ++ history) = untilCall history := by
  rw [untilCall, List.dropWhile_append_of_pos fun i hi => by simp [h i hi]]
  rfl

theorem sinceCall_cons {i : Incident} (h : i.begins Activity.isRetrieval = false) :
    sinceCall (i :: history) = i :: sinceCall history := by
  have hone : ∀ j ∈ [i], j.begins Activity.isRetrieval = false := by simpa using h
  exact sinceCall_append hone

theorem untilCall_cons {i : Incident} (h : i.begins Activity.isRetrieval = false) :
    untilCall (i :: history) = untilCall history := by
  have hone : ∀ j ∈ [i], j.begins Activity.isRetrieval = false := by simpa using h
  exact untilCall_append hone

theorem sinceCall_begun {a : Activity} (ha : a.isRetrieval = true) :
    sinceCall (.begun a :: history) = [] := by
  simp [sinceCall, Incident.begins, ha]

theorem untilCall_begun {a : Activity} (ha : a.isRetrieval = true) :
    untilCall (.begun a :: history) = history := by
  simp [untilCall, Incident.begins, ha]

theorem untilCall_suffix : untilCall history <:+ history :=
  (List.tail_suffix _).trans (List.dropWhile_suffix _)

end

/-- The cursor is closed, and no kill was requested before. -/
def Overlapped (history : List Incident) : Prop :=
  ∃ later loopRuns earlier, history = later ++ .begun (.close loopRuns) :: earlier ∧
    ∀ i ∈ earlier, i.requestsKill = false

theorem not_overlapped_nil : ¬ Overlapped [] := by
  rintro ⟨later, loopRuns, earlier, h, -⟩
  simp at h

theorem Overlapped.cons {i : Incident} {history : List Incident} (h : Overlapped (i :: history)) :
    Overlapped history ∨
      (∃ loopRuns, i = .begun (.close loopRuns)) ∧ ∀ i ∈ history, i.requestsKill = false := by
  obtain ⟨_ | ⟨j, later⟩, loopRuns, earlier, heq, hearlier⟩ := h
  · simp only [List.nil_append, List.cons.injEq] at heq
    obtain ⟨rfl, rfl⟩ := heq
    exact .inr ⟨⟨loopRuns, rfl⟩, hearlier⟩
  · simp only [List.cons_append, List.cons.injEq] at heq
    exact .inl ⟨later, loopRuns, earlier, heq.2, hearlier⟩

/-- After a kill was requested it is too late to overlap. -/
theorem Overlapped.of_append {later history : List Incident} {i : Incident} (hi : i ∈ history)
    (hkill : i.requestsKill = true) (h : Overlapped (later ++ history)) : Overlapped history := by
  induction later with
  | nil => exact h
  | cons j later ih =>
    rcases h.cons with h | ⟨-, hnone⟩
    · exact ih h
    · have := hnone i (List.mem_append_right _ hi)
      simp [hkill] at this

/-- A failure that a retrieval may end with when the cursor was closed meanwhile: that it was
    closed, unless what it has waited for has failed, or an interruption was asked for. -/
inductive Blamed (plan : Plan) (history : List Incident) : Failure → Prop
  | closed (found : ClosedWhen) : Blamed plan history (.cursorClosed found)
  /-- Its fetch had failed before. -/
  | before {e : Failure} (h : (ledger plan history).failure = some e) : Blamed plan history e
  /-- A lease or a fetch has failed since. -/
  | since {q : Exchange} {x : Outcome q.Answer} {target : ServerCursor} {e : Failure}
      (hanswered : .answered q x false ∈ sinceCall history)
      (hfailed : fetchOutcome target q x = some (.error e)) : Blamed plan history e
  /-- Its pause has failed. -/
  | paused {length : Duration} {wasOpen : Bool} {e : Failure}
      (hanswered : .answered (.pause length) (.error e) wasOpen ∈ sinceCall history) :
      Blamed plan history e
  | interrupted (h : .begun .interrupt ∈ history) : Blamed plan history .interrupted

/-- How a retrieval may end after a history: as its fetch has gone, and with a failure if the
    cursor was closed meanwhile. -/
structure Concluding (plan : Plan) (failure : Option Failure) (history : List Incident) : Prop where
  fetched : ∀ e, (ledger plan (untilCall history)).failure = none →
    (ledger plan history).failure = some e → failure = some e
  overlapped : Overlapped (sinceCall history) → ∃ e, failure = some e ∧ Blamed plan history e

/-! ## Conduct -/

/-- The failure of an outcome. -/
def failureOf {α : Type} : Outcome α → Option Failure
  | .ok _ => none
  | .error e => some e

theorem eq_error_of_failureOf {α : Type} {o : Outcome α} {e : Failure}
    (h : failureOf o = some e) : o = .error e := by
  rcases o with e' | v
  · exact congrArg Except.error (Option.some.inj h)
  · simp [failureOf] at h

/-- What may happen after a history. -/
def Rightful (mode : Mode) (plan : Plan) : Incident → List Incident → Prop
  | .asked (.killCursors _ _ ids), history =>
    ∃ target, (ledger plan history).standing = .doomed target ∧ ids = [target.id]
  | .asked q, history => isFetch q → (untilCall history).countP Incident.attempts = 0
  | .noticed n, history => isKillRecord n →
    ∃ target, (ledger plan history).standing = .doomed target ∧ n = killBegins mode target
  | .ended a outcome, history => a.isRetrieval → Concluding plan (failureOf outcome) history
  | _, _ => True

/-- Each incident of a history is rightful after those before it. -/
def Conducted (mode : Mode) (plan : Plan) : List Incident → Prop
  | [] => True
  | i :: history => Rightful mode plan i history ∧ Conducted mode plan history

theorem Conducted.of_append {mode : Mode} {later history : List Incident} {i : Incident}
    (h : Conducted mode plan (later ++ i :: history)) : Rightful mode plan i history := by
  induction later with
  | nil => exact h.1
  | cons j later ih => exact ih h.2

end

end DocumentClient.Cursor
