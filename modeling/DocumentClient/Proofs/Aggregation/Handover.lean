/-
  The resources of an aggregation.

  An aggregation takes a source and leases a connection from it.  It gives the connection
  back in any case; the source it gives back, too, or it hands it over to the cursor that it
  makes, while a server cursor is open.  `Holdings` says what was taken and released, and
  `Records` that a history shows just that.

  `handover_of_execute`: an aggregation that fails has released what it has taken, and of one
  that succeeds the source is left with a cursor that holds a server cursor, or released; once
  the calls of the cursor have left it exhausted or closed, all is released.
-/
import DocumentClient.Aggregation
import DocumentClient.Proofs.Cursor.Past

namespace DocumentClient

open Cursor Program

/-! ## Recorded runs -/

namespace Program

/-- A world that keeps a history of what a program asks and notes. -/
def Interpreter.recorded {ω : Type} (i : Interpreter ω) : Interpreter (ω × List Incident) where
  take n w := (i.take n w.1, .noticed n :: w.2)
  answer q w :=
    let (x, w') := i.answer q w.1
    (x, (w', .answered q x false :: .asked q :: w.2))

/-- What a program makes of its history, whatever is answered. -/
def recording : Environment (List Incident) where
  take n h := .noticed n :: h
  demands _ _ := True
  resumes q h x h' := h' = .answered q x false :: .asked q :: h

/-- What a program ensures whatever is answered holds of its recorded runs. -/
theorem interpret_recorded {ω α : Type} {i : Interpreter ω} {Q : Outcome α → List Incident → Prop}
    {p : Program Unit α} : ∀ {w : ω × List Incident}, Ensures recording (Cell.none _) Q p w.2 →
      let run := interpret i.recorded (Cell.none _) p w
      Q run.1 run.2.2 := by
  induction p with
  | done outcome => intro w h; exact h
  | read next ih => intro w h; exact ih _ h
  | write s next ih => intro w h; exact ih h
  | note n next ih => intro w h; exact ih (w := (i.take n w.1, .noticed n :: w.2)) h
  | ask q next ih =>
    intro w h
    exact ih _ (w := ((i.answer q w.1).2, .answered q (i.answer q w.1).1 false :: .asked q :: w.2))
      (h.2 _ _ rfl)

/-- A silent program on a cursor of its own adds to the history what it adds to its moment. -/
theorem ensures_within_of_silent {α : Type} {p : Program Cursor α} {Q : Outcome α → Moment → Prop} :
    ∀ {m : Moment}, Silent Q p m →
      Ensures recording (Cell.none _) (fun o h => ∃ x m', Q x m' ∧ o = x.map (·, m'.cursor) ∧
        h = m'.history) (within m.cursor p : Program Unit _) m.history := by
  induction p with
  | done outcome => intro m h; cases outcome <;> exact ⟨_, m, h, rfl, rfl⟩
  | read next ih => intro m h; exact ih _ h
  | write c next ih => intro m h; exact ih (m := m.put c) h
  | note n next ih => intro m h; exact ih (m := m.record (.noticed n)) h
  | ask q next ih => intro m h; exact h.1.elim

end Program

/-! ## Holdings -/

namespace Cursor.Incident

/-- Whether a source was taken. -/
def takesSource (source : Source) : Incident → Bool
  | .answered (.source _) (.ok s) _ => Source.id s == source.id
  | _ => false

/-- An incident by which nothing is taken, released, begun or ended. -/
structure Idle (i : Incident) : Prop where
  takes : ∀ s, i.takesSource s = false
  leases : ∀ id, i.leases id = false
  sources : ∀ s, i.releasesSource s = false
  connections : ∀ id, i.releases id = false
  begins : i.begins Activity.isCleanup = false
  ends : i.ends Activity.isCleanup = false

theorem idle_asked (q : Exchange) : (Incident.asked q).Idle :=
  ⟨fun _ => rfl, fun _ => rfl, fun _ => rfl, fun _ => rfl, rfl, rfl⟩

theorem idle_log (level : LogLevel) (message : String) :
    (Incident.noticed (.log level message)).Idle :=
  ⟨fun _ => rfl, fun _ => rfl, fun _ => rfl, fun _ => rfl, rfl, rfl⟩

/-- Nothing is taken where the answer is a failure. -/
theorem idle_failed (q : Exchange) (e : Failure) : (Incident.answered q (.error e) false).Idle := by
  cases q <;>
    exact ⟨fun _ => rfl, fun _ => rfl, fun _ => rfl, fun _ => rfl, rfl, rfl⟩

/-- The making of a cursor begins and ends. -/
theorem idle_opening (first : QueryResult) (loopRuns : Bool) (o : Outcome Yield) :
    (Incident.begun (.opening first loopRuns)).Idle ∧
      (Incident.ended (.opening first loopRuns) o).Idle :=
  ⟨⟨fun _ => rfl, fun _ => rfl, fun _ => rfl, fun _ => rfl, rfl, rfl⟩,
    ⟨fun _ => rfl, fun _ => rfl, fun _ => rfl, fun _ => rfl, rfl, rfl⟩⟩

theorem idle_command {connection : Connection} {database : String} {command : Document}
    {secondaryOk : Bool} {names : FieldRule} {decode : Decoder} (x : Outcome Value) :
    (Incident.answered (.command connection database command secondaryOk names decode) x
      false).Idle :=
  ⟨fun _ => rfl, fun _ => rfl, fun _ => rfl, fun _ => rfl, rfl, rfl⟩

end Cursor.Incident

/-- A source and a connection of it, and what of them is released. -/
structure Holdings where
  taken : Option Source := none
  leased : Option Connection := none
  /-- The source that is released. -/
  source : Option Source := none
  /-- The connection that is released. -/
  connection : Option Connection := none

/-- A history shows just that, each once, and no scheduled kill. -/
structure Records (b : Holdings) (h : List Incident) : Prop where
  taken : ∀ s, h.countP (Incident.takesSource s) = if b.taken = some s then 1 else 0
  leased : ∀ id, h.countP (Incident.leases id) = if b.leased.map (·.id) = some id then 1 else 0
  source : ∀ s, h.countP (Incident.releasesSource s) = if b.source = some s then 1 else 0
  connection : ∀ id,
    h.countP (Incident.releases id) = if b.connection.map (·.id) = some id then 1 else 0
  calm : Calm h

namespace Records

variable {b : Holdings} {h : List Incident}

theorem nil : Records {} [] :=
  ⟨fun _ => rfl, fun _ => rfl, fun _ => rfl, fun _ => rfl, ⟨rfl, rfl⟩⟩

theorem idle (hb : Records b h) {i : Incident} (hi : i.Idle) : Records b (i :: h) where
  taken s := by rw [List.countP_cons, hi.takes, hb.taken]; rfl
  leased id := by rw [List.countP_cons, hi.leases, hb.leased]; rfl
  source s := by rw [List.countP_cons, hi.sources, hb.source]; rfl
  connection id := by rw [List.countP_cons, hi.connections, hb.connection]; rfl
  calm := ⟨by rw [List.countP_cons, hi.begins, hb.calm.begins]; rfl,
    by rw [List.countP_cons, hi.ends, hb.calm.ends]; rfl⟩

theorem idle_last (hb : Records b h) {i : Incident} (hi : i.Idle) : Records b (h ++ [i]) where
  taken s := by rw [List.countP_append, List.countP_singleton, hi.takes, hb.taken]; rfl
  leased id := by rw [List.countP_append, List.countP_singleton, hi.leases, hb.leased]; rfl
  source s := by rw [List.countP_append, List.countP_singleton, hi.sources, hb.source]; rfl
  connection id := by
    rw [List.countP_append, List.countP_singleton, hi.connections, hb.connection]; rfl
  calm := ⟨by rw [List.countP_append, List.countP_singleton, hi.begins, hb.calm.begins]; rfl,
    by rw [List.countP_append, List.countP_singleton, hi.ends, hb.calm.ends]; rfl⟩

theorem take (hb : Records b h) (hnone : b.taken = none) (access : Access) (s : Source) :
    Records { b with taken := some s } (.answered (.source access) (.ok s) false :: h) where
  taken s' := by
    have htakes : (Incident.answered (.source access) (.ok s) false).takesSource s'
        = (s.id == s'.id) := rfl
    obtain ⟨id⟩ := s
    obtain ⟨id'⟩ := s'
    simp [List.countP_cons, htakes, hb.taken, hnone]
  leased := hb.leased
  source := hb.source
  connection := hb.connection
  calm := ⟨hb.calm.begins, hb.calm.ends⟩

theorem lease (hb : Records b h) (hnone : b.leased = none) (s : Source) (x : Connection) :
    Records { b with leased := some x } (.answered (.lease s) (.ok x) false :: h) where
  taken := hb.taken
  leased id := by
    have hleases : (Incident.answered (.lease s) (.ok x) false).leases id = (x.id == id) := rfl
    simp [List.countP_cons, hleases, hb.leased, hnone]
  source := hb.source
  connection := hb.connection
  calm := ⟨hb.calm.begins, hb.calm.ends⟩

theorem releaseSource (hb : Records b h) (hnone : b.source = none) (s : Source) :
    Records { b with source := some s } (.noticed (.releaseSource s) :: h) where
  taken := hb.taken
  leased := hb.leased
  source s' := by simp [List.countP_cons, Incident.releasesSource, hb.source, hnone]
  connection := hb.connection
  calm := ⟨hb.calm.begins, hb.calm.ends⟩

theorem releaseConnection (hb : Records b h) (hnone : b.connection = none) (x : Connection) :
    Records { b with connection := some x } (.noticed (.releaseConnection x) :: h) where
  taken := hb.taken
  leased := hb.leased
  source := hb.source
  connection id := by simp [List.countP_cons, Incident.releases, hb.connection, hnone]
  calm := ⟨hb.calm.begins, hb.calm.ends⟩

end Records

/-! ## Making the cursor -/

section
variable {b : Holdings} {m : Moment} {first : QueryResult} {loopRuns : Bool} {source : Source}

/-- Without a limit, a cursor kills nothing as it is made. -/
theorem firstVerdict_ne_kill (hlimit : m.cursor.limit = 0) :
    (m.firstVerdict first).followUp ≠ .kill := by
  have hfate := Progress.advance_fate m.cursor.progress m.cursor.limit m.cursor.batchSize first
  unfold Moment.firstVerdict
  generalize m.cursor.progress.advance m.cursor.limit m.cursor.batchSize first = after at hfate ⊢
  obtain ⟨p, v⟩ := after
  cases hfate with
  | limitReached _ hl => simp [hlimit, DocumentClient.limitReached] at hl
  | _ => simp [Verdict.followUp]

/-- Without a limit, a cursor that is left without a server cursor as it is made releases its
    resources. -/
theorem started_eq (hlimit : m.cursor.limit = 0) : m.started first loopRuns =
    if (m.absorbed first).cursor.progress.serverCursor = none then (m.absorbed first).settled
    else m.absorbed first := by
  have hfate := Progress.advance_fate m.cursor.progress m.cursor.limit m.cursor.batchSize first
  unfold Moment.started Moment.firstVerdict Moment.absorbed
  generalize m.cursor.progress.advance m.cursor.limit m.cursor.batchSize first = after at hfate ⊢
  obtain ⟨p, v⟩ := after
  dsimp only at hfate ⊢
  cases hfate with
  | ended _ hs => simp [Verdict.followUp, hs]
  | limitReached _ hl => simp [hlimit, DocumentClient.limitReached] at hl
  | dropped _ _ _ hs => simp [Verdict.followUp, hs]
  | kept _ _ _ hs => simp [Verdict.followUp, hs]

/-- The first batch is absorbed after at most a record of it. -/
theorem Records.absorbed (hb : Records b m.history) (first : QueryResult) :
    Records b (m.absorbed first).history := by
  unfold Moment.absorbed
  dsimp only
  rcases (m.cursor.progress.advance m.cursor.limit m.cursor.batchSize first).2 with
    _ | _ | cursor | _
  · exact hb
  · exact hb
  · exact hb.idle (Incident.idle_log _ _)
  · exact hb

/-- The resources go: a source of its own is released. -/
theorem Records.settled (hb : Records b m.history) (hnone : b.source = none)
    (hreleased : m.cursor.released = false) (hconnection : m.cursor.connection = none)
    (hsource : m.cursor.source = none ∨ m.cursor.source = some ⟨.owned, source⟩) :
    Records { b with source := m.cursor.source.map (·.resource) } m.settled.history := by
  have hdues : ∀ p : Incident → Bool, m.settled.history.countP p
      = m.history.countP p + (dues m.cursor).countP fun n => p (.noticed n) := fun p => by
    rw [Moment.settled_countP, hreleased, if_neg Bool.false_ne_true]
  have hzero : ∀ p : Incident → Bool, (∀ n, p (.noticed n) = false) →
      m.settled.history.countP p = m.history.countP p := fun p hp => by
    have hdone : (dues m.cursor).countP (fun n => p (.noticed n)) = 0 :=
      List.countP_eq_zero.2 fun n _ => by simp [hp]
    rw [hdues, hdone, Nat.add_zero]
  constructor
  case taken => exact fun s => (hzero _ fun _ => rfl).trans (hb.taken s)
  case leased => exact fun id => (hzero _ fun _ => rfl).trans (hb.leased id)
  case source =>
    intro s
    rw [hdues, Moment.countP_dues_releasesSource, hb.source, hnone]
    rcases hsource with hsource | hsource <;> simp [hsource, owns]
  case connection =>
    intro id
    rw [hdues, Moment.countP_dues_releases, hconnection]
    exact hb.connection id
  case calm =>
    exact ⟨(hzero _ fun _ => rfl).trans hb.calm.begins, (hzero _ fun _ => rfl).trans hb.calm.ends⟩

/-- What the history shows after the making of a cursor without a limit and without a connection:
    its source is released where no server cursor is left. -/
theorem Records.started (hb : Records b m.history) (first : QueryResult) (loopRuns : Bool)
    (hnone : b.source = none)
    (hlimit : m.cursor.limit = 0) (hreleased : m.cursor.released = false)
    (hconnection : m.cursor.connection = none)
    (hsource : m.cursor.source = none ∨ m.cursor.source = some ⟨.owned, source⟩) :
    Records { b with source := if (m.started first loopRuns).cursor.progress.serverCursor = none
      then m.cursor.source.map (·.resource) else none } (m.started first loopRuns).history := by
  have habsorbed := hb.absorbed first
  rw [started_eq hlimit]
  by_cases hs : (m.absorbed first).cursor.progress.serverCursor = none
  · rw [if_pos hs, Moment.settled_cursor, if_pos hs]
    exact habsorbed.settled hnone hreleased hconnection hsource
  · rw [if_neg hs, if_neg hs, ← hnone]
    exact habsorbed

/-- A server cursor that is left was there before. -/
theorem isSome_of_started (hlimit : m.cursor.limit = 0)
    (hs : (m.started first loopRuns).cursor.progress.serverCursor.isSome) :
    first.cursor.isSome := by
  have habsorbed : (m.absorbed first).cursor.progress.serverCursor.isSome := by
    rw [started_eq hlimit] at hs
    split at hs
    · rwa [Moment.settled_cursor] at hs
    · exact hs
  have hfate := Progress.advance_fate m.cursor.progress m.cursor.limit m.cursor.batchSize first
  unfold Moment.absorbed at habsorbed
  generalize m.cursor.progress.advance m.cursor.limit m.cursor.batchSize first = after
    at hfate habsorbed
  obtain ⟨p, v⟩ := after
  dsimp only at hfate habsorbed
  cases hfate with
  | ended _ hs => simp [hs] at habsorbed
  | limitReached h => exact Option.isSome_of_eq_some h
  | dropped h => exact Option.isSome_of_eq_some h
  | kept h => exact Option.isSome_of_eq_some h

/-- The making is the same after a past. -/
theorem started_after (hlimit : m.cursor.limit = 0) (first : QueryResult) (loopRuns : Bool)
    (past : List Incident) :
    (m.after past).started first loopRuns = (m.started first loopRuns).after past := by
  rw [started_eq (m := m.after past) hlimit, started_eq hlimit, Moment.after_absorbed,
    Moment.after_settled, Moment.after_cursor]
  split <;> rfl

end

/-! ## Cursors without a limit -/

/-- A cursor was made without a limit and without a connection, on a history with such holdings. -/
structure Made (mode : Mode) (source : Source) (b : Holdings) (made : Cursor × Bool)
    (h : List Incident) (plan : Plan) (c : Cursor) (past : List Incident) : Prop where
  limit : plan.limit = 0
  connection : plan.connection = none
  source : plan.source = if made.2 then some ⟨.owned, source⟩ else none
  open_ : made.2 = plan.first.cursor.isSome
  ofPlan : ofPlan mode plan = .ok c
  records : Records b past
  started : (⟨made.1, h⟩ : Moment) = (⟨c, past⟩ : Moment).started plan.first true

namespace Made

variable {mode : Mode} {source : Source} {b : Holdings} {made : Cursor × Bool}
  {h past : List Incident} {plan : Plan} {c : Cursor}

/-- What a cursor is before its first batch. -/
theorem fresh (hm : Made mode source b made h plan c past) : c.limit = 0 ∧ c.released = false ∧
    c.connection = none ∧ c.source = if made.2 then some ⟨.owned, source⟩ else none := by
  obtain ⟨settings, rfl⟩ := exists_of_ofPlan hm.ofPlan
  exact ⟨hm.limit, rfl, hm.connection, hm.source⟩

/-- Its source is its own. -/
theorem owned (hm : Made mode source b made h plan c past) :
    c.source = none ∨ c.source = some ⟨.owned, source⟩ := by
  rw [hm.fresh.2.2.2]
  rcases made.2 with _ | _ <;> simp

/-- The source is released in the making where it was handed over and no server cursor is left. -/
theorem recorded (hm : Made mode source b made h plan c past) (hnone : b.source = none) :
    Records { b with source := if made.1.progress.serverCursor = none ∧ made.2 then some source
      else none } h := by
  obtain ⟨hlimit, hreleased, hconnection, hsource⟩ := hm.fresh
  have hstarted := Records.started (m := ⟨c, past⟩) hm.records plan.first true hnone hlimit
    hreleased hconnection hm.owned
  rw [← hm.started, hsource] at hstarted
  convert hstarted using 2
  simp [ite_and]

/-- A cursor that holds a server cursor has taken the source over. -/
theorem handedOver (hm : Made mode source b made h plan c past)
    (hs : made.1.progress.serverCursor.isSome) : made.2 = true := by
  have hcursor : made.1 = ((⟨c, past⟩ : Moment).started plan.first true).cursor :=
    congrArg Moment.cursor hm.started
  rw [hcursor] at hs
  rw [hm.open_]
  exact isSome_of_started hm.fresh.1 hs

/-- The same cursor could have been made before anything else. -/
theorem anew (hm : Made mode source b made h plan c past) :
    ∃ h₀, Made mode source {} made h₀ plan c [] := by
  have hafter := started_after (m := ⟨c, []⟩) hm.fresh.1 plan.first true past
  have hcursor : made.1 = ((⟨c, []⟩ : Moment).started plan.first true).cursor :=
    congrArg Moment.cursor (hm.started.trans hafter)
  exact ⟨((⟨c, []⟩ : Moment).started plan.first true).history, { hm with
    records := .nil
    started := by rw [hcursor] }⟩

/-- Its life goes on after its making, in which its source was released or not. -/
theorem opening (hm : Made mode source b made h plan c past) :
    ∃ making, Life.opening c plan.first true = Life.after making ⟨⟨made.1, []⟩, []⟩ ∧
      Records { source := if made.1.progress.serverCursor = none ∧ made.2 then some source
        else none } making := by
  obtain ⟨h₀, hm₀⟩ := hm.anew
  obtain ⟨hbegun, hended⟩ := Incident.idle_opening plan.first true (.ok .nothing)
  refine ⟨_, ?_, ((hm₀.recorded rfl).idle_last hbegun).idle hended⟩
  have hafter := started_after (m := ⟨c, []⟩) hm.fresh.1 plan.first true
    [.begun (.opening plan.first true)]
  rw [← hm₀.started] at hafter
  rw [opening_eq (.inr (firstVerdict_ne_kill hm.fresh.1))]
  let ended : Incident := .ended (.opening plan.first true) (.ok .nothing)
  exact congrArg (fun m => (⟨m.record ended, []⟩ : Life)) hafter

/-- **The source of a cursor that was handed over is released once.** Whatever is called once the
    history shows such holdings: left exhausted or closed, the cursor has released what was not. -/
theorem released_of_finished (hm : Made mode source b made h plan c past) {x : Connection}
    {later : List Incident} {l : Life} (hlater : Records ⟨some source, some x,
      if made.1.progress.serverCursor.isSome then none else some source, some x⟩ later)
    (hl : Life.Finished mode ⟨⟨made.1, later⟩, []⟩ l) :
    (∀ s, l.moment.sourceReleases s = if source = s then 1 else 0) ∧
      ∀ id, l.moment.releases id = l.moment.leases id := by
  -- the life is one that goes on after the making, with another past
  obtain ⟨making, hopening, hmaking⟩ := hm.opening
  obtain ⟨l₁, hl₁, rfl⟩ :=
    (Life.finished_after_iff (l := ⟨⟨made.1, []⟩, []⟩) hlater.calm).1 hl
  have hfinished : Life.Finished mode (Life.opening c plan.first true) (l₁.after making) := by
    rw [hopening]
    exact (Life.finished_after_iff hmaking.calm).2 ⟨l₁, hl₁, rfl⟩
  have hall := Cursor.released_of_finished hm.ofPlan hm.limit hfinished
  have hcount : ∀ p past, (l₁.after past).moment.history.countP p
      = l₁.moment.history.countP p + past.countP p := fun p past => l₁.moment.after_countP past p
  refine ⟨fun s => ?_, fun id => ?_⟩
  · have hs := hall.sources s
    rw [Moment.sourceReleases, hcount, hmaking.source, hm.source] at hs
    rw [Moment.sourceReleases, hcount, hlater.source]
    rcases hheld : made.1.progress.serverCursor with _ | target
    · -- the source was released in the making, or was not handed over
      rcases hmade : made.2 with _ | _ <;> simp [hheld, hmade, owns] at hs ⊢ <;> omega
    · have hmade : made.2 = true := hm.handedOver (Option.isSome_of_eq_some hheld)
      simp [hheld, hmade, owns] at hs ⊢
      omega
  · have hid := hall.leased (Option.isNone_iff_eq_none.2 hm.connection) id
    rw [Moment.releases, Moment.leases, hcount, hcount, hmaking.connection, hmaking.leased] at hid
    rw [Moment.releases, Moment.leases, hcount, hcount, hlater.connection, hlater.leased]
    exact congrArg (· + _) hid

end Made

/-! ## Running the aggregation -/

/-- The reply to the latest command, and what is known about its server. -/
def latestReply : List Incident → Option (Server × Value)
  | .answered (.command connection _ _ _ _ _) (.ok reply) _ :: _ => some (connection.server, reply)
  | _ :: h => latestReply h
  | [] => none

namespace Aggregation

variable {b : Holdings} {h : List Incident}

/-- A command over a given connection takes and releases nothing, and what it yields is read from
    the reply. -/
theorem records_send (hb : Records b h) {α : Type} (call : Call α) (mode : Mode)
    (preference : ReadPreference) (connection : Connection) :
    Ensures recording (Cell.none _) (fun o h' => Records b h' ∧ ∀ result, o = .ok result →
        ∃ reply, latestReply h' = some (connection.server, reply) ∧
          call.transform reply = .ok result)
      (call.runRead mode preference (some connection)) h := by
  have hlogged := hb.idle (Incident.idle_log .debug
    s!"sending command '{commandName call.command}' to {call.database}{mode.mark}")
  refine Program.ensures_bind.2 (Program.ensures_log.2 (Program.ensures_bind.2 ?_))
  refine Program.ensures_ofOutcome.2 ?_
  rcases wrapCommand call.command preference connection.server with e | command
  · exact ⟨hlogged, nofun⟩
  refine Program.ensures_bind.2 ⟨trivial, ?_⟩
  rintro (e | reply) _ rfl
  · exact ⟨(hlogged.idle (Incident.idle_asked _)).idle (Incident.idle_failed _ e), nofun⟩
  · exact ⟨(hlogged.idle (Incident.idle_asked _)).idle (Incident.idle_command _),
      fun result hresult => ⟨reply, rfl, hresult⟩⟩

/-- A cursor is made from what the latest reply is read as. -/
structure Replied (a : Aggregation) (plan : Plan) (past : List Incident) : Prop where
  batchSize : plan.batchSize = a.batchSize.getD 0
  reply : ∃ server reply, latestReply past = some (server, reply) ∧
    a.toQueryResult server reply = .ok plan.first

/-- Over a connection, a cursor is made or nothing is left. -/
theorem ensures_executeOver (hb : Records b h) (a : Aggregation) (mode : Mode)
    (preference : ReadPreference) (source : Source) (connection : Connection) :
    Ensures recording (Cell.none _) (fun o h' => match o with
      | .ok made => ∃ plan c past, Made mode source b made h' plan c past ∧ a.Replied plan past
      | .error _ => Records b h') (a.executeOver mode preference source connection) h := by
  refine Program.ensures_bind.2 (Program.ensures_ofOutcome.2 ?_)
  rcases a.checkReadConcern connection.server with e | ⟨⟩
  · exact hb
  refine Program.ensures_bind.2 (Program.ensures_log.2 (Program.ensures_bind.2 ?_))
  have hlogged := hb.idle (Incident.idle_log .info
    s!"running aggregation on {a.ns.fullName}{mode.mark}")
  refine Program.ensures_mono ?_ (records_send hlogged (a.call connection.server) mode preference
    connection)
  rintro (e | first) past ⟨hpast, hreply⟩
  · exact hpast
  let plan : Plan :=
    { first := first
      batchSize := a.batchSize.getD 0
      decode := a.decode
      source := if first.cursor.isSome then some ⟨.owned, source⟩ else none
      overrides := a.overrides }
  have hreplied : a.Replied plan past := ⟨rfl, connection.server, hreply first rfl⟩
  refine Program.ensures_bind.2 (Program.ensures_bind.2 (Program.ensures_ofValid.2 ?_))
  rcases hplan : ofPlan mode plan with e | c
  · exact hpast
  have hlimit : c.limit = 0 := (planned_of_ofPlan hplan).limit
  have hstarted := ensures_within_of_silent (m := ⟨c, past⟩)
    (silent_start first true (.inr (firstVerdict_ne_kill hlimit)))
  refine Program.ensures_bind.2 (Program.ensures_mono ?_ hstarted)
  rintro _ _ ⟨_, m', ⟨rfl, rfl⟩, rfl, rfl⟩
  exact ⟨plan, c, past, ⟨rfl, rfl, rfl, rfl, hplan, hpast, rfl⟩, hreplied⟩

/-- How an aggregation can go: what it comes to, and the history it leaves. -/
inductive Goes (a : Aggregation) (mode : Mode) : Outcome Cursor → List Incident → Prop where
  | unsourced {h : List Incident} {e : Failure} (hh : Records {} h) : Goes a mode (.error e) h
  | unconnected {h : List Incident} {e : Failure} {source : Source}
      (hh : Records { taken := some source } h) :
      Goes a mode (.error e) (.noticed (.releaseSource source) :: h)
  | failed {h : List Incident} {e : Failure} {source : Source} {x : Connection}
      (hh : Records { taken := some source, leased := some x } h) :
      Goes a mode (.error e)
        (.noticed (.releaseSource source) :: .noticed (.releaseConnection x) :: h)
  /-- The cursor has taken the source over. -/
  | handsOver {h past : List Incident} {c fresh : Cursor} {source : Source} {x : Connection}
      {plan : Plan}
      (hmade : Made mode source { taken := some source, leased := some x } (c, true) h plan fresh
        past) (hreplied : a.Replied plan past) :
      Goes a mode (.ok c) (.noticed (.releaseConnection x) :: h)
  | ends {h past : List Incident} {c fresh : Cursor} {source : Source} {x : Connection}
      {plan : Plan}
      (hmade : Made mode source { taken := some source, leased := some x } (c, false) h plan fresh
        past) (hreplied : a.Replied plan past) :
      Goes a mode (.ok c) (.noticed (.releaseSource source) :: .noticed (.releaseConnection x) :: h)

theorem ensures_execute (a : Aggregation) (mode : Mode) (preference : ReadPreference) :
    Ensures recording (Cell.none _) (a.Goes mode) (a.execute mode preference) [] := by
  refine Program.ensures_bind.2 ⟨trivial, ?_⟩
  rintro (e | source) _ rfl
  · exact .unsourced ((Records.nil.idle (Incident.idle_asked _)).idle (Incident.idle_failed _ e))
  have htaken := (Records.nil.idle (Incident.idle_asked (.source .read))).take rfl .read source
  refine Program.ensures_bind.2 (Program.ensures_attempt.2 (Program.ensures_bind.2 ⟨trivial, ?_⟩))
  rintro (e | connection) _ rfl
  · exact .unconnected ((htaken.idle (Incident.idle_asked _)).idle (Incident.idle_failed _ e))
  have hleased := (htaken.idle (Incident.idle_asked (.lease source))).lease rfl source connection
  refine Program.ensures_always.2 (Program.ensures_mono ?_
    (ensures_executeOver hleased a mode preference source connection))
  rintro (e | ⟨c, _ | _⟩) h hover
  · exact .failed hover
  · obtain ⟨plan, fresh, past, hmade, hreplied⟩ := hover
    exact .ends hmade hreplied
  · obtain ⟨plan, fresh, past, hmade, hreplied⟩ := hover
    exact .handsOver hmade hreplied

theorem goes_of_execute {ω : Type} {i : Interpreter ω} {a : Aggregation} {mode : Mode}
    {preference : ReadPreference} {w w' : ω} {o : Outcome Cursor}
    (hrun : interpret i.recorded (Cell.none _) (a.execute mode preference) (w, []) = (o, w', h)) :
    a.Goes mode o h := by
  have hensures := interpret_recorded (i := i) (w := (w, [])) (ensures_execute a mode preference)
  rwa [hrun] at hensures

/-! ## Handing over -/

/-- What an aggregation leaves. -/
def Handover (mode : Mode) : Outcome Cursor → List Incident → Prop
  /- What was taken is released. -/
  | .error _, h => ∃ source connection, Records ⟨source, connection, source, connection⟩ h
  /- The connection is released, and the source, unless the cursor holds a server cursor; and all
     is released once the cursor was left exhausted or closed. -/
  | .ok c, h => ∃ source connection, Records ⟨some source, some connection,
      if c.progress.serverCursor.isSome then none else some source, some connection⟩ h ∧
      ∀ l, Life.Finished mode ⟨⟨c, h⟩, []⟩ l →
        (∀ s, l.moment.sourceReleases s = if source = s then 1 else 0) ∧
        ∀ id, l.moment.releases id = l.moment.leases id

theorem Goes.handover {a : Aggregation} {mode : Mode} {o : Outcome Cursor}
    (hgoes : a.Goes mode o h) : Handover mode o h := by
  cases hgoes with
  | unsourced hh => exact ⟨none, none, hh⟩
  | @unconnected _ _ source hh => exact ⟨some source, none, hh.releaseSource rfl source⟩
  | @failed _ _ source x hh =>
    exact ⟨some source, some x, (hh.releaseConnection rfl x).releaseSource rfl source⟩
  | @handsOver h past c fresh source x plan hmade _ =>
    have hrecorded := (hmade.recorded rfl).releaseConnection rfl x
    have hleft : Records ⟨some source, some x,
        if c.progress.serverCursor.isSome then none else some source, some x⟩
        (.noticed (.releaseConnection x) :: h) := by
      rcases hs : c.progress.serverCursor with _ | target <;> simpa [hs] using hrecorded
    exact ⟨source, x, hleft, fun l hl => hmade.released_of_finished hleft hl⟩
  | @ends h past c fresh source x plan hmade _ =>
    have hnone : c.progress.serverCursor = none :=
      Option.not_isSome_iff_eq_none.1 fun hs => Bool.false_ne_true (hmade.handedOver hs)
    have hreleased :=
      ((hmade.recorded rfl).releaseConnection rfl x).releaseSource (by simp) source
    have hleft : Records ⟨some source, some x,
        if c.progress.serverCursor.isSome then none else some source, some x⟩
        (.noticed (.releaseSource source) :: .noticed (.releaseConnection x) :: h) := by
      simpa [hnone] using hreleased
    exact ⟨source, x, hleft, fun l hl => hmade.released_of_finished hleft hl⟩

/-- **The resources of an aggregation.** Whatever the world answers: if the aggregation fails, what
    it has taken is released, once.  If it yields a cursor, the connection is released once, and so
    is the source unless the cursor holds a server cursor; and after any calls of the cursor that
    leave it exhausted or closed, with its scheduled kills awaited, the source is released once and
    every connection as often as it was leased. -/
theorem handover_of_execute {ω : Type} {i : Interpreter ω} {a : Aggregation} {mode : Mode}
    {preference : ReadPreference} {w w' : ω} {o : Outcome Cursor} {h : List Incident}
    (hrun : interpret i.recorded (Cell.none _) (a.execute mode preference) (w, []) = (o, w', h)) :
    Handover mode o h :=
  (goes_of_execute hrun).handover

/-! ## An aggregation whose cursor is closed early -/

/-- An aggregation of the sample namespace. -/
def sample : Aggregation := { ns := (Cursor.Plan.sample 0).first.ns, pipeline := [] }

/-- A world in which the reply holds a document of possibly more, and all goes well. -/
def replying : Interpreter Unit where
  take _ w := w
  answer
    | .command .., w => (.ok (.doc [("cursor", .doc [("id", .int 7), ("ns", .text "library.books"),
        ("firstBatch", .list [.int 1])])]), w)
    | q, w => (obliging q, w)

/-- The run of the aggregation in an event loop. -/
def sampleRun : Outcome Cursor × Unit × List Incident :=
  interpret replying.recorded (Cell.none _) (sample.execute .async .primary) ((), [])

theorem sampleRun_ok : sampleRun.1.toOption.isSome = true := by decide +kernel

/-- The cursor of that run, and its history. -/
def handed : Life := ⟨⟨sampleRun.1.toOption.get sampleRun_ok, sampleRun.2.2⟩, []⟩

/-- A retrieval was cancelled while it waited for its connection, and the cursor was closed. -/
def left : Life :=
  let waiting := (handed.begin (.next 2)).begin (.next 2)
  (waiting.respond fun _ => .error .cancelled).begin (.close true)

/-- The same after the scheduled kill. -/
def killed : Life :=
  (((left.unscheduled []).begin (.cleanup sampleTarget)).respond obliging).respond obliging

theorem finished_killed : Life.Finished .async handed killed := by
  have hhanded : Life.Reaches anyOrder handed handed := .refl
  have htaken := hhanded.begin (a := .next 2)
    ⟨trivial, rfl, by decide +kernel, fun _ => by decide +kernel⟩
  have hwaiting := htaken.begin (a := .next 2)
    ⟨trivial, rfl, by decide +kernel, fun _ => by decide +kernel⟩
  have hcancelled := hwaiting.respond (fun _ => .error .cancelled) fun _ => trivial
  have hleft : Life.Reaches anyOrder handed left :=
    hcancelled.begin ⟨trivial, rfl, by decide +kernel, fun _ => by decide +kernel⟩
  have hscheduled : left.moment.cursor.cleanups = [] ++ sampleTarget :: [] := by
    decide +kernel
  have hkilling : Life.Reaches anyOrder left
      ((left.unscheduled []).begin (.cleanup sampleTarget)) := .tail .refl (.run hscheduled)
  have hover := (hkilling.respond obliging fun _ => trivial).respond obliging fun _ => trivial
  have hthreads : killed.threads.any (·.activity.isRetrieval) = false := by decide +kernel
  exact ⟨left, hleft, .inr (by decide +kernel), ⟨hover, by decide +kernel⟩,
    by simpa [Life.Retrieves] using hthreads⟩

/-- While the cursor lives the source is not released, and after all it is, once. -/
theorem handover_sampleRun : Handover .async sampleRun.1 sampleRun.2.2 ∧
    handed.moment.cursor.progress.serverCursor.isSome = true ∧
    handed.moment.sourceReleases ⟨0⟩ = 0 ∧ Life.Finished .async handed killed ∧
    killed.moment.sourceReleases ⟨0⟩ = 1 :=
  ⟨handover_of_execute (i := replying) (a := sample) (w := ()) rfl, by decide +kernel,
    by decide +kernel, finished_killed, by decide +kernel⟩

end Aggregation

end DocumentClient
