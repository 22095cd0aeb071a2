/-
  Resources that will go.

  `Guarded` says when the resources of an asynchronous cursor may go; `Provident` adds that
  they will.  A closed cursor has released them, or a scheduled kill will.  The same holds of
  an open cursor without a server cursor once no retrieval is under way, with one
  exception: a cursor is `Stranded` if the kill with which a retrieval ended was cancelled,
  since that retrieval left without the release, and no later one fetches.

  The lemmas say which changes keep this, and what they leave to those that wait:
  `Lasts` is what any change leaves alone, `Concedes` what is left to a retrieval.
-/
import DocumentClient.Proofs.Cursor.Scheduling
import DocumentClient.Proofs.Cursor.Silent

namespace DocumentClient.Cursor

/-! ## Vocabulary -/

/-- Whether the request of a kill was cancelled. -/
def Incident.cancelsKill : Incident → Bool
  | .answered (.killCursors _ _ _) (.error .cancelled) _ => true
  | _ => false

theorem Incident.cancelsKill_answered {connection : Connection} {ns : Namespace} {ids : List Int}
    {x : Outcome Unit} {wasOpen : Bool}
    (hx : x ≠ .error .cancelled) :
    (Incident.answered (.killCursors connection ns ids) x wasOpen).cancelsKill = false := by
  unfold cancelsKill
  split
  · rename_i heq
    cases heq
    exact absurd rfl hx
  · rfl

namespace Moment

/-- How many kills were scheduled so far. -/
def scheduled (m : Moment) : Nat := m.cursor.cleanups.length + m.begun Activity.isCleanup

theorem unfinished_eq (m : Moment) :
    m.unfinished = m.scheduled - m.ended Activity.isCleanup := by
  simp [unfinished, scheduled]

/-- The resources were released, or a scheduled kill will release them. -/
def Provided (m : Moment) : Prop := m.cursor.released = true ∨ 0 < m.unfinished

/-- A retrieval is under way. -/
def Retrieving (m : Moment) : Prop := m.ended Activity.isRetrieval < m.begun Activity.isRetrieval

end Moment

/-- An open cursor whose kill was cancelled when a fetch had reached the limit. -/
def Stranded (plan : Plan) (m : Moment) : Prop :=
  plan.stopsEarly = false ∧ m.cursor.closed = false ∧ m.history.any Incident.cancelsKill = true

/-- Where more than so many retrievals are under way, or a server cursor is held, nothing is said
    of the resources.  Otherwise they are provided for, or the cursor is stranded. -/
def Backed (plan : Plan) (k : Nat) (m : Moment) : Prop :=
  m.ended Activity.isRetrieval + k < m.begun Activity.isRetrieval ∨
    (m.cursor.progress.serverCursor = none → m.Provided ∨ Stranded plan m)

/-- What holds of an asynchronous cursor whose resources will go. -/
structure Provident (plan : Plan) (m : Moment) : Prop extends Guarded plan m where
  limit : m.cursor.limit = plan.limit
  counted : m.ended Activity.isRetrieval ≤ m.begun Activity.isRetrieval
  intact : m.cursor.progress.serverCursor.isSome → m.unfinished = 0
  paid : m.cursor.closed → m.Provided
  lost : Stranded plan m → m.cursor.released = false ∧ m.cursor.progress.serverCursor = none ∧
    limitReached plan.limit m.cursor.progress.delivered = true
  backed : Backed plan 0 m

/-- What any stretch does to a cursor: closing is for good, and a cursor without a server cursor
    gets none and schedules nothing. -/
structure Lasts (m m' : Moment) : Prop where
  closed : m.cursor.closed → m'.cursor.closed
  idle : m.cursor.progress.serverCursor = none →
    m'.cursor.progress.serverCursor = none ∧ m'.scheduled = m.scheduled

/-- What others may do to a cursor while a retrieval waits. -/
structure Concedes (plan : Plan) (m m' : Moment) : Prop extends Lasts m m' where
  live : plan.stopsEarly = false → m'.cursor.closed = false →
    m'.cursor.progress.serverCursor = m.cursor.progress.serverCursor ∧
      m'.cursor.released = m.cursor.released
  delivered : m'.cursor.progress.delivered = m.cursor.progress.delivered
  begun : m'.begun Activity.isRetrieval = m.begun Activity.isRetrieval
  ended : m'.ended Activity.isRetrieval = m.ended Activity.isRetrieval
  spent : m.cursor.progress.serverCursor = none → m.unfinished ≤ 0 → m'.unfinished ≤ 0
  backed : ∀ k, Backed plan k m → Backed plan k m'
  stranded : Stranded plan m' → Stranded plan m

variable {plan : Plan} {m m' m₁ m₂ m₃ : Moment}

theorem Lasts.refl (m : Moment) : Lasts m m := ⟨id, fun hs => ⟨hs, rfl⟩⟩

theorem Lasts.trans (h : Lasts m₁ m₂) (h' : Lasts m₂ m₃) : Lasts m₁ m₃ where
  closed hc := h'.closed (h.closed hc)
  idle hs := by
    obtain ⟨hs₂, hscheduled₂⟩ := h.idle hs
    obtain ⟨hs₃, hscheduled₃⟩ := h'.idle hs₂
    exact ⟨hs₃, hscheduled₃.trans hscheduled₂⟩

theorem Concedes.refl (m : Moment) : Concedes plan m m :=
  ⟨.refl m, fun _ _ => ⟨rfl, rfl⟩, rfl, rfl, rfl, fun _ => id, fun _ => id, id⟩

theorem Concedes.trans (h : Concedes plan m₁ m₂) (h' : Concedes plan m₂ m₃) :
    Concedes plan m₁ m₃ where
  toLasts := h.toLasts.trans h'.toLasts
  live he hc := by
    have hc₂ : m₂.cursor.closed = false := Moment.open_of_open h'.closed hc
    obtain ⟨hs₂, hr₂⟩ := h.live he hc₂
    obtain ⟨hs₃, hr₃⟩ := h'.live he hc
    exact ⟨hs₃.trans hs₂, hr₃.trans hr₂⟩
  delivered := h'.delivered.trans h.delivered
  begun := h'.begun.trans h.begun
  ended := h'.ended.trans h.ended
  spent hs hu := h'.spent (h.idle hs).1 (h.spent hs hu)
  backed k hb := h'.backed k (h.backed k hb)
  stranded hstranded := h.stranded (h'.stranded hstranded)

/-! ## Changes that do not matter -/

/-- Moments that differ in nothing that the resources depend on. -/
structure Alike (plan : Plan) (m m' : Moment) : Prop where
  limit : m'.cursor.limit = m.cursor.limit
  closed : m'.cursor.closed = m.cursor.closed
  released : m'.cursor.released = m.cursor.released
  serverCursor : m'.cursor.progress.serverCursor = m.cursor.progress.serverCursor
  delivered : m'.cursor.progress.delivered = m.cursor.progress.delivered
  begun : m'.begun Activity.isRetrieval = m.begun Activity.isRetrieval
  ended : m'.ended Activity.isRetrieval = m.ended Activity.isRetrieval
  scheduled : m'.scheduled = m.scheduled
  unfinished : m'.unfinished = m.unfinished
  stranded : Stranded plan m' ↔ Stranded plan m

theorem Alike.provided (h : Alike plan m m') : m'.Provided ↔ m.Provided := by
  rw [Moment.Provided, Moment.Provided, h.released, h.unfinished]

theorem Alike.backed (h : Alike plan m m') (k : Nat) : Backed plan k m' ↔ Backed plan k m := by
  rw [Backed, Backed, h.begun, h.ended, h.serverCursor, h.provided, h.stranded]

theorem Alike.lasts (h : Alike plan m m') : Lasts m m' :=
  ⟨fun hc => h.closed.trans hc, fun hs => ⟨h.serverCursor.trans hs, h.scheduled⟩⟩

theorem Alike.concedes (h : Alike plan m m') : Concedes plan m m' where
  toLasts := h.lasts
  live _ _ := ⟨h.serverCursor, h.released⟩
  delivered := h.delivered
  begun := h.begun
  ended := h.ended
  spent _ hu := h.unfinished ▸ hu
  backed k := (h.backed k).2
  stranded := h.stranded.1

theorem Provident.alike (h : Provident plan m) (ha : Alike plan m m') (hg : Guarded plan m') :
    Provident plan m' where
  toGuarded := hg
  limit := ha.limit.trans h.limit
  counted := by rw [ha.begun, ha.ended]; exact h.counted
  intact hs := ha.unfinished.trans (h.intact (ha.serverCursor ▸ hs))
  paid hc := ha.provided.2 (h.paid (ha.closed ▸ hc))
  lost hstranded := by
    rw [ha.released, ha.serverCursor, ha.delivered]
    exact h.lost (ha.stranded.1 hstranded)
  backed := (ha.backed 0).2 h.backed

/-- An incident that is no part of the account, and neither begins nor ends a retrieval or a
    scheduled kill. -/
structure Passing (plan : Plan) (m : Moment) (i : Incident) : Prop where
  releases : plan.connection.isSome → ∀ id, i.releases id = false
  sources : ∀ s, i.releasesSource s = false
  begins : ∀ p, (p = Activity.isCleanup ∨ p = Activity.isRetrieval) → i.begins p = false
  ends : ∀ p, (p = Activity.isCleanup ∨ p = Activity.isRetrieval) → i.ends p = false
  /-- Kills of cursors that are open, and were not stopped early, are looked at apart. -/
  kills : i.cancelsKill → plan.stopsEarly = true ∨ m.cursor.closed = true

theorem stranded_record {i : Incident}
    (hi : i.cancelsKill → plan.stopsEarly = true ∨ m.cursor.closed = true) :
    Stranded plan (m.record i) ↔ Stranded plan m := by
  simp only [Stranded, Moment.record_cursor, Moment.record_history, List.any_cons]
  rcases hk : i.cancelsKill with _ | _
  · simp
  · rcases hi hk with he | hc
    · simp [he]
    · simp [hc]

theorem stranded_record_of_false {i : Incident} (hi : i.cancelsKill = false) :
    Stranded plan (m.record i) ↔ Stranded plan m :=
  stranded_record fun h => by simp [hi] at h

theorem Passing.alike {i : Incident} (hi : Passing plan m i) : Alike plan m (m.record i) where
  limit := rfl
  closed := rfl
  released := rfl
  serverCursor := rfl
  delivered := rfl
  begun := by simp [Moment.record_begun, hi.begins _ (.inr rfl)]
  ended := by simp [Moment.record_ended, hi.ends _ (.inr rfl)]
  scheduled := by
    simp [Moment.scheduled, Moment.record_begun, hi.begins _ (.inl rfl)]
  unfinished := Moment.record_unfinished (hi.begins _ (.inl rfl)) (hi.ends _ (.inl rfl)) m
  stranded := stranded_record hi.kills

theorem Provident.record (h : Provident plan m) {i : Incident} (hi : Passing plan m i) :
    Provident plan (m.record i) :=
  h.alike hi.alike (h.toGuarded.record hi.releases hi.sources (hi.begins _ (.inl rfl))
    (hi.ends _ (.inl rfl)))

section
variable {q : Exchange}

theorem passing_asked (plan : Plan) (m : Moment) (q : Exchange) : Passing plan m (.asked q) :=
  ⟨fun _ _ => rfl, fun _ => rfl, fun _ _ => rfl, fun _ _ => rfl, nofun⟩

theorem passing_answered {x : Outcome q.Answer} {wasOpen : Bool}
    (hk : (Incident.answered q x wasOpen).cancelsKill →
      plan.stopsEarly = true ∨ m.cursor.closed = true) :
    Passing plan m (.answered q x wasOpen) :=
  ⟨fun _ _ => rfl, fun _ => rfl, fun _ _ => rfl, fun _ _ => rfl, hk⟩

theorem passing_log (plan : Plan) (m : Moment) (level : LogLevel) (message : String) :
    Passing plan m (.noticed (.log level message)) :=
  ⟨fun _ _ => rfl, fun _ => rfl, fun _ _ => rfl, fun _ _ => rfl, nofun⟩

/-- A connection that was leased is given back. -/
theorem passing_releaseConnection (hc : plan.connection = none) (m : Moment) (x : Connection) :
    Passing plan m (.noticed (.releaseConnection x)) :=
  ⟨fun h => by simp [hc] at h, fun _ => rfl, fun _ _ => rfl, fun _ _ => rfl, nofun⟩

/-- An activity that is neither a retrieval nor a scheduled kill begins. -/
theorem passing_begun {a : Activity} (hc : a.isCleanup = false) (hr : a.isRetrieval = false) :
    Passing plan m (.begun a) :=
  ⟨fun _ _ => rfl, fun _ => rfl, by rintro _ (rfl | rfl) <;> assumption, fun _ _ => rfl, nofun⟩

theorem passing_ended {a : Activity} {o : Outcome Yield} (hc : a.isCleanup = false)
    (hr : a.isRetrieval = false) : Passing plan m (.ended a o) :=
  ⟨fun _ _ => rfl, fun _ => rfl, fun _ _ => rfl, by rintro _ (rfl | rfl) <;> assumption, nofun⟩

end

/-- A change that touches neither the resources nor the server cursor. -/
theorem alike_put {c : Cursor} (hlimit : c.limit = m.cursor.limit)
    (hclosed : c.closed = m.cursor.closed) (hreleased : c.released = m.cursor.released)
    (hcleanups : c.cleanups = m.cursor.cleanups)
    (hs : c.progress.serverCursor = m.cursor.progress.serverCursor)
    (hdelivered : c.progress.delivered = m.cursor.progress.delivered) :
    Alike plan m (m.put c) where
  limit := hlimit
  closed := hclosed
  released := hreleased
  serverCursor := hs
  delivered := hdelivered
  begun := rfl
  ended := rfl
  scheduled := by
    rw [Moment.scheduled, Moment.scheduled, Moment.put_cursor, hcleanups]
    rfl
  unfinished := Moment.put_unfinished hcleanups
  stranded := by rw [Stranded, Stranded, Moment.put_cursor, Moment.put_history, hclosed]

/-- A kill that begins. -/
theorem Provident.begun {before after : List ServerCursor} {target : ServerCursor}
    (h : Provident plan m) (hc : m.cursor.cleanups = before ++ target :: after) :
    Provident plan ((m.put { m.cursor with cleanups := before ++ after }).record
        (.begun (.cleanup target))) ∧
      Alike plan m ((m.put { m.cursor with cleanups := before ++ after }).record
        (.begun (.cleanup target))) := by
  obtain ⟨hguarded, hu⟩ := h.toGuarded.begun hc
  have halike : Alike plan m ((m.put { m.cursor with cleanups := before ++ after }).record
      (.begun (.cleanup target))) := by
    refine ⟨rfl, rfl, rfl, rfl, rfl, ?_, ?_, ?_, hu, ?_⟩
    · rw [Moment.record_begun]; rfl
    · rw [Moment.record_ended]; rfl
    · rw [Moment.scheduled, Moment.scheduled, Moment.record_begun, Moment.record_cursor,
        Moment.put_cursor, hc]
      simp [Incident.begins, Activity.isCleanup, Moment.begun]
      omega
    · exact stranded_record_of_false rfl
  exact ⟨h.alike halike hguarded, halike⟩

/-! ## Releasing -/

namespace Moment

theorem settled_any (p : Incident → Bool) (hp : ∀ n, p (.noticed n) = false) (m : Moment) :
    m.settled.history.any p = m.history.any p := by
  unfold settled
  split
  · rfl
  · simp [List.any_append, List.any_map, Function.comp_def, hp]

theorem settled_scheduled (m : Moment) : m.settled.scheduled = m.scheduled := by
  rw [scheduled, settled_begun, settled_cursor]
  rfl

theorem settled_provided (m : Moment) : m.settled.Provided := by
  rw [Provided, settled_cursor]
  exact .inl rfl

end Moment

theorem stranded_settled : Stranded plan m.settled ↔ Stranded plan m := by
  rw [Stranded, Stranded, Moment.settled_any _ (fun _ => rfl), Moment.settled_cursor]

/-- Where no server cursor is held and no kill is unfinished, or the cursor was stopped early and
    is closed, the resources may go. -/
theorem Provident.settled (h : Provident plan m) (closed : Bool)
    (hclosed : m.cursor.closed → closed = true) (hs : m.cursor.progress.serverCursor = none)
    (hp : 0 < m.unfinished → (plan.stopsEarly && closed) = true)
    (hstranded : closed = false → ¬ Stranded plan m) :
    Provident plan (m.put { m.cursor with closed := closed }).settled := by
  have hprovided := (m.put { m.cursor with closed := closed }).settled_provided
  have hcursor := Moment.settled_cursor (m.put { m.cursor with closed := closed })
  constructor
  case toGuarded => exact h.toGuarded.settled closed hclosed hs hp
  case limit => rw [hcursor]; exact h.limit
  case counted =>
    rw [Moment.settled_begun, Moment.settled_ended]
    exact h.counted
  case intact =>
    intro hsome
    rw [hcursor, Moment.put_cursor, hs] at hsome
    simp at hsome
  case paid => exact fun _ => hprovided
  case lost =>
    intro hlost
    obtain ⟨he, hc, hany⟩ := stranded_settled.1 hlost
    have hopen : m.cursor.closed = false := Moment.open_of_open hclosed hc
    exact absurd ⟨he, hopen, hany⟩ (hstranded hc)
  case backed => exact .inr fun _ => .inl hprovided

theorem lasts_settled (hs : m.cursor.progress.serverCursor = none) : Lasts m m.settled := by
  refine ⟨fun hc => ?_, fun _ => ⟨?_, m.settled_scheduled⟩⟩
  · rw [Moment.settled_cursor]; exact hc
  · rw [Moment.settled_cursor]; exact hs

/-! ## Closing -/

/-- The same cursor closed, with its resources provided for. -/
structure Closes (m m' : Moment) : Prop where
  closed : m'.cursor.closed = true
  limit : m'.cursor.limit = m.cursor.limit
  delivered : m'.cursor.progress.delivered = m.cursor.progress.delivered
  begun : m'.begun Activity.isRetrieval = m.begun Activity.isRetrieval
  ended : m'.ended Activity.isRetrieval = m.ended Activity.isRetrieval
  idle : m.cursor.progress.serverCursor = none → m'.cursor.progress.serverCursor = none ∧
    m'.scheduled = m.scheduled ∧ (m.unfinished ≤ 0 → m'.unfinished ≤ 0)
  provided : m'.Provided

theorem Closes.lasts (h : Closes m m') : Lasts m m' :=
  ⟨fun _ => h.closed, fun hs => ⟨(h.idle hs).1, (h.idle hs).2.1⟩⟩

theorem Closes.concedes (h : Closes m m') : Concedes plan m m' where
  toLasts := h.lasts
  live _ hopen := by simp [h.closed] at hopen
  delivered := h.delivered
  begun := h.begun
  ended := h.ended
  spent hs := (h.idle hs).2.2
  backed _ _ := .inr fun _ => .inl h.provided
  stranded hstranded := by simp [Stranded, h.closed] at hstranded

theorem Closes.provident (hc : Closes m m') (h : Provident plan m) (hg : Guarded plan m') :
    Provident plan m' where
  toGuarded := hg
  limit := hc.limit.trans h.limit
  counted := by rw [hc.begun, hc.ended]; exact h.counted
  intact hs := by simp [hg.shut hc.closed] at hs
  paid _ := hc.provided
  lost hstranded := by simp [Stranded, hc.closed] at hstranded
  backed := .inr fun _ => .inl hc.provided

/-- Where the resources go as a cursor is closed. -/
theorem closes_settled {c : Cursor} (hclosed : c.closed = true) (hlimit : c.limit = m.cursor.limit)
    (hdelivered : c.progress.delivered = m.cursor.progress.delivered)
    (hcleanups : c.cleanups = m.cursor.cleanups) (hs : c.progress.serverCursor = none) {m₁ : Moment}
    (hm₁ : m₁ = m.put c ∨ ∃ level message, m₁ = (m.put c).record (.noticed (.log level message))) :
    Closes m m₁.settled := by
  have hcursor : m₁.settled.cursor = { c with released := true } := by
    rw [Moment.settled_cursor]
    rcases hm₁ with rfl | ⟨level, message, rfl⟩ <;> rfl
  have hbegun : ∀ p, m₁.settled.begun p = m.begun p := by
    intro p
    rw [Moment.settled_begun]
    rcases hm₁ with rfl | ⟨level, message, rfl⟩
    · rfl
    · rw [Moment.record_begun]; rfl
  have hended : ∀ p, m₁.settled.ended p = m.ended p := by
    intro p
    rw [Moment.settled_ended]
    rcases hm₁ with rfl | ⟨level, message, rfl⟩
    · rfl
    · rw [Moment.record_ended]; rfl
  have hscheduled : m₁.settled.scheduled = m.scheduled := by
    rw [Moment.scheduled, Moment.scheduled, hbegun, hcursor]
    exact congrArg (·.length + _) hcleanups
  refine ⟨?_, ?_, ?_, hbegun _, hended _, fun _ => ⟨?_, hscheduled, ?_⟩, m₁.settled_provided⟩
  · rw [hcursor]; exact hclosed
  · rw [hcursor]; exact hlimit
  · rw [hcursor]; exact hdelivered
  · rw [hcursor]; exact hs
  · rw [Moment.unfinished_eq, Moment.unfinished_eq, hscheduled, hended]
    exact id

/-- The kill of a server cursor is left out, and the resources go. -/
theorem Guarded.skipped (h : Guarded plan m) (hs : m.cursor.progress.serverCursor.isSome)
    (target : ServerCursor) : Guarded plan
      (((m.put { m.cursor.forget with closed := true }).record
        (.noticed (killSkipped target))).settled) := by
  have hlive := h.live hs
  have hforgotten : Guarded plan ((m.put m.cursor.forget).record (.noticed (killSkipped target))) :=
    h.forgotten.record (fun _ _ => rfl) (fun _ => rfl) rfl rfl
  refine hforgotten.settled true (fun _ => rfl) rfl fun hpos => ?_
  have hidle := (hforgotten.going hlive.2.2 hlive.1).2
  omega

/-- An open cursor is closed, on a running loop or not. -/
theorem Provident.shut_open (h : Provident plan m) (hopen : m.cursor.closed = false)
    (loopRuns : Bool) : ∃ m', (m.put { m.cursor with closed := true }).dismissed loopRuns = m' ∧
      Guarded plan m' ∧ Closes m m' := by
  rcases hs : m.cursor.progress.serverCursor with _ | target
  · -- without a server cursor the resources go at once
    refine ⟨(m.put { m.cursor with closed := true }).settled, by simp [Moment.dismissed, hs],
      h.toGuarded.settled true (fun _ => rfl) hs fun hpos => ?_,
      closes_settled (c := { m.cursor with closed := true }) rfl rfl rfl rfl hs (.inl rfl)⟩
    rcases he : plan.stopsEarly with _ | _
    · have := (h.going he hopen).2
      omega
    · rfl
  have hsome : m.cursor.progress.serverCursor.isSome := by simp [hs]
  rcases loopRuns with _ | _
  · -- the kill is left out
    exact ⟨_, by simp [Moment.dismissed, hs]; rfl, h.toGuarded.skipped hsome target,
      closes_settled (c := { m.cursor.forget with closed := true }) rfl rfl rfl rfl rfl
        (.inr ⟨_, _, rfl⟩)⟩
  · -- the kill is scheduled
    refine ⟨_, by simp [Moment.dismissed, hs]; rfl, h.toGuarded.scheduled hsome target,
      rfl, rfl, rfl, rfl, rfl, fun hnone => ?_, .inr ?_⟩
    · simp [hs] at hnone
    · have hu : (m.put { m.cursor.forget with
          closed := true, cleanups := m.cursor.cleanups ++ [target] }).unfinished
          = m.unfinished + 1 := m.scheduled_unfinished rfl
      rw [hu, h.intact hsome]
      decide

theorem Provident.shutBy (h : Provident plan m) (loopRuns : Bool) :
    Provident plan (m.shutBy loopRuns) ∧ Concedes plan m (m.shutBy loopRuns) := by
  unfold Moment.shutBy
  split
  · exact ⟨h, .refl m⟩
  · rename_i hc
    obtain ⟨m', heq, hguarded, hcloses⟩ := h.shut_open (eq_false_of_ne_true hc) loopRuns
    rw [heq]
    exact ⟨hcloses.provident h hguarded, hcloses.concedes⟩

/-- A scheduled kill that ends has released the resources. -/
theorem Provident.finished (h : Provident plan m)
    (hc : plan.stopsEarly = true ∨ m.cursor.closed = true) (target : ServerCursor)
    (o : Outcome Yield) : Provident plan (m.settled.record (.ended (.cleanup target) o)) ∧
      Concedes plan m (m.settled.record (.ended (.cleanup target) o)) := by
  have hcursor : (m.settled.record (.ended (.cleanup target) o)).cursor
      = { m.cursor with released := true } := m.settled_cursor
  have hs : m.cursor.progress.serverCursor = none := hc.elim h.early h.shut
  have hu := m.finished_unfinished target o
  have hbegun : (m.settled.record (.ended (.cleanup target) o)).begun Activity.isRetrieval
      = m.begun Activity.isRetrieval := by
    rw [Moment.record_begun, Moment.settled_begun]; rfl
  have hended : (m.settled.record (.ended (.cleanup target) o)).ended Activity.isRetrieval
      = m.ended Activity.isRetrieval := by
    rw [Moment.record_ended, Moment.settled_ended]; rfl
  have hscheduled : (m.settled.record (.ended (.cleanup target) o)).scheduled = m.scheduled := by
    rw [Moment.scheduled, Moment.record_begun]
    exact m.settled_scheduled
  have hprovided : (m.settled.record (.ended (.cleanup target) o)).Provided := by
    rw [Moment.Provided, hcursor]
    exact .inl rfl
  have hstranded : ¬ Stranded plan (m.settled.record (.ended (.cleanup target) o)) := by
    rintro ⟨he, hopen, -⟩
    rw [hcursor] at hopen
    have hopen : m.cursor.closed = false := hopen
    simp [he, hopen] at hc
  constructor
  · constructor
    case toGuarded => exact h.toGuarded.finished hc target o
    case limit => rw [hcursor]; exact h.limit
    case counted => rw [hbegun, hended]; exact h.counted
    case intact =>
      intro hsome
      rw [hcursor, hs] at hsome
      simp at hsome
    case paid => exact fun _ => hprovided
    case lost => exact fun hlost => absurd hlost hstranded
    case backed => exact .inr fun _ => .inl hprovided
  · constructor
    case toLasts =>
      refine ⟨fun hclosed => ?_, fun _ => ⟨?_, hscheduled⟩⟩
      · rw [hcursor]; exact hclosed
      · rw [hcursor]; exact hs
    case live =>
      intro he hopen
      rw [hcursor] at hopen
      have hopen : m.cursor.closed = false := hopen
      simp [he, hopen] at hc
    case delivered => rw [hcursor]
    case begun => exact hbegun
    case ended => exact hended
    case spent =>
      intro _ hidle
      omega
    case backed => exact fun _ _ => .inr fun _ => .inl hprovided
    case stranded => exact fun hlost => absurd hlost hstranded

/-! ## Batches -/

/-- The moment after a batch has changed the progress of a cursor. -/
def Moment.advanced (first : QueryResult) (m : Moment) : Moment :=
  m.put { m.cursor with
    progress := (m.cursor.progress.advance m.cursor.limit m.cursor.batchSize first).1 }

theorem Moment.absorbed_cases (first : QueryResult) (m : Moment) :
    m.absorbed first = m.advanced first ∨
      ∃ message, m.absorbed first = (m.advanced first).record (.noticed (.log .info message)) := by
  unfold absorbed advanced
  rcases m.cursor.progress.advance m.cursor.limit m.cursor.batchSize first
    with ⟨p, _ | _ | cursor | _⟩
  · exact .inl rfl
  · exact .inl rfl
  · exact .inr ⟨_, rfl⟩
  · exact .inl rfl

theorem Moment.absorbed_of_kill {first : QueryResult}
    (hv : (m.firstVerdict first).followUp = .kill) : m.absorbed first = m.advanced first := by
  unfold absorbed advanced
  unfold firstVerdict at hv
  generalize m.cursor.progress.advance m.cursor.limit m.cursor.batchSize first = after at hv
  obtain ⟨p, _ | _ | cursor | _⟩ := after
  · rfl
  · rfl
  · simp [Verdict.followUp] at hv
  · rfl

theorem Alike.refl (m : Moment) : Alike plan m m :=
  ⟨rfl, rfl, rfl, rfl, rfl, rfl, rfl, rfl, rfl, .rfl⟩

theorem alike_absorbed (first : QueryResult) :
    Alike plan (m.advanced first) (m.absorbed first) := by
  rcases m.absorbed_cases first with heq | ⟨message, heq⟩
  · rw [heq]; exact .refl _
  · rw [heq]; exact (passing_log ..).alike

theorem Guarded.absorbed {first : QueryResult} (h : Guarded plan (m.advanced first)) :
    Guarded plan (m.absorbed first) := by
  rcases m.absorbed_cases first with heq | ⟨message, heq⟩
  · rw [heq]; exact h
  · rw [heq]; exact h.record (fun _ _ => rfl) (fun _ => rfl) rfl rfl

/-! ## Retrievals -/

/-- What a retrieval counts on between its fetches. -/
structure Calling (plan : Plan) (m : Moment) : Prop where
  retrieving : m.Retrieving
  backed : Backed plan 1 m

/-- What a retrieval counts on while it fetches. -/
structure Pursuing (plan : Plan) (m : Moment) : Prop extends Calling plan m where
  early : plan.stopsEarly = false
  live : m.cursor.closed = false → m.cursor.progress.serverCursor.isSome

/-- What a retrieval counts on before it lets the resources go. -/
structure Leaving (plan : Plan) (m : Moment) : Prop where
  retrieving : m.Retrieving
  early : plan.stopsEarly = false
  gone : m.cursor.progress.serverCursor = none
  idle : m.unfinished ≤ 0
  stranded : ¬ Stranded plan m

/-- What a retrieval counts on while it kills the server cursor. -/
structure Killing (plan : Plan) (m : Moment) : Prop extends Leaving plan m where
  unreleased : m.cursor.closed = false → m.cursor.released = false
  reached : limitReached plan.limit m.cursor.progress.delivered = true

theorem Concedes.retrieving (h : Concedes plan m m') (hm : m.Retrieving) : m'.Retrieving := by
  rw [Moment.Retrieving, h.begun, h.ended]
  exact hm

theorem Concedes.calling (h : Concedes plan m m') (hm : Calling plan m) : Calling plan m' :=
  ⟨h.retrieving hm.retrieving, h.backed 1 hm.backed⟩

theorem Concedes.pursuing (h : Concedes plan m m') (hm : Pursuing plan m) : Pursuing plan m' where
  toCalling := h.calling hm.toCalling
  early := hm.early
  live hopen := by
    rw [(h.live hm.early hopen).1]
    exact hm.live (Moment.open_of_open h.closed hopen)

theorem Concedes.leaving (h : Concedes plan m m') (hm : Leaving plan m) : Leaving plan m' where
  retrieving := h.retrieving hm.retrieving
  early := hm.early
  gone := (h.idle hm.gone).1
  idle := h.spent hm.gone hm.idle
  stranded hstranded := hm.stranded (h.stranded hstranded)

theorem Concedes.killing (h : Concedes plan m m') (hm : Killing plan m) : Killing plan m' where
  toLeaving := h.leaving hm.toLeaving
  unreleased hopen := by
    rw [(h.live hm.early hopen).2]
    exact hm.unreleased (Moment.open_of_open h.closed hopen)
  reached := by
    rw [h.delivered]
    exact hm.reached

theorem Activity.isCleanup_of_isRetrieval {a : Activity} (h : a.isRetrieval = true) :
    a.isCleanup = false := by
  cases a <;> simp_all [isRetrieval, isCleanup]

/-- A retrieval begins or ends: no more than that changes. -/
structure Bounding (plan : Plan) (m : Moment) (i : Incident) : Prop where
  guarded : Guarded plan m → Guarded plan (m.record i)
  unfinished : (m.record i).unfinished = m.unfinished
  scheduled : (m.record i).scheduled = m.scheduled
  stranded : Stranded plan (m.record i) ↔ Stranded plan m

theorem bounding_begun {a : Activity} (ha : a.isRetrieval = true) :
    Bounding plan m (.begun a) where
  guarded h := h.record (fun _ _ => rfl) (fun _ => rfl) (Activity.isCleanup_of_isRetrieval ha) rfl
  unfinished :=
    Moment.record_unfinished (i := .begun a) (Activity.isCleanup_of_isRetrieval ha) rfl m
  scheduled := by
    simp [Moment.scheduled, Moment.record_begun, Incident.begins,
      Activity.isCleanup_of_isRetrieval ha]
  stranded := stranded_record_of_false rfl

theorem bounding_ended {a : Activity} (ha : a.isRetrieval = true) (o : Outcome Yield) :
    Bounding plan m (.ended a o) where
  guarded h := h.record (fun _ _ => rfl) (fun _ => rfl) rfl (Activity.isCleanup_of_isRetrieval ha)
  unfinished :=
    Moment.record_unfinished (i := .ended a o) rfl (Activity.isCleanup_of_isRetrieval ha) m
  scheduled := by simp [Moment.scheduled, Moment.record_begun, Incident.begins]
  stranded := stranded_record_of_false rfl

section
variable {i : Incident}

theorem Bounding.provided (hi : Bounding plan m i) : (m.record i).Provided ↔ m.Provided := by
  rw [Moment.Provided, Moment.Provided, hi.unfinished]
  rfl

theorem Bounding.lasts (hi : Bounding plan m i) : Lasts m (m.record i) :=
  ⟨id, fun hs => ⟨hs, hi.scheduled⟩⟩

/-- As long as the retrievals are counted, the resources are provided for as before. -/
theorem Provident.bounded (h : Provident plan m) (hi : Bounding plan m i)
    (hcounted : (m.record i).ended Activity.isRetrieval ≤ (m.record i).begun Activity.isRetrieval)
    (hbacked : (m.record i).Retrieving ∨
      (m.cursor.progress.serverCursor = none → m.Provided ∨ Stranded plan m)) :
    Provident plan (m.record i) where
  toGuarded := hi.guarded h.toGuarded
  limit := h.limit
  counted := hcounted
  intact hs := hi.unfinished.trans (h.intact hs)
  paid hc := hi.provided.2 (h.paid hc)
  lost hlost := h.lost (hi.stranded.1 hlost)
  backed := hbacked.imp id fun hidle hs => (hidle hs).imp hi.provided.2 hi.stranded.2

end

/-- A retrieval begins. -/
theorem Provident.called (h : Provident plan m) {a : Activity} (ha : a.isRetrieval = true) :
    Provident plan (m.record (.begun a)) ∧ Calling plan (m.record (.begun a)) ∧
      Lasts m (m.record (.begun a)) := by
  have hbegun : (m.record (.begun a)).begun Activity.isRetrieval
      = m.begun Activity.isRetrieval + 1 := by
    simp [Moment.record_begun, Incident.begins, ha]
  have hended : (m.record (.begun a)).ended Activity.isRetrieval
      = m.ended Activity.isRetrieval := by
    simp [Moment.record_ended, Incident.ends]
  have hi : Bounding plan m (.begun a) := bounding_begun ha
  have hcounted := h.counted
  have hretrieving : (m.record (.begun a)).Retrieving := by
    rw [Moment.Retrieving]
    omega
  refine ⟨h.bounded hi (Nat.le_of_lt hretrieving) (.inl hretrieving), ⟨hretrieving, ?_⟩, hi.lasts⟩
  rcases h.backed with hothers | hidle
  · exact .inl (by omega)
  · exact .inr fun hs => (hidle hs).imp hi.provided.2 hi.stranded.2

/-- A retrieval ends. -/
theorem Provident.returned (h : Provident plan m) (hm : Calling plan m) {a : Activity}
    (ha : a.isRetrieval = true) (o : Outcome Yield) :
    Provident plan (m.record (.ended a o)) ∧ Lasts m (m.record (.ended a o)) := by
  have hbegun : (m.record (.ended a o)).begun Activity.isRetrieval
      = m.begun Activity.isRetrieval := by
    simp [Moment.record_begun, Incident.begins]
  have hended : (m.record (.ended a o)).ended Activity.isRetrieval
      = m.ended Activity.isRetrieval + 1 := by
    simp [Moment.record_ended, Incident.ends, ha]
  have hi : Bounding plan m (.ended a o) := bounding_ended ha o
  have hretrieving := hm.retrieving
  rw [Moment.Retrieving] at hretrieving
  refine ⟨h.bounded hi (by omega) (hm.backed.imp_left fun hothers => ?_), hi.lasts⟩
  rw [Moment.Retrieving]
  omega

/-- A batch that has come in time changes the progress of a cursor in any way. -/
theorem Provident.advanced (h : Provident plan m) (hm : Pursuing plan m)
    (hopen : m.cursor.closed = false) (p : Progress) :
    Provident plan (m.put { m.cursor with progress := p }) ∧
      Lasts m (m.put { m.cursor with progress := p }) ∧
      ¬ Stranded plan (m.put { m.cursor with progress := p }) ∧
      (m.put { m.cursor with progress := p }).unfinished = 0 ∧ m.cursor.released = false := by
  have hsome := hm.live hopen
  have hlive := h.live hsome
  have hu : (m.put { m.cursor with progress := p }).unfinished = 0 :=
    (Moment.put_unfinished rfl).trans (h.intact hsome)
  have hstranded : ¬ Stranded plan (m.put { m.cursor with progress := p }) := by
    intro hlost
    have hnone := (h.lost hlost).2.1
    simp [hnone] at hsome
  refine ⟨?_, ⟨fun hc => hc, fun hnone => ?_⟩, hstranded, hu, hlive.2.1⟩
  · constructor
    case toGuarded => exact h.toGuarded.put rfl rfl rfl rfl fun _ => hlive
    case limit => exact h.limit
    case counted => exact h.counted
    case intact => exact fun _ => hu
    case paid =>
      intro hc
      have hc : m.cursor.closed = true := hc
      simp [hopen] at hc
    case lost => exact fun hlost => absurd hlost hstranded
    case backed => exact .inl hm.retrieving
  · simp [hnone] at hsome

/-- What a retrieval counts on after a batch that has come in time. -/
structure Received (plan : Plan) (v : Verdict) (m : Moment) : Prop where
  provident : Provident plan m
  kept : v.followUp = .nothing → Calling plan m
  ended : v.followUp = .release → Leaving plan m
  reached : v.followUp = .kill → ∃ target, m.cursor.progress.serverCursor = some target ∧
    Provident plan (m.put m.cursor.forget) ∧ Killing plan (m.put m.cursor.forget)

theorem Provident.received (h : Provident plan m) (hm : Pursuing plan m)
    (hopen : m.cursor.closed = false) (result : QueryResult) :
    Received plan (m.firstVerdict result) (m.absorbed result) ∧ Lasts m (m.absorbed result) := by
  obtain ⟨hprovident, hlasts, hstranded, hu, hunreleased⟩ := h.advanced hm hopen
    (m.cursor.progress.advance m.cursor.limit m.cursor.batchSize result).1
  have halike : Alike plan (m.advanced result) (m.absorbed result) := alike_absorbed result
  have hfate : Progress.Fate m.cursor.limit m.cursor.batchSize result
    (m.cursor.progress.advance m.cursor.limit m.cursor.batchSize result).1
    (m.firstVerdict result) := Progress.advance_fate _ _ _ _
  have hretrieving : (m.absorbed result).Retrieving := halike.concedes.retrieving hm.retrieving
  have hserver : (m.absorbed result).cursor.progress.serverCursor
      = (m.cursor.progress.advance m.cursor.limit m.cursor.batchSize result).1.serverCursor :=
    halike.serverCursor
  refine ⟨⟨hprovident.alike halike hprovident.toGuarded.absorbed, fun hv => ⟨hretrieving, .inr ?_⟩,
    fun hv => ⟨hretrieving, hm.early, hserver.trans (hfate.gone hv), ?_, fun hlost => ?_⟩,
    fun hv => ?_⟩, hlasts.trans halike.lasts⟩
  · intro hnone
    rw [hserver] at hnone
    generalize m.firstVerdict result = v at hfate hv
    cases hfate with
    | kept _ _ _ hs => simp [hnone] at hs
    | _ => simp [Verdict.followUp] at hv
  · have := halike.unfinished.trans hu
    omega
  · exact hstranded (halike.stranded.1 hlost)
  · obtain ⟨hforgotten, -, hstranded', hu', -⟩ := h.advanced hm hopen
      (m.cursor.progress.advance m.cursor.limit m.cursor.batchSize result).1.withoutServerCursor
    rw [Moment.absorbed_of_kill hv] at hserver ⊢
    generalize m.firstVerdict result = v at hfate hv
    cases hfate with
    | @limitReached target _ hl hs =>
      refine ⟨target, hserver.trans hs, hforgotten, ⟨hm.retrieving, hm.early, rfl, ?_, hstranded'⟩,
        fun _ => hunreleased, ?_⟩
      · exact Int.le_of_eq hu'
      · rw [← h.limit]
        exact hl
    | _ => simp [Verdict.followUp] at hv

/-- The resources go at the end of a fetch. -/
theorem Provident.left (h : Provident plan m) (hm : Leaving plan m) :
    Provident plan m.settled ∧ Calling plan m.settled ∧ Lasts m m.settled := by
  have hsettled := h.settled m.cursor.closed id hm.gone
    (fun hpos => by have := hm.idle; omega) fun _ => hm.stranded
  refine ⟨hsettled, ⟨?_, .inr fun _ => .inl m.settled_provided⟩, lasts_settled hm.gone⟩
  rw [Moment.Retrieving, Moment.settled_begun, Moment.settled_ended]
  exact hm.retrieving

section
variable (connection : Connection) (ns : Namespace) (ids : List Int)

/-- A kill that was cancelled leaves an open cursor stranded. -/
theorem Provident.killCancelled (h : Provident plan m) (hm : Killing plan m) :
    Provident plan (m.answer (.killCursors connection ns ids) (.error .cancelled)) ∧
      Calling plan (m.answer (.killCursors connection ns ids) (.error .cancelled)) := by
  rcases hclosed : m.cursor.closed with _ | _
  · have hguarded : Guarded plan (m.answer (.killCursors connection ns ids) (.error .cancelled)) :=
      h.toGuarded.record (fun _ _ => rfl) (fun _ => rfl) rfl rfl
    have hstranded :
        Stranded plan (m.answer (.killCursors connection ns ids) (.error .cancelled)) :=
      ⟨hm.early, hclosed, rfl⟩
    refine ⟨?_, hm.retrieving, .inr fun _ => .inr hstranded⟩
    constructor
    case toGuarded => exact hguarded
    case limit => exact h.limit
    case counted => exact h.counted
    case intact =>
      intro hsome
      have hsome : m.cursor.progress.serverCursor.isSome := hsome
      simp [hm.gone] at hsome
    case paid =>
      intro hc
      have hc : m.cursor.closed = true := hc
      simp [hclosed] at hc
    case lost => exact fun _ => ⟨hm.unreleased hclosed, hm.gone, hm.reached⟩
    case backed => exact .inl hm.retrieving
  · have hpassing : Passing plan m
        (.answered (.killCursors connection ns ids) (.error .cancelled) (!m.cursor.closed)) :=
      passing_answered fun _ => .inr hclosed
    exact ⟨h.record hpassing, hpassing.alike.concedes.retrieving hm.retrieving,
      .inr fun _ => .inl (hpassing.alike.provided.2 (h.paid hclosed))⟩

/-- A kill that was not cancelled leaves the resources to be released. -/
theorem Provident.killAnswered (h : Provident plan m) (hm : Killing plan m) {x : Outcome Unit}
    (hx : x ≠ .error .cancelled) :
    Provident plan (m.answer (.killCursors connection ns ids) x) ∧
      Leaving plan (m.answer (.killCursors connection ns ids) x) := by
  have hpassing : Passing plan m
      (.answered (.killCursors connection ns ids) x (!m.cursor.closed)) :=
    passing_answered fun hk => by simp [Incident.cancelsKill_answered hx] at hk
  exact ⟨h.record hpassing, hpassing.alike.concedes.leaving hm.toLeaving⟩

end

/-! ## Giving up -/

theorem Closes.calling (hc : Closes m m') (hm : Calling plan m) : Calling plan m' :=
  Concedes.calling hc.concedes hm

/-- A cursor whose server cursor is missing forgets it, and is closed. -/
theorem Provident.missed (h : Provident plan m) : Provident plan
      ((m.put m.cursor.forget).shutBy true) ∧
    (Calling plan m → Calling plan ((m.put m.cursor.forget).shutBy true)) ∧
    Lasts m ((m.put m.cursor.forget).shutBy true) := by
  rcases hclosed : m.cursor.closed with _ | _
  · have heq : (m.put m.cursor.forget).shutBy true
        = (m.put { m.cursor.forget with closed := true }).settled := by
      have hopen : m.cursor.forget.closed ≠ true := by simp [forget, hclosed]
      rw [Moment.shutBy, Moment.put_cursor, if_neg hopen]
      rfl
    have hguarded : Guarded plan (m.put { m.cursor.forget with closed := true }).settled := by
      refine h.toGuarded.forgotten.settled true (fun _ => rfl) rfl fun hpos => ?_
      rcases he : plan.stopsEarly with _ | _
      · have hidle := (h.toGuarded.forgotten.going he hclosed).2
        omega
      · rfl
    have hcloses : Closes m (m.put { m.cursor.forget with closed := true }).settled :=
      closes_settled (c := { m.cursor.forget with closed := true }) rfl rfl rfl rfl rfl (.inl rfl)
    rw [heq]
    exact ⟨hcloses.provident h hguarded, hcloses.calling, hcloses.lasts⟩
  · have heq : (m.put m.cursor.forget).shutBy true = m := by
      have hshut : m.cursor.forget.closed = true := hclosed
      rw [Moment.shutBy, Moment.put_cursor, if_pos hshut, forget_of_none (h.shut hclosed)]
      rfl
    rw [heq]
    exact ⟨h, id, .refl m⟩

/-- A cursor is given up after a fetch that has failed. -/
theorem Provident.abandoned (h : Provident plan m) (hm : Calling plan m) (e : Failure) :
    Provident plan (m.abandoned e) ∧ Calling plan (m.abandoned e) ∧ Lasts m (m.abandoned e) := by
  have hshut := h.shutBy true
  cases e with
  | cursorMissing id address => exact ⟨h.missed.1, h.missed.2.1 hm, h.missed.2.2⟩
  | cancelled => exact ⟨h, hm, .refl m⟩
  | _ => exact ⟨hshut.1, hshut.2.calling hm, hshut.2.toLasts⟩

/-! ## Making -/

/-- An open cursor that is not stranded, and at rest. -/
theorem Provident.of_open (hg : Guarded plan m) (hlimit : m.cursor.limit = plan.limit)
    (hcounted : m.ended Activity.isRetrieval ≤ m.begun Activity.isRetrieval)
    (hopen : m.cursor.closed = false) (hstranded : ¬ Stranded plan m)
    (hintact : m.cursor.progress.serverCursor.isSome → m.unfinished = 0)
    (hprovided : m.cursor.progress.serverCursor = none → m.Provided) : Provident plan m where
  toGuarded := hg
  limit := hlimit
  counted := hcounted
  intact := hintact
  paid hc := by simp [hopen] at hc
  lost hlost := absurd hlost hstranded
  backed := .inr fun hs => .inl (hprovided hs)

theorem Provident.of_open_settled (hg : Guarded plan m.settled)
    (hlimit : m.cursor.limit = plan.limit)
    (hcounted : m.ended Activity.isRetrieval ≤ m.begun Activity.isRetrieval)
    (hopen : m.cursor.closed = false) (hstranded : ¬ Stranded plan m)
    (hs : m.cursor.progress.serverCursor = none) : Provident plan m.settled := by
  have hcursor := m.settled_cursor
  refine .of_open hg ?_ ?_ ?_ (fun hlost => hstranded (stranded_settled.1 hlost)) (fun hsome => ?_)
    fun _ => m.settled_provided
  · rw [hcursor]; exact hlimit
  · rw [Moment.settled_begun, Moment.settled_ended]; exact hcounted
  · rw [hcursor]; exact hopen
  · rw [hcursor, hs] at hsome
    simp at hsome

/-- A cursor that is being made, after its first batch. -/
structure Begins (plan : Plan) (m : Moment) : Prop where
  limit : m.cursor.limit = plan.limit
  counted : m.ended Activity.isRetrieval ≤ m.begun Activity.isRetrieval
  open_ : m.cursor.closed = false
  stranded : ¬ Stranded plan m
  unfinished : m.unfinished = 0

/-- A server cursor that the first batch has made needless is killed, if it can be. -/
theorem Fresh.provident_dismissed (h : Fresh plan m) (hbegins : Begins plan (m.advanced plan.first))
    (hv : (m.firstAdvance plan).2.followUp = .kill) (loopRuns : Bool) :
    Provident plan ((m.advanced plan.first).dismissed loopRuns) := by
  obtain ⟨target, hs, hstopped⟩ := h.stopped hv
  have hserver : (m.advanced plan.first).cursor.progress.serverCursor = some target := hs
  rcases loopRuns with _ | _
  · have heq : (m.advanced plan.first).dismissed false = (((m.advanced plan.first).put
        (m.advanced plan.first).cursor.forget).record (.noticed (killSkipped target))).settled := by
      simp [Moment.dismissed, hserver]
    have hforgotten : Guarded plan ((m.advanced plan.first).put
        (m.advanced plan.first).cursor.forget) :=
      h.toGuarded.put rfl rfl rfl rfl fun hs => by
        simp [forget, Progress.withoutServerCursor] at hs
    have hskipped : Guarded plan (((m.advanced plan.first).put
        (m.advanced plan.first).cursor.forget).record (.noticed (killSkipped target))) :=
      hforgotten.record (fun _ _ => rfl) (fun _ => rfl) rfl rfl
    rw [heq]
    refine .of_open_settled (hskipped.settled _ id rfl fun hpos => ?_) hbegins.limit
      hbegins.counted hbegins.open_ (fun hlost => hbegins.stranded ?_) rfl
    · have hu : (((m.advanced plan.first).put (m.advanced plan.first).cursor.forget).record
          (.noticed (killSkipped target))).unfinished = 0 := hbegins.unfinished
      omega
    · exact (stranded_record_of_false (i := .noticed (killSkipped target)) rfl).1 hlost
  · have heq : (m.advanced plan.first).dismissed true = m.put { m.cursor with
        progress := (m.firstAdvance plan).1.withoutServerCursor,
        cleanups := m.cursor.cleanups ++ [target] } := by
      simp [Moment.dismissed, hserver]
      rfl
    rw [heq]
    refine .of_open hstopped hbegins.limit hbegins.counted hbegins.open_ hbegins.stranded
      (fun hsome => by simp [Progress.withoutServerCursor] at hsome) fun _ => .inr ?_
    have hu := m.scheduled_unfinished (c := { m.cursor with
      progress := (m.firstAdvance plan).1.withoutServerCursor,
      cleanups := m.cursor.cleanups ++ [target] }) rfl
    have hidle : m.unfinished = 0 := hbegins.unfinished
    omega

/-- A cursor that has done nothing yet, and is being made. -/
theorem Fresh.provident_started (h : Fresh plan m) (hu : m.unfinished = 0)
    (hcounted : m.ended Activity.isRetrieval ≤ m.begun Activity.isRetrieval)
    (hstranded : ¬ Stranded plan m) (loopRuns : Bool) :
    Provident plan (m.started plan.first loopRuns) := by
  have halike : Alike plan (m.advanced plan.first) (m.absorbed plan.first) := alike_absorbed _
  have hbegins : Begins plan (m.advanced plan.first) := ⟨h.limit, hcounted, h.open_, hstranded, hu⟩
  have hbegins' : Begins plan (m.absorbed plan.first) := by
    refine ⟨halike.limit.trans hbegins.limit, ?_, halike.closed.trans hbegins.open_,
      fun hlost => hbegins.stranded (halike.stranded.1 hlost), halike.unfinished.trans hu⟩
    rw [halike.begun, halike.ended]
    exact hcounted
  have hfate : Progress.Fate m.cursor.limit m.cursor.batchSize plan.first
    (m.firstAdvance plan).1 (m.firstAdvance plan).2 := Progress.advance_fate _ _ _ _
  unfold Moment.started
  split
  · rename_i hv
    have hv : (m.firstAdvance plan).2.followUp = .nothing := hv
    have hguarded : Guarded plan (m.advanced plan.first) := h.absorbed (by simp [hv])
    refine .of_open hguarded.absorbed hbegins'.limit hbegins'.counted hbegins'.open_
      hbegins'.stranded (fun _ => hbegins'.unfinished) fun hnone => ?_
    have hgone : (m.firstAdvance plan).1.serverCursor = none := halike.serverCursor ▸ hnone
    generalize m.firstAdvance plan = after at hfate hgone hv
    obtain ⟨p, v⟩ := after
    cases hfate with
    | kept _ _ _ hs =>
      rw [hgone] at hs
      simp at hs
    | _ => simp [Verdict.followUp] at hv
  · rename_i hv
    have hv : (m.firstAdvance plan).2.followUp = .release := hv
    have hguarded : Guarded plan (m.advanced plan.first) := h.absorbed (by simp [hv])
    have hgone : (m.absorbed plan.first).cursor.progress.serverCursor = none :=
      halike.serverCursor.trans (hfate.gone hv)
    have hidle := hbegins'.unfinished
    exact .of_open_settled (hguarded.absorbed.settled _ id hgone fun hpos => by omega)
      hbegins'.limit hbegins'.counted hbegins'.open_ hbegins'.stranded hgone
  · rename_i hv
    rw [Moment.absorbed_of_kill hv]
    exact h.provident_dismissed hbegins hv loopRuns

end DocumentClient.Cursor
