/-
  Where it does not matter whether the loop runs.

  Only a kill that is to be scheduled asks whether an event loop runs.  An activity is
  `Heedless` at a moment where it does what it does on a running loop: any activity of a
  blocking cursor, and any operation of a cursor that holds no server cursor.  A life that is
  `looped` is the same one with its activities named as if the loop ran.

  `TakesTurns.looped`: where all calls are heedless, a life is one on a running loop, but for
  these names.
-/
import DocumentClient.Proofs.Cursor.Alone

namespace DocumentClient.Cursor

open Program (Ensures Environment)

variable {mode : Mode} {plan : Plan} {c : Cursor} {m : Moment} {a : Activity} {l l' l₀ : Life}
  {loopRuns : Bool}

/-! ## Names -/

namespace Activity

/-- An activity, on a running loop. -/
def looped : Activity → Activity
  | opening first _ => opening first true
  | close _ => close true
  | a => a

@[simp] theorem looped_isCleanup (a : Activity) : a.looped.isCleanup = a.isCleanup := by
  cases a <;> rfl

@[simp] theorem looped_isOperation (a : Activity) : a.looped.isOperation = a.isOperation := by
  cases a <;> rfl

theorem looped_onLoop (a : Activity) : a.looped.onLoop := by
  cases a <;> trivial

end Activity

namespace Incident

/-- An incident in a life on a running loop. -/
def looped : Incident → Incident
  | begun a => begun a.looped
  | ended a outcome => ended a.looped outcome
  | i => i

end Incident

namespace Moment

/-- A moment in a life on a running loop. -/
def looped (m : Moment) : Moment := { m with history := m.history.map Incident.looped }

/-- What does not depend on names is counted as often. -/
theorem looped_countP {p : Incident → Bool} (hp : ∀ i : Incident, p i.looped = p i) (m : Moment) :
    m.looped.history.countP p = m.history.countP p := by
  rw [looped, List.countP_map]
  exact List.countP_congr fun i _ => by simp [hp]

theorem looped_attempts (m : Moment) : m.looped.attempts = m.attempts :=
  m.looped_countP fun i => by cases i <;> rfl

theorem looped_killRequests (m : Moment) : m.looped.killRequests = m.killRequests :=
  m.looped_countP fun i => by cases i <;> rfl

theorem looped_sourceReleases (m : Moment) (s : Source) :
    m.looped.sourceReleases s = m.sourceReleases s :=
  m.looped_countP fun i => by cases i <;> rfl

theorem looped_releases (m : Moment) (id : Nat) : m.looped.releases id = m.releases id :=
  m.looped_countP fun i => by cases i <;> rfl

theorem looped_leases (m : Moment) (id : Nat) : m.looped.leases id = m.leases id :=
  m.looped_countP fun i => by cases i <;> rfl

end Moment

/-- A thread in a life on a running loop. -/
def Thread.looped (t : Thread) : Thread := { t with activity := t.activity.looped }

namespace Life

/-- A life, as one on a running loop. -/
def looped (l : Life) : Life := ⟨l.moment.looped, l.threads.map Thread.looped⟩

theorem proceed_looped (a : Activity) (ts : List Thread) (p : Program Cursor Yield) :
    ∀ m : Moment, proceed a.looped (ts.map Thread.looped) p m.looped
      = (proceed a ts p m).looped := by
  induction p with
  | done outcome => exact fun m => rfl
  | read next ih => exact fun m => ih _ m
  | write c next ih => exact fun m => ih (m.put c)
  | note n next ih => exact fun m => ih (m.record (.noticed n))
  | ask q next ih => exact fun m => rfl

theorem looped_beside (m : Moment) (before after : List Thread) (t : Thread) :
    looped ⟨m, before ++ t :: after⟩ = ⟨m.looped, before.map Thread.looped ++ t.looped
      :: after.map Thread.looped⟩ := by
  simp [looped]

theorem looped_atRest : l.looped.AtRest ↔ l.AtRest := by
  simp [AtRest, looped, Thread.looped]

end Life

/-! ## Heedless activities -/

/-- An activity does what it does on a running loop. -/
def Heedless (a : Activity) (m : Moment) : Prop :=
  ∀ b ts, Life.proceed b ts a.looped.program m = Life.proceed b ts a.program m

theorem Life.begin_looped (h : Heedless a (l.moment.record (.begun a))) :
    l.looped.begin a.looped = (l.begin a).looped := by
  refine (proceed_looped a l.threads a.looped.program (l.moment.record (.begun a))).trans ?_
  rw [h, begin]

/-- What goes on alike after a silent program goes on alike. -/
theorem proceed_bind_congr {α β : Type} {f g : α → Program Cursor β}
    {k : β → Program Cursor Yield} {Q : Outcome α → Moment → Prop} {p : Program Cursor α}
    (b : Activity) (ts : List Thread)
    (h : ∀ x m', Q (.ok x) m' →
      Life.proceed b ts (f x >>= k) m' = Life.proceed b ts (g x >>= k) m') :
    ∀ {m : Moment}, Silent Q p m →
      Life.proceed b ts (p >>= f >>= k) m = Life.proceed b ts (p >>= g >>= k) m := by
  induction p with
  | done outcome =>
    rcases outcome with e | x
    · exact fun _ => rfl
    · exact fun hQ => h x _ hQ
  | read next ih => exact fun hp => ih _ hp
  | write c next ih => exact fun hp => ih hp
  | note n next ih => exact fun hp => ih hp
  | ask q next ih => exact fun hp => hp.1.elim

theorem heedless_close_of_silent {m₁ : Moment}
    (h : ∀ loopRuns, Silent (fun o m' => o = .ok () ∧ m' = m₁) (close loopRuns) m) :
    Heedless (.close loopRuns) m := by
  intro b ts
  obtain ⟨_, _, ⟨rfl, rfl⟩, htrue⟩ := proceed_of_silent b ts (silent_yield (h true))
  obtain ⟨_, _, ⟨rfl, rfl⟩, hruns⟩ := proceed_of_silent b ts (silent_yield (h loopRuns))
  exact htrue.trans hruns.symm

/-- A cursor without a server cursor has nothing to schedule. -/
theorem heedless_of_none (hs : m.cursor.progress.serverCursor = none) (ha : a.isOperation) :
    Heedless a m := by
  cases a, ha using Activity.operation_cases with
  | close loopRuns =>
    rcases hc : m.cursor.closed with _ | _
    · exact heedless_close_of_silent (silent_close_of_none hc hs)
    · exact heedless_close_of_silent fun _ => silent_close_of_closed hc
  | _ => exact fun _ _ => rfl

/-- A blocking cursor schedules nothing. -/
theorem heedless_of_blocking (hmode : m.cursor.mode = .blocking) : Heedless a m := by
  cases a with
  | opening first loopRuns =>
    intro b ts
    refine proceed_bind_congr b ts ?_ (silent_absorb first)
    rintro v _ ⟨-, rfl⟩
    obtain ⟨⟨mode⟩, history⟩ := m
    obtain rfl : mode = .blocking := hmode
    cases v <;> rfl
  | close loopRuns =>
    intro b ts
    obtain ⟨⟨mode⟩, history⟩ := m
    obtain rfl : mode = .blocking := hmode
    rfl
  | _ => exact fun _ _ => rfl

/-- The first batch of a cursor calls for a kill if it stops the cursor early. -/
theorem followUp_of_ofPlan (hc : ofPlan mode plan = .ok c) (history : List Incident) :
    ((⟨c, history⟩ : Moment).firstVerdict plan.first).followUp = .kill ↔ plan.stopsEarly := by
  obtain ⟨settings, rfl⟩ := exists_of_ofPlan hc
  simp only [Moment.firstVerdict, Progress.advance, Plan.stopsEarly, Int.zero_add]
  rcases plan.first.cursor with _ | target
  · simp [Verdict.followUp]
  · rcases hl : DocumentClient.limitReached plan.limit plan.first.results.length with _ | _
    · rcases isFinalBatch plan.limit plan.batchSize with _ | _ <;> simp [Verdict.followUp]
    · simp [Verdict.followUp]

/-- What the first batch does not stop early is made in the same way off the loop. -/
theorem heedless_opening (hc : ofPlan mode plan = .ok c) (history : List Incident)
    (h : plan.stopsEarly = false) : Heedless (.opening plan.first loopRuns) ⟨c, history⟩ := by
  have hverdict : ((⟨c, history⟩ : Moment).firstVerdict plan.first).followUp ≠ .kill := by
    intro hkill
    simp [(followUp_of_ofPlan hc history).1 hkill] at h
  intro b ts
  refine proceed_bind_congr b ts ?_ (silent_absorb plan.first)
  rintro v _ ⟨hv, rfl⟩
  obtain rfl := Except.ok.inj hv
  generalize (⟨c, history⟩ : Moment).firstVerdict plan.first = v at hverdict
  cases v with
  | limitReached => exact absurd rfl hverdict
  | _ => rfl

/-! ## Lives -/

namespace Life

theorem Turn.looped (h : l.Turn l') (hcall : ∀ a, a.isOperation → l' = l.begin a →
    Heedless a (l.moment.record (.begun a))) : l.looped.Turn l'.looped := by
  cases h with
  | @call _ a hrest ha =>
    rw [← begin_looped (hcall a ha rfl)]
    exact .call (looped_atRest.2 hrest) (a.looped_isOperation.trans ha)
  | @run _ before after target h =>
    have hrun : Turn l.looped ((l.looped.unscheduled (before ++ after)).begin (.cleanup target)) :=
      .run h
    have heedless : Heedless (.cleanup target)
      ((l.unscheduled (before ++ after)).moment.record (.begun (.cleanup target))) := fun _ _ => rfl
    rwa [← begin_looped heedless]
  | @resume m before after a q next x =>
    rw [looped_beside, ← proceed_looped, List.map_append]
    exact .resume x

/-- **Where all calls are heedless, a life is one on a running loop.** -/
theorem TakesTurns.looped (hl : l₀.TakesTurns l) (hcall : ∀ b, l₀.TakesTurns b → ∀ a,
    a.isOperation → (b.begin a).TakesTurns l → Heedless a (b.moment.record (.begun a))) :
    l₀.looped.TakesTurns l.looped := by
  induction hl with
  | refl => exact .refl
  | @tail b l' hb hturn ih =>
    refine .tail (ih fun b' hb' a ha hrest => hcall b' hb' a ha (.tail hrest hturn)) ?_
    exact hturn.looped fun a ha heq => hcall b hb a ha (heq ▸ .refl)

end Life

end DocumentClient.Cursor
