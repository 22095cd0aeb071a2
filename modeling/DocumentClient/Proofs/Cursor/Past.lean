/-
  What was before the life of a cursor.

  A life only adds to its history.  So a past that is put before it changes neither what the
  cursor does nor what can be done with it (`reaches_after_iff`), and a cursor may be taken
  over by others with all that has happened until then.

  `released_of_finished`: a cursor without a limit that was left exhausted or closed has
  released all, once the kills that were scheduled until then were awaited.
-/
import DocumentClient.Proofs.Cursor.Balance

namespace DocumentClient.Cursor

/-! ## Moments and lives after a past -/

/-- No scheduled kill begins or ends in a past. -/
structure Calm (past : List Incident) : Prop where
  begins : past.countP (Incident.begins Activity.isCleanup) = 0
  ends : past.countP (Incident.ends Activity.isCleanup) = 0

namespace Moment

/-- A moment after a past. -/
def after (past : List Incident) (m : Moment) : Moment := { m with history := m.history ++ past }

variable (past : List Incident) (m : Moment)

@[simp] theorem after_cursor : (m.after past).cursor = m.cursor := rfl

@[simp] theorem after_history : (m.after past).history = m.history ++ past := rfl

theorem after_countP (p : Incident → Bool) :
    (m.after past).history.countP p = m.history.countP p + past.countP p := by
  rw [after_history, List.countP_append]

theorem after_scheduled (hpast : Calm past) : (m.after past).scheduled = m.scheduled := by
  rw [scheduled, scheduled, begun, begun, after_countP, hpast.begins, Nat.add_zero, after_cursor]

theorem after_ended (hpast : Calm past) :
    (m.after past).ended Activity.isCleanup = m.ended Activity.isCleanup := by
  rw [ended, ended, after_countP, hpast.ends, Nat.add_zero]

theorem after_absorbed (first : QueryResult) :
    (m.after past).absorbed first = (m.absorbed first).after past := by
  simp [absorbed, after]

theorem after_settled : (m.after past).settled = m.settled.after past := by
  rcases hr : m.cursor.released with _ | _ <;> simp [settled, after, hr]

end Moment

namespace Life

/-- A life after a past. -/
def after (past : List Incident) (l : Life) : Life := { l with moment := l.moment.after past }

variable {past : List Incident} {r : Regime} {l l' : Life}

theorem proceed_after (a : Activity) (ts : List Thread) (program : Program Cursor Yield) :
    ∀ m : Moment, proceed a ts program (m.after past) = (proceed a ts program m).after past := by
  induction program with
  | done outcome => exact fun m => rfl
  | read next ih => exact fun m => ih _ m
  | write c next ih => exact fun m => ih (m.put c)
  | note n next ih => exact fun m => ih (m.record (.noticed n))
  | ask q next ih => exact fun m => rfl

theorem begin_after (a : Activity) (l : Life) :
    (l.after past).begin a = (l.begin a).after past :=
  proceed_after a l.threads a.program (l.moment.record (.begun a))

/-- A step after a past is a step. -/
theorem step_after (h : Step r l l') (past : List Incident) :
    Step r (l.after past) (l'.after past) := by
  cases h with
  | @call _ a h =>
    rw [← begin_after]
    exact .call ⟨h.offered, h.operation, h.made, h.single⟩
  | @run _ before after target h =>
    have hrun : Step r (l.after past)
        (((l.after past).unscheduled (before ++ after)).begin (.cleanup target)) := .run h
    have heq : (l.after past).unscheduled (before ++ after)
        = (l.unscheduled (before ++ after)).after past := rfl
    rwa [heq, begin_after] at hrun
  | @resume m before after a q next x order h =>
    rw [← proceed_after]
    exact .resume (m := m.after past) order h

/-- There are no other steps after a past. -/
theorem exists_of_step_after (h : Step r (l.after past) l') :
    ∃ l₁, Step r l l₁ ∧ l' = l₁.after past := by
  obtain ⟨m, ts⟩ := l
  generalize hafter : Life.after past ⟨m, ts⟩ = la at h
  cases h with
  | @call _ a h =>
    subst hafter
    exact ⟨_, .call (a := a) ⟨h.offered, h.operation, h.made, h.single⟩, begin_after _ _⟩
  | @run _ before after target h =>
    subst hafter
    exact ⟨_, .run (l := ⟨m, ts⟩) h,
      begin_after (.cleanup target) (unscheduled (before ++ after) ⟨m, ts⟩)⟩
  | @resume m' before after a q next x order h =>
    obtain ⟨rfl, rfl⟩ := Life.mk.inj hafter
    exact ⟨_, .resume order h, proceed_after a _ (next x) (m.answer q x)⟩

/-- **A past does not matter for what can come of a life.** -/
theorem reaches_after_iff :
    Reaches r (l.after past) l' ↔ ∃ l₁, Reaches r l l₁ ∧ l' = l₁.after past := by
  constructor
  · intro h
    induction h with
    | refl => exact ⟨l, .refl, rfl⟩
    | tail _ hstep ih =>
      obtain ⟨l₁, hreaches, rfl⟩ := ih
      obtain ⟨l₂, hstep', rfl⟩ := exists_of_step_after hstep
      exact ⟨l₂, hreaches.tail hstep', rfl⟩
  · rintro ⟨l₁, h, rfl⟩
    induction h with
    | refl => exact .refl
    | tail _ hstep ih => exact ih.tail (step_after hstep past)

/-- Neither does it for the kills that are awaited, if there was none in it. -/
theorem awaited_after_iff (hpast : Calm past) :
    Awaited r (l.after past) l' ↔ ∃ l₁, Awaited r l l₁ ∧ l' = l₁.after past := by
  have hawaited : ∀ l₁ : Life, (l.after past).moment.scheduled
        ≤ (l₁.after past).moment.ended Activity.isCleanup
      ↔ l.moment.scheduled ≤ l₁.moment.ended Activity.isCleanup := fun l₁ => by
    change (l.moment.after past).scheduled ≤ (l₁.moment.after past).ended _ ↔ _
    rw [Moment.after_scheduled past _ hpast, Moment.after_ended past _ hpast]
  constructor
  · rintro ⟨hreaches, h⟩
    obtain ⟨l₁, hreaches₁, rfl⟩ := reaches_after_iff.1 hreaches
    exact ⟨l₁, ⟨hreaches₁, (hawaited l₁).1 h⟩, rfl⟩
  · rintro ⟨l₁, ⟨hreaches, h⟩, rfl⟩
    exact ⟨reaches_after_iff.2 ⟨l₁, hreaches, rfl⟩, (hawaited l₁).2 h⟩

/-! ## Cursors that were left -/

/-- What comes of a life in which the calls have left the cursor exhausted or closed.  Calls of an
    asynchronous cursor may overlap, be cancelled, and leave kills behind, which are awaited. -/
def Finished : Mode → (start l : Life) → Prop
  | .blocking, start, l => Reaches (regime .blocking) start l ∧ l.threads = [] ∧
      (l.moment.cursor.isExhausted ∨ l.moment.cursor.closed)
  | .async, start, l => ∃ left, Reaches anyOrder start left ∧
      (left.moment.cursor.isExhausted ∨ left.moment.cursor.closed) ∧
      Awaited anyOrder left l ∧ ¬ l.Retrieves

theorem finished_after_iff {mode : Mode} (hpast : Calm past) :
    Finished mode (l.after past) l' ↔ ∃ l₁, Finished mode l l₁ ∧ l' = l₁.after past := by
  cases mode with
  | blocking =>
    constructor
    · rintro ⟨hreaches, h⟩
      obtain ⟨l₁, hreaches₁, rfl⟩ := reaches_after_iff.1 hreaches
      exact ⟨l₁, ⟨hreaches₁, h⟩, rfl⟩
    · rintro ⟨l₁, ⟨hreaches, h⟩, rfl⟩
      exact ⟨reaches_after_iff.2 ⟨l₁, hreaches, rfl⟩, h⟩
  | async =>
    constructor
    · rintro ⟨left, hreaches, hleft, hawaited, h⟩
      obtain ⟨left₁, hreaches₁, rfl⟩ := reaches_after_iff.1 hreaches
      obtain ⟨l₁, hawaited₁, rfl⟩ := (awaited_after_iff hpast).1 hawaited
      exact ⟨l₁, ⟨left₁, hreaches₁, hleft, hawaited₁, h⟩, rfl⟩
    · rintro ⟨l₁, ⟨left, hreaches, hleft, hawaited, h⟩, rfl⟩
      exact ⟨left.after past, reaches_after_iff.2 ⟨left, hreaches, rfl⟩, hleft,
        (awaited_after_iff hpast).2 ⟨l₁, hawaited, rfl⟩, h⟩

end Life

/-! ## Cursors without a limit -/

section
variable {mode : Mode} {plan : Plan} {c : Cursor} {l : Life}

/-- Without a limit, only a cursor without a server cursor is exhausted. -/
theorem serverCursor_of_isExhausted (hlimit : c.limit = 0) (h : c.isExhausted) :
    c.progress.serverCursor = none := by
  simpa [isExhausted, hlimit, DocumentClient.limitReached] using h

/-- **A cursor without a limit that was left exhausted or closed has released all.** -/
theorem released_of_finished (hc : ofPlan mode plan = .ok c) (hlimit : plan.limit = 0)
    (hl : Life.Finished mode (Life.opening c plan.first true) l) : Released plan l.moment := by
  cases mode with
  | blocking =>
    obtain ⟨hreaches, hrest, hfinished⟩ := hl
    have heven := Custody.even_of_reaches hc hreaches hrest
    have hcursor : l.moment.cursor.limit = 0 := by
      obtain ⟨settings, rfl⟩ := exists_of_ofPlan hc
      exact (congrArg Setup.limit heven.setup).trans hlimit
    refine released_of_reaches hc hreaches hrest ?_
    rcases hfinished with hexhausted | hclosed
    · exact heven.atRest.spent (serverCursor_of_isExhausted hcursor hexhausted)
    · exact heven.atRest.shut hclosed
  | async =>
    obtain ⟨left, hleft, hfinished, ⟨hreaches, hended⟩, hr⟩ := hl
    have hall := hleft.trans hreaches
    have hprovident := provident_of_reaches hc hleft
    have hs : left.moment.cursor.progress.serverCursor = none := by
      rcases hfinished with hexhausted | hclosed
      · exact serverCursor_of_isExhausted (hprovident.limit.trans hlimit) hexhausted
      · exact hprovident.shut hclosed
    obtain ⟨hs', hscheduled⟩ := (lasts_of_reaches hc hleft hreaches).idle hs
    have hu : ¬ l.Unfinished := by
      refine Life.not_unfinished (Life.counted_of_reaches hall) ?_
      rw [Moment.unfinished_eq, hscheduled]
      omega
    have hstranded : ¬ Stranded plan l.moment := fun h => by
      simpa [hlimit, DocumentClient.limitReached] using ((provident_of_reaches hc hall).lost h).2.2
    exact released_of_provident hc hall (threads_eq_nil hc hall hr hu)
      ((released_iff_not_stranded hc hall hr hu hs').2 hstranded)

end

end DocumentClient.Cursor
