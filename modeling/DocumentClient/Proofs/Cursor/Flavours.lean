/-
  The two flavours of cursor.

  A cursor is used without overlap if an operation is called only when none is under way;
  scheduled kills may begin and go on at any time.  `Supply.rehearse` plays the operations
  one after the other.  Whatever the flavour and the order of the kills, a life that is used
  so follows the rehearsal (`follows_of_leads`): scheduled kills leave it as it is, up to what
  does not show, and the operation that waits ends in a twin of where it ends there.

  `agree_of_rests`: the two flavours of a cursor agree after the same calls.
-/
import DocumentClient.Proofs.Cursor.Interleaved
import DocumentClient.Proofs.Cursor.Twins

namespace DocumentClient.Cursor

open Program (Ensures Environment)

variable {s : Supply} {l l' : Life} {m m₀ : Moment} {a : Activity}

/-! ## Use -/

/-- Whether no operation is under way: at most scheduled kills wait. -/
def Life.AtRest (l : Life) : Prop := ∀ t ∈ l.threads, t.activity.isCleanup

/-- One step of the use of a cursor without overlap: an operation that both flavours have is
    called, a scheduled kill begins, or an answer comes. -/
inductive Supply.Uses (s : Supply) : Life → Life → Prop where
  | call {l : Life} {a : Activity} (hrest : l.AtRest) (ha : a.isShared) : s.Uses l (l.begin a)
  | run {l : Life} {before after : List ServerCursor} {target : ServerCursor}
      (h : l.moment.cursor.cleanups = before ++ target :: after) :
      s.Uses l ((l.unscheduled (before ++ after)).begin (.cleanup target))
  | resume {m : Moment} {before after : List Thread} {a : Activity} {q : Exchange}
      {next : Outcome q.Answer → Program Cursor Yield} {x : Outcome q.Answer}
      (hx : s.Admits m q x) :
      s.Uses ⟨m, before ++ ⟨a, .ask q next⟩ :: after⟩
        (Life.proceed a (before ++ after) (next x) (m.answer q x))

/-- Which lives can come of another by such a use. -/
def Supply.Leads (s : Supply) : Life → Life → Prop := Relation.ReflTransGen s.Uses

/-- The activity that has begun, if it is no scheduled kill. -/
def Incident.called : Incident → Option Activity
  | .begun a => if a.isCleanup then none else some a
  | _ => none

/-- The operations that were called, after the making, the latest first. -/
def Moment.calls (m : Moment) : List Activity := m.shown.filterMap Incident.called

theorem Moment.record_calls (i : Incident) (m : Moment) :
    (m.record i).calls = i.called.toList ++ m.calls := by
  have hcalled : i.isShown = false → i.called = none := by
    intro hi
    cases i with
    | begun a =>
      have ha : a.isCleanup = true := by simpa [Incident.isShown] using hi
      simp [Incident.called, ha]
    | _ => rfl
  unfold Moment.calls
  rw [Moment.record_shown]
  split
  · rcases hc : i.called with _ | a <;> simp [hc]
  · rename_i hi
    rw [hcalled (eq_false_of_ne_true hi)]
    rfl

/-! ## Rehearsals -/

/-- What comes of calls, the latest first, each played to its end before the next. -/
def Supply.rehearse (s : Supply) (c : Cursor) : List Activity → Moment
  | [] => ⟨c, []⟩
  | a :: earlier =>
    let (o, m) := s.play a.program ((s.rehearse c earlier).record (.begun a))
    m.record (.ended a o)

/-- A program calls nothing. -/
theorem play_calls {α : Type} (p : Program Cursor α) :
    ∀ m, (s.play p m).2.calls = m.calls := by
  induction p with
  | done o => exact fun _ => rfl
  | read next ih => exact fun m => ih _ m
  | write c next ih => exact fun m => ih (m.put c)
  | note n next ih => exact fun m => (ih (m.record (.noticed n))).trans (m.record_calls _)
  | ask q next ih =>
    intro m
    refine (ih _ _).trans ?_
    exact (Moment.record_calls _ _).trans (Moment.record_calls _ _)

theorem rehearse_calls {c : Cursor} {calls : List Activity}
    (h : ∀ a ∈ calls, a.isCleanup = false) : (s.rehearse c calls).calls = calls := by
  induction calls with
  | nil => rfl
  | cons a calls ih =>
    have ha : a.isCleanup = false := h a (List.mem_cons_self ..)
    simp only [Supply.rehearse, Moment.record_calls, play_calls,
      ih fun b hb => h b (List.mem_cons_of_mem _ hb)]
    simp [Incident.called, ha]

/-! ## Scheduled kills -/

/-- How a world meets a scheduled kill that leaves no trace, whatever goes on beside it. -/
def idling : Environment Stretch where
  take n w := ⟨w.since, w.now.record (.noticed n)⟩
  demands q w := isFetch q = false ∧ Twins (w.now.record (.asked q)) w.since
  resumes q _ x w' := ∃ m, w' = ⟨m, m.answer q x⟩

/-- Nothing has shown in a stretch. -/
def Untouched (w : Stretch) : Prop := Twins w.now w.since

theorem undisturbed_idling : Undisturbed idling Stretch.cell Untouched where
  ask q w hq h := by
    refine ⟨⟨hq, h.unseen hq⟩, ?_⟩
    rintro x _ ⟨m, rfl⟩
    exact (Twins.refl m).unseen hq
  log _ _ _ h := h.unseen rfl
  giveBack _ _ _ _ _ h := h.unseen rfl

/-- **A scheduled kill leaves no trace.** -/
theorem keeps_idling_cleanup (target : ServerCursor) :
    Keeps idling Stretch.cell Untouched (Activity.cleanup target).program := by
  refine keeps_bind (keeps_always (undisturbed_idling.keeps_killCursor target none) ?_)
    fun _ => keeps_pure _
  have htake : ∀ n w, Untouched w → Untouched (idling.take n w) :=
    fun _ _ h => Twins.unseen h rfl
  have hflag : ∀ w, Untouched w →
      Untouched (Stretch.cell.store { Stretch.cell.load w with released := true } w) :=
    fun _ h => Twins.put_unseen h rfl
  exact fun w hw => ensures_releaseResources.2 (settle_of_take htake hflag hw)

/-- A scheduled kill that waits, and will leave no trace. -/
def Idles (t : Thread) : Prop :=
  ∃ q next, t.rest = .ask q next ∧ isFetch q = false ∧ ∀ x m,
    Ensures idling Stretch.cell (fun _ w => Untouched w) (next x) ⟨m, m.answer q x⟩

/-- What shows of a life stays as it is while a scheduled kill goes on. -/
theorem idles_proceed {ts : List Thread} (ha : a.isCleanup) {p : Program Cursor Yield} :
    ∀ {m : Moment}, Ensures idling Stretch.cell (fun _ w => Untouched w) p ⟨m₀, m⟩ →
      Twins (Life.proceed a ts p m).moment m₀ ∧
        ∃ waiting, (Life.proceed a ts p m).threads = waiting ++ ts ∧
          ∀ t ∈ waiting, t.activity.isCleanup ∧ Idles t := by
  induction p with
  | done o =>
    intro m h
    have hm : Twins m m₀ := h
    exact ⟨hm.unseen (by simp [Incident.isShown, ha]), [], rfl, by simp⟩
  | read next ih => exact fun h => ih _ h
  | write c next ih => exact fun h => ih h
  | note n next ih => exact fun h => ih h
  | ask q next ih =>
    intro m h
    refine ⟨h.1.2, [⟨a, .ask q next⟩], rfl, fun t ht => ?_⟩
    obtain rfl := List.mem_singleton.1 ht
    exact ⟨ha, q, next, rfl, h.1.1, fun x m₁ => h.2 x _ ⟨m₁, rfl⟩⟩

/-! ## Following a rehearsal -/

/-- An operation waits, and will end in a twin of a moment. -/
def Supply.Awaits (s : Supply) (goal : Moment) (t : Thread) (m : Moment) : Prop :=
  ∃ q next, t.rest = .ask q next ∧ ∀ x m₁, Twins m m₁ → s.Admits m₁ q x →
    Ensures s.environment Moment.cell
      (fun o m₂ => Twins (m₂.record (.ended t.activity o)) goal) (next x) (m₁.answer q x)

/-- How many operations wait. -/
def operating (ts : List Thread) : Nat := ts.countP fun t => !t.activity.isCleanup

/-- A life is on the way to a moment, or there. -/
structure Supply.Follows (s : Supply) (goal : Moment) (l : Life) : Prop where
  idles : ∀ t ∈ l.threads, t.activity.isCleanup → Idles t
  awaits : ∀ t ∈ l.threads, t.activity.isCleanup = false → s.Awaits goal t l.moment
  single : operating l.threads ≤ 1
  rest : operating l.threads = 0 → Twins l.moment goal

theorem operating_extract (t : Thread) (before after : List Thread) :
    operating (before ++ t :: after)
      = operating (before ++ after) + if t.activity.isCleanup then 0 else 1 := by
  simp only [operating, List.countP_append, List.countP_cons]
  rcases t.activity.isCleanup with _ | _
  · simp; omega
  · simp

theorem operating_append {waiting : List Thread} (h : ∀ t ∈ waiting, t.activity.isCleanup)
    (ts : List Thread) : operating (waiting ++ ts) = operating ts := by
  have hnone : operating waiting = 0 := List.countP_eq_zero.2 fun t ht => by simp [h t ht]
  rw [operating, List.countP_append]
  exact (congrArg (· + operating ts) hnone).trans (Nat.zero_add _)

theorem operating_eq_zero : operating l.threads = 0 ↔ l.AtRest := by
  unfold operating
  rw [List.countP_eq_zero]
  exact forall₂_congr fun t _ => by simp

/-- An operation goes on, or is at its end. -/
theorem follows_proceed {goal : Moment} {ts : List Thread} (ha : a.isCleanup = false)
    (hts : ∀ t ∈ ts, t.activity.isCleanup ∧ Idles t) {p : Program Cursor Yield} :
    ∀ {m : Moment}, Ensures s.environment Moment.cell
      (fun o m₁ => Twins (m₁.record (.ended a o)) goal) p m →
      s.Follows goal (Life.proceed a ts p m) := by
  have hnone : operating ts = 0 := List.countP_eq_zero.2 fun t ht => by simp [(hts t ht).1]
  induction p with
  | done o =>
    intro m h
    refine ⟨fun t ht _ => (hts t ht).2, fun t ht hoperation => ?_, ?_, fun _ => h⟩
    · simp [(hts t ht).1] at hoperation
    · exact Nat.le_trans (Nat.le_of_eq hnone) (Nat.zero_le 1)
  | read next ih => exact fun h => ih _ h
  | write c next ih => exact fun h => ih h
  | note n next ih => exact fun h => ih h
  | ask q next ih =>
    intro m h
    have hone : operating (⟨a, .ask q next⟩ :: ts) = 1 := by
      have hextract := operating_extract ⟨a, .ask q next⟩ [] ts
      rw [List.nil_append, List.nil_append, hnone, ha] at hextract
      exact hextract
    refine ⟨fun t ht hcleanup => ?_, fun t ht hoperation => ?_, Nat.le_of_eq hone, fun hzero => ?_⟩
    · rcases List.mem_cons.1 ht with rfl | ht
      · simp [ha] at hcleanup
      · exact (hts t ht).2
    · rcases List.mem_cons.1 ht with rfl | ht
      · exact ⟨q, next, rfl, fun x m₁ hm hx => h.2 x _ ⟨m₁, hm, hx, rfl⟩⟩
      · simp [(hts t ht).1] at hoperation
    · exact absurd (hone.symm.trans hzero) (by decide)

/-- A scheduled kill goes on, or is at its end, beside threads of a life that follows. -/
theorem Supply.Follows.beside {goal : Moment} {ts : List Thread} (h : s.Follows goal l)
    (hts : ∀ t ∈ ts, t ∈ l.threads) (hcount : operating ts = operating l.threads)
    (ha : a.isCleanup) (hm₀ : Twins m₀ l.moment) {p : Program Cursor Yield}
    (hp : Ensures idling Stretch.cell (fun _ w => Untouched w) p ⟨m₀, m⟩) :
    s.Follows goal (Life.proceed a ts p m) := by
  obtain ⟨hm, waiting, hthreads, hwaiting⟩ := idles_proceed ha hp
  have hcount' : operating (Life.proceed a ts p m).threads = operating l.threads := by
    rw [hthreads, operating_append fun t ht => (hwaiting t ht).1]
    exact hcount
  have hmem : ∀ t ∈ (Life.proceed a ts p m).threads,
      t ∈ l.threads ∨ t.activity.isCleanup ∧ Idles t := by
    intro t ht
    rw [hthreads] at ht
    exact (List.mem_append.1 ht).elim (fun ht => .inr (hwaiting t ht)) fun ht => .inl (hts t ht)
  refine ⟨fun t ht hcleanup => ?_, fun t ht hoperation => ?_, hcount' ▸ h.single, fun hzero => ?_⟩
  · exact (hmem t ht).elim (fun ht => h.idles t ht hcleanup) And.right
  · rcases hmem t ht with ht | ⟨hcleanup, -⟩
    · obtain ⟨q, next, hrest, hnext⟩ := h.awaits t ht hoperation
      exact ⟨q, next, hrest, fun x m₁ hm₁ => hnext x m₁ ((hm.trans hm₀).symm.trans hm₁)⟩
    · simp [hcleanup] at hoperation
  · exact (hm.trans hm₀).trans (h.rest (hcount'.symm.trans hzero))

/-! ## Steps -/

/-- An operation that is called follows its rehearsal. -/
theorem follows_begin {c : Cursor} {calls : List Activity} {ts : List Thread}
    (ha : a.isShared ∨ ∃ first, a = .opening first true)
    (hts : ∀ t ∈ ts, t.activity.isCleanup ∧ Idles t) (hm : Twins m (s.rehearse c calls)) :
    s.Follows (s.rehearse c (a :: calls)) (Life.begin a ⟨m, ts⟩) := by
  have hcleanup : a.isCleanup = false := by
    rcases ha with ha | ⟨first, rfl⟩
    · exact Activity.isCleanup_of_isShared ha
    · rfl
  refine follows_proceed hcleanup hts
    (Program.ensures_mono ?_ (mirrors_program ha (hm.record (.begun a))))
  rintro o m₁ ⟨rfl, hm₁⟩
  exact hm₁.record _

/-- **One step leaves a life with a rehearsal to follow.** -/
theorem follows_step {c : Cursor} {calls : List Activity} (hs : s.Uses l l')
    (h : s.Follows (s.rehearse c calls) l) :
    ∃ a, s.Follows (s.rehearse c (a ++ calls)) l' ∧ ∀ b ∈ a, b.isCleanup = false := by
  cases hs with
  | @call l a hrest ha =>
    have hts : ∀ t ∈ l.threads, t.activity.isCleanup ∧ Idles t :=
      fun t ht => ⟨hrest t ht, h.idles t ht (hrest t ht)⟩
    refine ⟨[a], follows_begin (.inl ha) hts (h.rest (operating_eq_zero.2 hrest)), fun b hb => ?_⟩
    obtain rfl := List.mem_singleton.1 hb
    exact Activity.isCleanup_of_isShared ha
  | @run _ before after target _ =>
    refine ⟨[], ?_, by simp⟩
    have hbegun : Twins ((l.unscheduled (before ++ after)).moment.record
        (.begun (.cleanup target))) l.moment :=
      ((Twins.refl l.moment).put_unseen
        (c := { l.moment.cursor with cleanups := before ++ after }) rfl).unseen rfl
    exact h.beside (fun _ ht => ht) rfl rfl hbegun
      (keeps_idling_cleanup target ⟨_, _⟩ (Twins.refl _))
  | @resume m before after a q next x hx =>
    refine ⟨[], ?_, by simp⟩
    have hself : ⟨a, .ask q next⟩ ∈ before ++ (⟨a, .ask q next⟩ : Thread) :: after :=
      List.mem_append_cons_self
    rcases ha : a.isCleanup with _ | _
    · obtain ⟨q', next', hrest, hnext⟩ := h.awaits _ hself ha
      cases hrest
      have hsingle := h.single
      rw [operating_extract, ha] at hsingle
      have hothers : ∀ t ∈ before ++ after, t.activity.isCleanup := by
        have hzero : operating (before ++ after) = 0 := by simp at hsingle; exact hsingle
        intro t ht
        simpa using List.countP_eq_zero.1 hzero t ht
      have hidles : ∀ t ∈ before ++ after, t.activity.isCleanup ∧ Idles t :=
        fun t ht => ⟨hothers t ht, h.idles t (Thread.mem_beside _ ht) (hothers t ht)⟩
      exact follows_proceed ha hidles (hnext x m (.refl m) hx)
    · obtain ⟨q', next', hrest, hq, hnext⟩ := h.idles _ hself ha
      cases hrest
      have hcount : operating (before ++ after)
          = operating (before ++ ⟨a, .ask q next⟩ :: after) := by
        rw [operating_extract, ha]
        rfl
      exact h.beside (fun _ ht => Thread.mem_beside _ ht) hcount ha (.refl m) (hnext x m)

/-! ## Runs -/

/-- A life that is used without overlap follows a rehearsal. -/
theorem follows_of_leads {c c₀ : Cursor} {first : QueryResult} (hc : c.core = c₀.core)
    (hl : s.Leads (Life.opening c first true) l) :
    ∃ calls, s.Follows (s.rehearse c₀ calls) l ∧ ∀ a ∈ calls, a.isCleanup = false := by
  induction hl with
  | refl =>
    refine ⟨[.opening first true], follows_begin (.inr ⟨first, rfl⟩) (by simp) ⟨hc, rfl⟩, ?_⟩
    simp [Activity.isCleanup]
  | tail _ hs ih =>
    obtain ⟨calls, hfollows, hcalls⟩ := ih
    obtain ⟨new, hfollows', hnew⟩ := follows_step hs hfollows
    refine ⟨new ++ calls, hfollows', fun a ha => ?_⟩
    exact (List.mem_append.1 ha).elim (hnew a) (hcalls a)

/-- At rest it is a twin of the rehearsal of its calls. -/
theorem twins_of_leads {c c₀ : Cursor} {first : QueryResult} (hc : c.core = c₀.core)
    (hl : s.Leads (Life.opening c first true) l) (hrest : l.AtRest) :
    Twins l.moment (s.rehearse c₀ l.moment.calls) := by
  obtain ⟨calls, hfollows, hcalls⟩ := follows_of_leads hc hl
  have htwins := hfollows.rest (operating_eq_zero.2 hrest)
  have heq : l.moment.calls = calls :=
    (congrArg (List.filterMap Incident.called) htwins.shown).trans (rehearse_calls hcalls)
  rw [heq]
  exact htwins

/-- An activity can always be brought to its end. -/
theorem exists_leads_end (s : Supply) (a : Activity) (ts : List Thread)
    (p : Program Cursor Yield) : ∀ m : Moment, ∃ l, s.Leads (Life.proceed a ts p m) l ∧
      l.threads = ts ∧ l.moment.calls = m.calls := by
  induction p with
  | done o => exact fun m => ⟨_, .refl, rfl, m.record_calls _⟩
  | read next ih => exact fun m => ih _ m
  | write c next ih => exact fun m => ih (m.put c)
  | note n next ih =>
    intro m
    obtain ⟨l, hl, hthreads, hcalls⟩ := ih (m.record (.noticed n))
    exact ⟨l, hl, hthreads, hcalls.trans (m.record_calls _)⟩
  | ask q next ih =>
    intro m
    obtain ⟨l, hl, hthreads, hcalls⟩ := ih ((s.settles (m.record (.asked q)) q).getD
      (.error .notHeld)) ((m.record (.asked q)).answer q _)
    have hstep : s.Uses ⟨m.record (.asked q), [] ++ ⟨a, .ask q next⟩ :: ts⟩ _ :=
      .resume (s.admits_getD _ q)
    refine ⟨l, .head hstep hl, hthreads, hcalls.trans ?_⟩
    exact (Moment.record_calls _ _).trans (m.record_calls _)

/-! ## Agreement -/

/-- A cursor was made from a plan and used without overlap, and no operation is under way. -/
def Supply.Rests (s : Supply) (mode : Mode) (plan : Plan) (l : Life) : Prop :=
  ∃ c, ofPlan mode plan = .ok c ∧ s.Leads (Life.opening c plan.first true) l ∧ l.AtRest

/-- Two cursors agree: the same calls were made, the same fetches requested and answered, and the
    calls have ended with the same outcomes, in the same order; and the cursors show the same. -/
structure Agree (l l' : Life) : Prop where
  shown : l.moment.shown = l'.moment.shown
  state : l.moment.cursor.state = l'.moment.cursor.state
  delivered : l.moment.cursor.progress.delivered = l'.moment.cursor.progress.delivered
  batchSize : l.moment.cursor.batchSize = l'.moment.cursor.batchSize
  serverCursor : l.moment.cursor.serverCursor = l'.moment.cursor.serverCursor

theorem Twins.agree (h : Twins l.moment l'.moment) : Agree l l' where
  shown := h.shown
  state := (congrArg Cursor.state h.core :)
  delivered := congrArg (·.progress.delivered) h.core
  batchSize := congrArg (·.batchSize) h.core
  serverCursor := (congrArg Cursor.serverCursor h.core :)

/-- The flavour is the only difference between the cursors of a plan. -/
theorem ofPlan_eq_map (mode : Mode) (plan : Plan) :
    ofPlan mode plan = (ofPlan .blocking plan).map fun c => { c with mode := mode } := by
  unfold ofPlan
  split
  · rfl
  · rcases Settings.default.overriddenBy plan.overrides with e | settings <;> rfl

theorem core_of_ofPlan {plan : Plan} {mode mode' : Mode} {c c' : Cursor}
    (hc : ofPlan mode plan = .ok c) (hc' : ofPlan mode' plan = .ok c') : c.core = c'.core := by
  rw [ofPlan_eq_map] at hc hc'
  generalize ofPlan .blocking plan = made at hc hc'
  rcases made with e | c₀
  · cases hc
  · cases hc
    cases hc'
    rfl

/-- Any calls can be made, and come to their end. -/
theorem exists_rests {plan : Plan} {mode : Mode} {c : Cursor} (hc : ofPlan mode plan = .ok c)
    {calls : List Activity} (h : ∀ a ∈ calls, a.isShared) :
    ∃ l, s.Rests mode plan l ∧ l.moment.calls = calls ++ [.opening plan.first true] := by
  induction calls with
  | nil =>
    obtain ⟨l, hl, hthreads, hcalls⟩ := exists_leads_end s (.opening plan.first true) []
      (Activity.opening plan.first true).program ⟨c, [.begun (.opening plan.first true)]⟩
    exact ⟨l, ⟨c, hc, hl, by simp [Life.AtRest, hthreads]⟩, hcalls⟩
  | cons a calls ih =>
    obtain ⟨l, ⟨c', hc', hl, hrest⟩, hcalls⟩ := ih fun b hb => h b (List.mem_cons_of_mem _ hb)
    have ha : a.isShared := h a (List.mem_cons_self ..)
    obtain ⟨l', hl', hthreads, hcalls'⟩ := exists_leads_end s a l.threads a.program
      (l.moment.record (.begun a))
    have hrest' : l'.AtRest := by
      unfold Life.AtRest
      rw [hthreads]
      exact hrest
    refine ⟨l', ⟨c', hc', (hl.tail (.call hrest ha)).trans hl', hrest'⟩, ?_⟩
    rw [hcalls', Moment.record_calls, hcalls]
    simp [Incident.called, Activity.isCleanup_of_isShared ha]

/-- **The two flavours agree.** They are refused alike; both can be used in any way that both
    allow; and whenever they are at rest after the same calls, they agree, whatever has come of
    their kills. -/
theorem agree_of_rests (plan : Plan) (s : Supply) :
    (∀ e, ofPlan .blocking plan = .error e ↔ ofPlan .async plan = .error e) ∧
    (∀ mode c, ofPlan mode plan = .ok c → ∀ calls : List Activity, (∀ a ∈ calls, a.isShared) →
      ∃ l, s.Rests mode plan l ∧ l.moment.calls = calls ++ [.opening plan.first true]) ∧
    ∀ l l', s.Rests .blocking plan l → s.Rests .async plan l' →
      l.moment.calls = l'.moment.calls → Agree l l' := by
  refine ⟨fun e => ?_, fun mode c hc calls h => exists_rests hc h, ?_⟩
  · rw [ofPlan_eq_map .async]
    rcases ofPlan .blocking plan with e' | c <;> simp [Except.map]
  · rintro l l' ⟨c, hc, hl, hrest⟩ ⟨c', hc', hl', hrest'⟩ hcalls
    have htwins := twins_of_leads rfl hl hrest
    have htwins' := twins_of_leads (core_of_ofPlan hc' hc) hl' hrest'
    rw [← hcalls] at htwins'
    exact (htwins.trans htwins'.symm).agree

/-! ## An example -/

instance : Decidable l.AtRest :=
  inferInstanceAs (Decidable (∀ t ∈ l.threads, t.activity.isCleanup = true))

theorem Supply.Leads.begin {l₀ : Life} (h : s.Leads l₀ l) (hrest : l.AtRest) (ha : a.isShared) :
    s.Leads l₀ (l.begin a) :=
  .tail h (.call hrest ha)

theorem Supply.Leads.respond {l₀ : Life} (h : s.Leads l₀ l)
    (answers : (q : Exchange) → Outcome q.Answer) (ha : ∀ m q, s.Admits m q (answers q)) :
    s.Leads l₀ (l.respond answers) := by
  obtain ⟨m, _ | ⟨⟨a, p⟩, after⟩⟩ := l
  · exact h
  · cases p with
    | ask q next =>
      have hstep : s.Uses ⟨m, [] ++ ⟨a, .ask q next⟩ :: after⟩ _ := .resume (ha m q)
      exact .tail h hstep
    | _ => exact h

/-- What comes in a world in which each fetch brings a document. -/
def plenty : Supply where
  lease _ := lively (.lease ⟨0⟩)
  fetch _ := lively

theorem plenty_admits (m : Moment) (q : Exchange) : plenty.Admits m q (lively q) := by
  have hok : ∀ e, lively q ≠ .error e := by cases q <;> nofun
  unfold Supply.Admits
  split
  · rename_i y hy
    cases q with
    | lease source =>
      simp only [Supply.settles, Option.ite_none_right_eq_some] at hy
      exact Option.some.inj hy.2
    | _ => cases hy <;> rfl
  · exact fun e he => absurd he (hok e)

/-- A cursor that has handed out a batch, and then fetched one. -/
def served (mode : Mode) : Life :=
  ((((Life.opening (sample mode 0) (Plan.sample 0).first true).begin .tryNext).begin
    (.next 2)).respond lively).respond lively

theorem leads_served (mode : Mode) :
    plenty.Leads (Life.opening (sample mode 0) (Plan.sample 0).first true) (served mode) := by
  have hopened : plenty.Leads (Life.opening (sample mode 0) (Plan.sample 0).first true) _ := .refl
  cases mode with
  | blocking =>
    exact ((((hopened.begin (a := .tryNext) (by decide +kernel) rfl).begin (a := .next 2)
      (by decide +kernel) rfl).respond lively plenty_admits).respond lively plenty_admits)
  | async =>
    exact ((((hopened.begin (a := .tryNext) (by decide +kernel) rfl).begin (a := .next 2)
      (by decide +kernel) rfl).respond lively plenty_admits).respond lively plenty_admits)

/-- A blocking cursor is closed, and has killed its server cursor. -/
def servedAndKilled : Life :=
  (((served .blocking).begin (.close true)).respond lively).respond lively

/-- An asynchronous cursor is closed, and its kill is scheduled. -/
def servedAndScheduled : Life := (served .async).begin (.close true)

theorem agree_of_served :
    (∃ l, plenty.Rests .async (.sample 0) l ∧ l.moment.calls
      = [.close true, .next 2, .tryNext] ++ [.opening (Plan.sample 0).first true]) ∧
    servedAndScheduled.moment.cursor.cleanups.length = 1 ∧
    servedAndScheduled.moment.cursor.progress.delivered = 2 ∧
    Agree servedAndKilled servedAndScheduled := by
  have hagree := agree_of_rests (.sample 0) plenty
  have hkilled : plenty.Leads _ servedAndKilled := (((leads_served .blocking).begin
    (a := .close true) (by decide +kernel) rfl).respond lively plenty_admits).respond lively
      plenty_admits
  have hscheduled : plenty.Leads _ servedAndScheduled :=
    (leads_served .async).begin (a := .close true) (by decide +kernel) rfl
  have hshared : ∀ a ∈ ([.close true, .next 2, .tryNext] : List Activity), a.isShared := by decide
  refine ⟨hagree.2.1 .async _ (ofPlan_sample _ _) _ hshared, by decide +kernel,
    by decide +kernel, ?_⟩
  have hcalls : servedAndKilled.moment.calls
      = [.close true, .next 2, .tryNext, .opening (Plan.sample 0).first true] := rfl
  have hcalls' : servedAndScheduled.moment.calls
      = [.close true, .next 2, .tryNext, .opening (Plan.sample 0).first true] := rfl
  exact hagree.2.2 _ _ ⟨_, ofPlan_sample _ _, hkilled, by decide +kernel⟩
    ⟨_, ofPlan_sample _ _, hscheduled, by decide +kernel⟩ (hcalls.trans hcalls'.symm)

end DocumentClient.Cursor
