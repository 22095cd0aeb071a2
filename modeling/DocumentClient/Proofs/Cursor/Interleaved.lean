/-
  Activities whose exchanges are answered in any order.

  Here every activity that waits may go on next.  A stretch is what an activity does
  between two exchanges.  `Protocol` collects what the activities promise: an invariant
  at the end of every stretch, a bound on what any stretch changes, and a closer one on
  the stretches of those that absorb no batches; the one that absorbs (the making, or the
  retrieval under way) counts on that one, too, while it waits.

  `Sound.invariant_of_reaches`: if every activity keeps its promises from any moment that
  has the invariant, then every life that can be reached has it.
-/
import DocumentClient.Proofs.Cursor.Life
import DocumentClient.Proofs.Program.Ensures

namespace DocumentClient.Cursor

open Program (Ensures Environment)

/-- Whether an activity absorbs batches: there is one of them at a time. -/
def Activity.absorbs (a : Activity) : Bool := a.isOpening || a.isRetrieval

theorem Activity.absorbs_of_isRetrieval {a : Activity} (ha : a.isRetrieval) : a.absorbs = true := by
  simp [absorbs, ha]

/-- What activities that alternate promise. -/
structure Protocol where
  /-- What holds at the end of every stretch. -/
  invariant : Moment → Prop
  /-- What any stretch may do. -/
  respects : Moment → Moment → Prop
  /-- What a stretch may do while another activity absorbs. -/
  spares : Moment → Moment → Prop
  /-- Which answers may come. -/
  admits : (q : Exchange) → Outcome q.Answer → Prop

/-- A stretch of an activity, under way. -/
structure Stretch where
  /-- The moment at which it began. -/
  since : Moment
  now : Moment

namespace Stretch

/-- Where the cursor of a stretch is kept. -/
def cell : Program.Cell Stretch Cursor where
  load w := w.now.cursor
  store c w := { w with now := w.now.put c }

@[simp] theorem cell_load (w : Stretch) : cell.load w = w.now.cursor := rfl

@[simp] theorem cell_store (c : Cursor) (w : Stretch) :
    cell.store c w = ⟨w.since, w.now.put c⟩ := rfl

end Stretch

namespace Protocol

/-- A stretch may end at a moment. -/
def Ends (p : Protocol) (absorbing : Bool) (since m : Moment) : Prop :=
  p.invariant m ∧ p.respects since m ∧ (absorbing = false → p.spares since m)

theorem Ends.absorbing {p : Protocol} {since m : Moment} (hi : p.invariant m)
    (hr : p.respects since m) : p.Ends true since m := ⟨hi, hr, nofun⟩

/-- The environment of an activity. -/
def environment (p : Protocol) (absorbing : Bool) : Environment Stretch where
  take n w := { w with now := w.now.record (.noticed n) }
  demands q w := p.Ends absorbing w.since (w.now.record (.asked q))
  resumes q w x w' := p.admits q x ∧ ∃ m, p.invariant m ∧
    p.respects (w.now.record (.asked q)) m ∧ (absorbing → p.spares (w.now.record (.asked q)) m) ∧
    w' = ⟨m, m.answer q x⟩

/-- What an activity ensures in a stretch. -/
abbrev Holds {α : Type} (p : Protocol) (absorbing : Bool) (Q : Outcome α → Stretch → Prop) :
    Program Cursor α → Stretch → Prop :=
  Ensures (p.environment absorbing) Stretch.cell Q

/-- From a stretch on, an activity keeps its promises up to its end. -/
def Behaves (p : Protocol) (a : Activity) (w : Stretch) (program : Program Cursor Yield) : Prop :=
  p.Holds a.absorbs (fun o w' => p.Ends a.absorbs w'.since (w'.now.record (.ended a o))) program w

/-- A thread waits, and will behave. -/
def Awaits (p : Protocol) (t : Thread) (m : Moment) : Prop :=
  ∃ q next, t.rest = .ask q next ∧ ∀ x m₁, p.admits q x → p.invariant m₁ → p.respects m m₁ →
    (t.activity.absorbs → p.spares m m₁) → p.Behaves t.activity ⟨m₁, m₁.answer q x⟩ (next x)

/-- A life in which every thread will behave, and at most one absorbs. -/
structure Orderly (p : Protocol) (l : Life) : Prop where
  invariant : p.invariant l.moment
  awaits : ∀ t ∈ l.threads, p.Awaits t l.moment
  single : l.threads.countP (·.activity.absorbs) ≤ 1

/-- What makes a protocol sound. -/
structure Sound (p : Protocol) (offers : Activity → Prop) : Prop where
  refl : ∀ m, p.respects m m ∧ p.spares m m
  respects_trans : ∀ m₁ m₂ m₃, p.respects m₁ m₂ → p.respects m₂ m₃ → p.respects m₁ m₃
  spares_trans : ∀ m₁ m₂ m₃, p.spares m₁ m₂ → p.spares m₂ m₃ → p.spares m₁ m₃
  call : ∀ a m, offers a → a.isOperation → p.invariant m →
    p.Behaves a ⟨m, m.record (.begun a)⟩ a.program
  run : ∀ m before target after, m.cursor.cleanups = before ++ target :: after → p.invariant m →
    p.Behaves (.cleanup target)
      ⟨m, (m.put { m.cursor with cleanups := before ++ after }).record (.begun (.cleanup target))⟩
      (Activity.cleanup target).program

variable {p : Protocol} {offers : Activity → Prop}

/-- An activity that behaves comes to the end of its stretch in order. -/
theorem orderly_proceed {a : Activity} {ts : List Thread} {m₀ : Moment}
    (hsingle : ts.countP (·.activity.absorbs) + (if a.absorbs then 1 else 0) ≤ 1)
    (hawaits : ∀ m, p.Ends a.absorbs m₀ m → ∀ t ∈ ts, p.Awaits t m)
    {program : Program Cursor Yield} :
    ∀ {m : Moment}, p.Behaves a ⟨m₀, m⟩ program → p.Orderly (Life.proceed a ts program m) := by
  induction program with
  | done outcome =>
    intro m h
    exact ⟨h.1, hawaits _ h, Nat.le_of_add_right_le hsingle⟩
  | read next ih => intro m h; exact ih _ h
  | write c next ih => intro m h; exact ih h
  | note n next ih => intro m h; exact ih h
  | ask q next ih =>
    intro m h
    refine ⟨h.1.1, ?_, ?_⟩
    · intro t ht
      rcases List.mem_cons.1 ht with rfl | ht
      · exact ⟨q, next, rfl, fun x m₁ hx hi hr hs => h.2 x _ ⟨hx, m₁, hi, hr, hs, rfl⟩⟩
      · exact hawaits _ h.1 t ht
    · simpa [Life.proceed, List.countP_cons] using hsingle

/-- A cursor whose making behaves begins its life in order. -/
theorem orderly_opening {c : Cursor} {first : QueryResult} {loopRuns : Bool}
    (h : p.Behaves (.opening first loopRuns) ⟨⟨c, []⟩, ⟨c, [.begun (.opening first loopRuns)]⟩⟩
      (Activity.opening first loopRuns).program) :
    p.Orderly (Life.opening c first loopRuns) := by
  refine orderly_proceed ?_ (fun _ _ t ht => ?_) h
  · simp [Activity.absorbs, Activity.isOpening]
  · simp at ht

/-- A thread goes on waiting while others keep their promises. -/
theorem Sound.awaits (hp : p.Sound offers) {t : Thread} {m m' : Moment} (h : p.Awaits t m)
    (hr : p.respects m m') (hs : t.activity.absorbs → p.spares m m') : p.Awaits t m' := by
  obtain ⟨q, next, hrest, hnext⟩ := h
  exact ⟨q, next, hrest, fun x m₁ hx hi hr₁ hs₁ =>
    hnext x m₁ hx hi (hp.respects_trans _ _ _ hr hr₁) fun ht =>
      hp.spares_trans _ _ _ (hs ht) (hs₁ ht)⟩

/-- Threads beside an activity go on waiting at the end of its stretch. -/
theorem Sound.awaits_beside (hp : p.Sound offers) {a : Activity} {ts : List Thread} {m₀ : Moment}
    (hsingle : ts.countP (·.activity.absorbs) + (if a.absorbs then 1 else 0) ≤ 1)
    (h : ∀ t ∈ ts, p.Awaits t m₀) (m : Moment) (hm : p.Ends a.absorbs m₀ m) :
    ∀ t ∈ ts, p.Awaits t m := by
  intro t ht
  refine hp.awaits (h t ht) hm.2.1 fun habsorbs => ?_
  rcases ha : a.absorbs with _ | _
  · exact hm.2.2 ha
  · have : 0 < ts.countP (·.activity.absorbs) := List.countP_pos_iff.2 ⟨t, ht, habsorbs⟩
    rw [ha, if_pos rfl] at hsingle
    omega

/-- An operation that is called is the only one that absorbs, if it does. -/
theorem single_of_mayCall {r : Regime} (hr : r.nested = false) {a : Activity} {l : Life}
    (h : Life.MayCall r a l) (hl : l.threads.countP (·.activity.absorbs) ≤ 1) :
    l.threads.countP (·.activity.absorbs) + (if a.absorbs then 1 else 0) ≤ 1 := by
  have hopening : a.isOpening = false := Activity.isOpening_of_isOperation h.operation
  rcases ha : a.isRetrieval with _ | _
  · simpa [Activity.absorbs, hopening, ha] using hl
  · have hsingle := h.single ha
    simp only [hr] at hsingle
    have : l.threads.countP (·.activity.absorbs) = 0 := by
      refine List.countP_eq_zero.2 fun t ht => ?_
      simp [Activity.absorbs, h.made t ht, hsingle t ht]
    rw [this]
    split <;> omega

/-- One step keeps a life in order. -/
theorem Sound.orderly_step (hp : p.Sound offers) {l l' : Life}
    (hs : Life.Step ⟨false, offers, p.admits⟩ l l') (h : p.Orderly l) : p.Orderly l' := by
  cases hs with
  | @call _ a hc =>
    have hsingle := single_of_mayCall rfl hc h.single
    exact orderly_proceed hsingle (hp.awaits_beside hsingle h.awaits)
      (hp.call a _ hc.offered hc.operation h.invariant)
  | @run _ before after target hc =>
    exact orderly_proceed (a := .cleanup target) h.single
      (hp.awaits_beside (a := .cleanup target) h.single h.awaits) (hp.run _ _ _ _ hc h.invariant)
  | @resume m before after a q next x order hx =>
    obtain ⟨q', next', hrest, hnext⟩ := h.awaits ⟨a, .ask q next⟩ (by simp)
    cases hrest
    have hsingle :
        (before ++ after).countP (·.activity.absorbs) + (if a.absorbs then 1 else 0) ≤ 1 := by
      have := h.single
      simp only [List.countP_append, List.countP_cons] at this ⊢
      omega
    exact orderly_proceed hsingle
      (hp.awaits_beside hsingle fun t ht => h.awaits t (Thread.mem_beside _ ht))
      (hnext x m hx h.invariant (hp.refl m).1 fun _ => (hp.refl m).2)

theorem Sound.orderly_of_reaches (hp : p.Sound offers) {l l' : Life}
    (hs : Life.Reaches ⟨false, offers, p.admits⟩ l l') (h : p.Orderly l) : p.Orderly l' := by
  induction hs with
  | refl => exact h
  | tail _ hstep ih => exact hp.orderly_step hstep ih

/-- **Lives in which activities alternate keep the invariant.** -/
theorem Sound.invariant_of_reaches (hp : p.Sound offers) {l l' : Life}
    (hs : Life.Reaches ⟨false, offers, p.admits⟩ l l') (h : p.Orderly l) :
    p.invariant l'.moment :=
  (hp.orderly_of_reaches hs h).invariant

/-- A stretch does to the cursor what any stretch may do. -/
theorem respects_proceed {a : Activity} {ts : List Thread} {m₀ : Moment}
    {program : Program Cursor Yield} :
    ∀ {m : Moment}, p.Behaves a ⟨m₀, m⟩ program →
      p.respects m₀ (Life.proceed a ts program m).moment := by
  induction program with
  | done outcome => intro m h; exact h.2.1
  | read next ih => intro m h; exact ih _ h
  | write c next ih => intro m h; exact ih h
  | note n next ih => intro m h; exact ih h
  | ask q next ih => intro m h; exact h.1.2.1

theorem Sound.respects_step (hp : p.Sound offers) {l l' : Life}
    (hs : Life.Step ⟨false, offers, p.admits⟩ l l') (h : p.Orderly l) :
    p.respects l.moment l'.moment := by
  cases hs with
  | call hc => exact respects_proceed (hp.call _ _ hc.offered hc.operation h.invariant)
  | run hc => exact respects_proceed (a := .cleanup _) (hp.run _ _ _ _ hc h.invariant)
  | @resume m before after a q next x order hx =>
    obtain ⟨q', next', hrest, hnext⟩ := h.awaits ⟨a, .ask q next⟩ (by simp)
    cases hrest
    exact respects_proceed
      (hnext x m hx h.invariant (hp.refl m).1 fun _ => (hp.refl m).2)

/-- What any stretch may do is all that happens to the cursor from one moment to another. -/
theorem Sound.respects_of_reaches (hp : p.Sound offers) {l l' : Life}
    (hs : Life.Reaches ⟨false, offers, p.admits⟩ l l') (h : p.Orderly l) :
    p.respects l.moment l'.moment := by
  induction hs with
  | refl => exact (hp.refl _).1
  | tail hs hstep ih =>
    exact hp.respects_trans _ _ _ ih (hp.respects_step hstep (hp.orderly_of_reaches hs h))

/-! ## Stretches under way -/

/-- What stretches may do can be done one after the other. -/
structure Composable (p : Protocol) : Prop where
  respects : ∀ m₁ m₂ m₃, p.respects m₁ m₂ → p.respects m₂ m₃ → p.respects m₁ m₃
  spares : ∀ m₁ m₂ m₃, p.spares m₁ m₂ → p.spares m₂ m₃ → p.spares m₁ m₃

/-- What holds in a stretch, and what its activity counts on. -/
structure Abides (p : Protocol) (R : Moment → Prop) (absorbing : Bool) (w : Stretch) : Prop where
  invariant : p.invariant w.now
  respects : p.respects w.since w.now
  spares : absorbing = false → p.spares w.since w.now
  kept : R w.now

/-- A fact that an activity can count on while it waits. -/
def Stable (p : Protocol) (R : Moment → Prop) (absorbing : Bool) : Prop :=
  ∀ m m', p.respects m m' → (absorbing → p.spares m m') → R m → R m'

section
variable {R R' : Moment → Prop} {absorbing : Bool} {w : Stretch} {m : Moment}

/-- A stretch goes on with what the others permit. -/
theorem Abides.moved (hp : p.Composable) (h : p.Abides R absorbing w) (hi : p.invariant m)
    (hr : p.respects w.now m) (hs : absorbing = false → p.spares w.now m) (hR : R' m) :
    p.Abides R' absorbing ⟨w.since, m⟩ :=
  ⟨hi, hp.respects _ _ _ h.respects hr, fun ha => hp.spares _ _ _ (h.spares ha) (hs ha), hR⟩

/-- What an activity can count on is there when the answer comes. -/
theorem Abides.ask {q : Exchange} (hR : p.Stable R absorbing)
    (h : p.Abides R absorbing ⟨w.since, w.now.record (.asked q)⟩) :
    (p.environment absorbing).demands q w ∧
      ∀ x w', (p.environment absorbing).resumes q w x w' →
        p.admits q x ∧ ∃ m, p.invariant m ∧ R m ∧ w' = ⟨m, m.answer q x⟩ := by
  refine ⟨⟨h.invariant, h.respects, h.spares⟩, ?_⟩
  rintro x _ ⟨hx, m, hi, hr, hs, rfl⟩
  exact ⟨hx, m, hi, hR _ _ hr hs h.kept, rfl⟩

end

end Protocol

end DocumentClient.Cursor
