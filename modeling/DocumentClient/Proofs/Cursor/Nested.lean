/-
  Callers that run inside one another.

  While a caller waits for an exchange, others may run to their end, and so may
  others inside them.  `Discipline` collects what such callers owe to each other:
  an invariant whenever one of them waits, and a bound on what those that run
  meanwhile change.  `Discipline.Sound.rest_of_reaches`: if every activity, begun on a
  moment of rest, ends on one, and every other operation, begun while one waits, stays
  within the bound, then every life that runs down to no thread has come to a moment of
  rest.
-/
import DocumentClient.Proofs.Cursor.Life
import DocumentClient.Proofs.Program.Ensures

namespace DocumentClient.Cursor

open Program (Ensures Environment)

/-- What callers that run inside one another owe to each other. -/
structure Discipline where
  /-- What holds whenever a caller waits. -/
  invariant : Moment → Prop
  /-- What may change while a caller waits. -/
  tolerates : Moment → Moment → Prop
  /-- Which answers may come. -/
  admits : (q : Exchange) → Outcome q.Answer → Prop

namespace Discipline

/-- The environment of a caller. -/
def environment (d : Discipline) : Environment Moment where
  take n m := m.record (.noticed n)
  demands q m := d.invariant (m.record (.asked q))
  resumes q m x m' :=
    d.admits q x ∧ ∃ m₁, d.tolerates (m.record (.asked q)) m₁ ∧ m' = m₁.answer q x

/-- What a program run by a caller ensures. -/
abbrev Holds {α : Type} (d : Discipline) (Q : Outcome α → Moment → Prop) :
    Program Cursor α → Moment → Prop :=
  Ensures d.environment Moment.cell Q

/-- A thread waits, and will end in `Q`. -/
def Awaits (d : Discipline) (Q : Outcome Yield → Moment → Prop) (t : Thread) (m : Moment) : Prop :=
  ∃ q next, t.rest = .ask q next ∧ d.invariant m ∧
    ∀ x m₁, d.admits q x → d.tolerates m m₁ → d.Holds Q (next x) (m₁.answer q x)

/-- Threads wait inside one another, and the lowest will end on a moment of rest. -/
def Stacked (d : Discipline) (rest : Moment → Prop) : List Thread → Moment → Prop
  | [], m => rest m
  | t :: ts, m => d.Awaits (fun o m' => Stacked d rest ts (m'.record (.ended t.activity o))) t m

/-- What makes a discipline sound. -/
structure Sound (d : Discipline) (offers : Activity → Prop) (rest : Moment → Prop) : Prop where
  refl : ∀ m, d.tolerates m m
  trans : ∀ m₁ m₂ m₃, d.tolerates m₁ m₂ → d.tolerates m₂ m₃ → d.tolerates m₁ m₃
  keeps : ∀ m m', d.invariant m → d.tolerates m m' → d.invariant m'
  idle : ∀ m, d.invariant m → m.cursor.cleanups = []
  resting : ∀ m, rest m → d.invariant m
  /-- An operation that nothing else waits for. -/
  alone : ∀ a m, offers a → a.isOperation → rest m →
    d.Holds (fun o m' => rest (m'.record (.ended a o))) a.program (m.record (.begun a))
  /-- An operation that runs while another waits. -/
  inside : ∀ a m, offers a → a.isOperation → a.isRetrieval = false → d.invariant m →
    d.Holds (fun o m' => d.tolerates m (m'.record (.ended a o))) a.program (m.record (.begun a))

variable {d : Discipline} {offers : Activity → Prop} {rest : Moment → Prop}

theorem stacked_proceed {a : Activity} {ts : List Thread} {p : Program Cursor Yield} :
    ∀ {m : Moment}, d.Holds (fun o m' => d.Stacked rest ts (m'.record (.ended a o))) p m →
      d.Stacked rest (Life.proceed a ts p m).threads (Life.proceed a ts p m).moment := by
  induction p with
  | done outcome => intro m h; exact h
  | read next ih => intro m h; exact ih _ h
  | write c next ih => intro m h; exact ih h
  | note n next ih => intro m h; exact ih h
  | ask q next ih =>
    intro m h
    exact ⟨q, next, rfl, h.1, fun x m₁ hx ht => h.2 x _ ⟨hx, m₁, ht, rfl⟩⟩

theorem Sound.stacked_tolerates (hd : d.Sound offers rest) {t : Thread} {ts : List Thread}
    {m m' : Moment} (h : d.Stacked rest (t :: ts) m) (ht : d.tolerates m m') :
    d.Stacked rest (t :: ts) m' := by
  obtain ⟨q, next, hrest, hinv, hnext⟩ := h
  exact ⟨q, next, hrest, hd.keeps _ _ hinv ht,
    fun x m₁ hx h₁ => hnext x m₁ hx (hd.trans _ _ _ ht h₁)⟩

theorem Sound.invariant_of_stacked (hd : d.Sound offers rest) :
    ∀ {ts : List Thread} {m : Moment}, d.Stacked rest ts m → d.invariant m
  | [], _, h => hd.resting _ h
  | _ :: _, _, ⟨_, _, _, hinv, _⟩ => hinv

/-- One step keeps the threads stacked. -/
theorem Sound.stacked_step (hd : d.Sound offers rest) {l l' : Life}
    (hs : Life.Step ⟨true, offers, d.admits⟩ l l') (h : d.Stacked rest l.threads l.moment) :
    d.Stacked rest l'.threads l'.moment := by
  cases hs with
  | @call _ a hc =>
    refine stacked_proceed ?_
    rcases hl : l.threads with _ | ⟨t, ts⟩
    · rw [hl] at h
      exact hd.alone a _ hc.offered hc.operation h
    · rw [hl] at h
      have hr : a.isRetrieval = false := by
        rcases hr : a.isRetrieval with _ | _
        · rfl
        · have := hc.single hr
          simp [hl] at this
      exact Program.ensures_mono (fun o m' ht => hd.stacked_tolerates h ht)
        (hd.inside a _ hc.offered hc.operation hr (hd.invariant_of_stacked h))
  | run hc =>
    rw [hd.idle _ (hd.invariant_of_stacked h)] at hc
    simp at hc
  | @resume m before after a q next x order hx =>
    obtain rfl := order rfl
    obtain ⟨q', next', hrest, hinv, hnext⟩ := h
    cases hrest
    exact stacked_proceed (hnext x m hx (hd.refl m))

theorem Sound.stacked_of_reaches (hd : d.Sound offers rest) {l l' : Life}
    (hs : Life.Reaches ⟨true, offers, d.admits⟩ l l') (h : d.Stacked rest l.threads l.moment) :
    d.Stacked rest l'.threads l'.moment := by
  induction hs with
  | refl => exact h
  | tail _ hstep ih => exact hd.stacked_step hstep ih

/-- Lives with nested callers keep the invariant. -/
theorem Sound.invariant_of_reaches (hd : d.Sound offers rest) {l l' : Life}
    (hs : Life.Reaches ⟨true, offers, d.admits⟩ l l') (h : d.Stacked rest l.threads l.moment) :
    d.invariant l'.moment :=
  hd.invariant_of_stacked (hd.stacked_of_reaches hs h)

/-- **Lives with nested callers come to rest.** -/
theorem Sound.rest_of_reaches (hd : d.Sound offers rest) {l l' : Life}
    (hs : Life.Reaches ⟨true, offers, d.admits⟩ l l') (h : d.Stacked rest l.threads l.moment)
    (hl : l'.threads = []) : rest l'.moment := by
  have hst := hd.stacked_of_reaches hs h
  rwa [hl] at hst

end Discipline

end DocumentClient.Cursor
