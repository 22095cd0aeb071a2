/-
  Resources that are not released yet.

  Before a cursor counts its resources as released it has given none of them back: neither
  its source nor a connection that it was given (`unreleased_of_reaches`).  Connections that
  it leases are another matter.
-/
import DocumentClient.Proofs.Cursor.Balance

namespace DocumentClient.Cursor

open Program (Ensures Environment)

variable {s : Setup} {m : Moment} {w : Stretch} {absorbing : Bool}

/-- A cursor of a setup that has released nothing of its own as long as it does not say so. -/
structure Unreleased (s : Setup) (m : Moment) : Prop where
  setup : m.cursor.setup = s
  sources : m.cursor.released = false → ∀ source, m.sourceReleases source = 0
  connections : m.cursor.released = false → s.connection.isSome → ∀ id, m.releases id = 0

namespace Unreleased

theorem record (h : Unreleased s m) {i : Incident} (hs : ∀ source, i.releasesSource source = false)
    (hr : s.connection.isSome → ∀ id, i.releases id = false) : Unreleased s (m.record i) where
  setup := h.setup
  sources hreleased source := by
    rw [Moment.record_sourceReleases, hs, h.sources hreleased source]
    rfl
  connections hreleased hsome id := by
    rw [Moment.record_releases, hr hsome, h.connections hreleased hsome id]
    rfl

theorem put (h : Unreleased s m) {c : Cursor} (hsetup : c.setup = m.cursor.setup)
    (hreleased : c.released = m.cursor.released) : Unreleased s (m.put c) where
  setup := hsetup.trans h.setup
  sources hc := h.sources (hreleased.symm.trans hc)
  connections hc := h.connections (hreleased.symm.trans hc)

theorem settled (h : Unreleased s m) : Unreleased s m.settled where
  setup := by
    rw [Moment.settled_cursor]
    exact h.setup
  sources hreleased := by simp [Moment.settled_cursor] at hreleased
  connections hreleased := by simp [Moment.settled_cursor] at hreleased

end Unreleased

/-- Every activity keeps what is not released. -/
def hoarding (s : Setup) : Protocol where
  invariant := Unreleased s
  respects _ _ := True
  spares _ _ := True
  admits _ _ := True

/-- A program keeps what is not released. -/
abbrev Hoards {α : Type} (s : Setup) (absorbing : Bool) (p : Program Cursor α) : Prop :=
  Keeps ((hoarding s).environment absorbing) Stretch.cell (fun w => Unreleased s w.now) p

/-! ## Operations -/

theorem ask_unreleased (q : Exchange) (h : Unreleased s w.now) :
    ((hoarding s).environment absorbing).demands q w ∧
      ∀ x w', ((hoarding s).environment absorbing).resumes q w x w' → Unreleased s w'.now := by
  refine ⟨⟨h.record (fun _ => rfl) fun _ _ => rfl, trivial, fun _ => trivial⟩, ?_⟩
  rintro x _ ⟨-, m, hm, -, -, rfl⟩
  exact hm.record (fun _ => rfl) fun _ _ => rfl

theorem closable_unreleased : Closable ((hoarding s).environment absorbing) Stretch.cell
    (fun w => Unreleased s w.now) where
  ask q _ _ h := ask_unreleased q h
  log _ _ _ h := h.record (fun _ => rfl) fun _ _ => rfl
  giveBack _ _ _ h₀ hnone h := h.record (fun _ => rfl) fun hsome => by
    have hconnection : s.connection = none := (congrArg Setup.connection h₀.setup).symm.trans hnone
    simp [hconnection] at hsome
  forget _ h := h.put rfl rfl
  settle w h := by
    rw [settle_stretch]
    exact h.settled
  shut _ h := h.put rfl rfl
  schedule _ _ h := h.put rfl rfl
  interrupt _ _ h := h.put rfl rfl

theorem hoards_absorb (result : QueryResult) : Hoards s absorbing (absorb result) := by
  intro w h
  refine ensures_absorb fun w₁ hw₁ => ?_
  rcases hw₁ with rfl | ⟨message, rfl⟩
  · exact h.put rfl rfl
  · exact (h.record (i := .noticed (.log .info message)) (fun _ => rfl) fun _ _ => rfl).put rfl rfl

theorem hoards_fetchOver (target : ServerCursor) (x : Connection) :
    Hoards s absorbing (fetchOver target x) := by
  intro w h
  rw [fetchOver_eq]
  refine Program.ensures_bind.2 (ensures_requestBatch.2 (And.imp_right
    (fun hresumes a w' hw' => ?_) (ask_unreleased (fetchExchange w.now.cursor x target)
      (h.record (i := .noticed (fetchBegins w.now.cursor target)) (fun _ => rfl) fun _ _ => rfl))))
  have h' := hresumes a w' hw'
  split
  · exact keeps_follow (hoards_absorb _) (closable_unreleased.tended.keeps_killHeld _) _
      (h'.record (fun _ => rfl) fun _ _ => rfl)
  · exact h'

theorem hoards_fetch : Hoards s absorbing fetch :=
  closable_unreleased.tended.keeps_fetch fun target =>
    closable_unreleased.keeps_withConnection fun x => hoards_fetchOver target x

theorem retrievable_unreleased : Retrievable ((hoarding s).environment absorbing) Stretch.cell
    (fun w => Unreleased s w.now) where
  fetch w h _ := hoards_fetch w h
  wait w h _ := closable_unreleased.keeps_waitBeforeRetry (fun _ _ h => h.put rfl rfl) w h

theorem hoards_takeBatch : Hoards s absorbing takeBatch := by
  intro w h
  refine ensures_takeBatch.2 ?_
  split
  · exact h
  · exact h.put rfl rfl

theorem operable_unreleased (a : Activity) : Operable ((hoarding s).environment absorbing)
    Stretch.cell (fun w => Unreleased s w.now) a where
  retrieve _ := retrievable_unreleased
  take _ := hoards_takeBatch
  close loopRuns _ := closable_unreleased.tended.keeps_close loopRuns
  interrupt _ h := h.put rfl rfl
  resize _ _ h := h.put rfl rfl

theorem hoards_program (a : Activity) : Hoards s absorbing a.program := by
  cases a with
  | opening first loopRuns =>
    exact keeps_bind (fun w h => closable_unreleased.tended.ensures_start (hoards_absorb first w h))
      fun _ => keeps_pure _
  | cleanup target =>
    exact keeps_bind (closable_unreleased.keeps_cleanup target) fun _ => keeps_pure _
  | _ => exact (operable_unreleased _).keeps_program rfl

/-! ## Lives -/

theorem behaves_of_unreleased {since : Moment} (a : Activity) (h : Unreleased s m) :
    (hoarding s).Behaves a ⟨since, m⟩ a.program :=
  Program.ensures_mono (fun _ _ h' =>
    ⟨h'.record (fun _ => rfl) fun _ _ => rfl, trivial, fun _ => trivial⟩)
    (hoards_program a ⟨since, m⟩ h)

theorem sound_hoarding : (hoarding s).Sound fun _ => True where
  refl _ := ⟨trivial, trivial⟩
  respects_trans _ _ _ _ _ := trivial
  spares_trans _ _ _ _ _ := trivial
  call a _ _ _ h := behaves_of_unreleased a (h.record (fun _ => rfl) fun _ _ => rfl)
  run m before target after _ h := by
    have hput : Unreleased s (m.put { m.cursor with cleanups := before ++ after }) :=
      h.put rfl rfl
    exact behaves_of_unreleased (.cleanup target) (hput.record (fun _ => rfl) fun _ _ => rfl)

/-- **What a cursor has not released it still has.** -/
theorem unreleased_of_reaches {c : Cursor} {first : QueryResult} {loopRuns : Bool} {l : Life}
    (hl : Life.Reaches anyOrder (Life.opening c first loopRuns) l) :
    Unreleased c.setup l.moment := by
  have hnew : Unreleased c.setup ⟨c, []⟩ := ⟨rfl, fun _ _ => rfl, fun _ _ _ => rfl⟩
  exact sound_hoarding.invariant_of_reaches hl (Protocol.orderly_opening
    (behaves_of_unreleased (.opening first loopRuns) (hnew.record (fun _ => rfl) fun _ _ => rfl)))

end DocumentClient.Cursor
