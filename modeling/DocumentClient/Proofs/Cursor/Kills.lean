/-
  The kills of a cursor, in a whole life.

  The ledger tells what becomes of the server cursor; here it is set against what the
  history tells of kills.  A kill begins with a record of it, and then it is requested, or
  the connection for it is refused.  `charges` adds up the kills that have begun, less
  those that were requested or given up without a connection; no activity is ever in the
  red.  `pursuits` adds up what was tried since a kill had begun, less the kills; at rest
  nothing is left to be tried.

  `kills_of_reaches`: there is one kill at most, of the server cursor that was given up
  alive, and none if it ended or was dropped.
-/
import DocumentClient.Proofs.Cursor.Conduct
import DocumentClient.Proofs.Cursor.Shares

namespace DocumentClient.Cursor

open Program (Ensures Environment)

/-! ## Kills in a history -/

/-- Whether a lease was refused. -/
def Incident.refuses : Incident → Bool
  | .answered (.lease _) (.error _) _ => true
  | _ => false

/-- Whether a history ends with the refusal of a lease, releases apart. -/
def refusedLast : List Incident → Bool
  | .noticed (.releaseConnection _) :: history => refusedLast history
  | .noticed (.releaseSource _) :: history => refusedLast history
  | i :: _ => i.refuses
  | [] => false

/-- Whether a kill is given up because the connection for it was refused: the failure is recorded
    or, where it is no ordinary one, ends the scheduled kill.  Nobody else acts between an answer
    and what is made of it, so the lease that was refused is the one for the kill. -/
def Incident.abandons (i : Incident) (history : List Incident) : Bool :=
  match i with
  | .noticed n => isKillFailure n && refusedLast history
  | .ended (.cleanup _) (.error _) => refusedLast history
  | _ => false

/-- Whether a kill is requested, or given up without a connection, after a kill has begun. -/
def Incident.pursues (i : Incident) (history : List Incident) : Bool :=
  (i.requestsKill || i.abandons history) && history.any Incident.attempts

/-- How many kills were given up because the connection for them was refused. -/
def abandoned : List Incident → Nat
  | [] => 0
  | i :: history => abandoned history + if i.abandons history then 1 else 0

/-- How often a kill was requested, or given up without a connection, after a kill had begun. -/
def pursued : List Incident → Nat
  | [] => 0
  | i :: history => pursued history + if i.pursues history then 1 else 0

theorem exists_of_refusedLast {history : List Incident} (h : refusedLast history) :
    ∃ i ∈ history, i.refuses := by
  fun_induction refusedLast history with
  | case1 x history ih =>
    obtain ⟨i, hi, hrefuses⟩ := ih h
    exact ⟨i, List.mem_cons_of_mem _ hi, hrefuses⟩
  | case2 s history ih =>
    obtain ⟨i, hi, hrefuses⟩ := ih h
    exact ⟨i, List.mem_cons_of_mem _ hi, hrefuses⟩
  | case3 i history => exact ⟨i, List.mem_cons_self .., h⟩
  | case4 => simp at h

/-- Only after a refusal a kill is given up for it. -/
theorem exists_of_abandons {i : Incident} {history : List Incident} (h : i.abandons history) :
    ∃ j ∈ history, j.refuses := by
  refine exists_of_refusedLast ?_
  unfold Incident.abandons at h
  split at h
  · exact (Bool.and_eq_true_iff.1 h).2
  · exact h
  · simp at h

/-- A kill that has failed is given up if the last answer was a refusal. -/
theorem abandons_killFails (target : ServerCursor) (e : Failure) (history : List Incident) :
    (Incident.noticed (killFails target e)).abandons history = refusedLast history := by
  simp [Incident.abandons]

/-- How many kills were requested. -/
def Moment.killRequests (m : Moment) : Nat := m.history.countP Incident.requestsKill

theorem exists_of_pursued {history : List Incident} (h : 0 < pursued history) :
    ∃ later i earlier, history = later ++ i :: earlier ∧ (i.requestsKill ∨ i.abandons earlier) ∧
      0 < earlier.countP Incident.attempts := by
  induction history with
  | nil => simp [pursued] at h
  | cons i history ih =>
    by_cases hi : i.pursues history = true
    · simp only [Incident.pursues, Bool.and_eq_true, Bool.or_eq_true, List.any_eq_true] at hi
      obtain ⟨hi, j, hj, hattempts⟩ := hi
      exact ⟨[], i, history, rfl, hi, List.countP_pos_iff.2 ⟨j, hj, hattempts⟩⟩
    · rw [pursued, if_neg hi] at h
      obtain ⟨later, j, earlier, rfl, hj⟩ := ih h
      exact ⟨i :: later, j, earlier, rfl, hj⟩

/-- A plain incident neither begins a kill nor requests one nor gives one up. -/
theorem kills_nothing_of_isPlain {i : Incident} (hi : i.isPlain) :
    i.attempts = false ∧ i.requestsKill = false ∧ ∀ history, i.abandons history = false := by
  cases i with
  | asked q =>
    cases q with
    | killCursors x ns ids => simp [Incident.isPlain] at hi
    | _ => exact ⟨rfl, rfl, fun _ => rfl⟩
  | noticed n =>
    cases n with
    | log level message =>
      simp only [Incident.isPlain, Bool.and_eq_true, Bool.not_eq_true'] at hi
      exact ⟨hi.1, rfl, fun _ => Bool.and_eq_false_imp.2 fun h => absurd h (by simp [hi.2])⟩
    | _ => exact ⟨rfl, rfl, fun _ => rfl⟩
  | ended a o =>
    cases a with
    | cleanup target =>
      cases o with
      | error e => simp [Incident.isPlain] at hi
      | ok y => exact ⟨rfl, rfl, fun _ => rfl⟩
    | _ => exact ⟨rfl, rfl, fun _ => rfl⟩
  | _ => exact ⟨rfl, rfl, fun _ => rfl⟩

/-! ## Charges -/

/-- Sums that are no debt. -/
def gains : AddSubmonoid Int where
  carrier := {k | 0 ≤ k}
  add_mem' := Int.add_nonneg
  zero_mem' := Int.le_refl 0

/-- A plain fund without debts is sound as its kills are: a fetch that leases a connection of its
    own runs into none, where neither the lease nor its release costs anything. -/
theorem Fund.Plain.sound_of_gains {f : Fund} {r : Regime} (hf : f.Plain) (hrest : f.rest = gains)
    (hallows : ∀ k, 0 ≤ k → f.allows k)
    (hkill : ∀ target x,
      Keeps (f.environment r) Share.cell (f.Keeping (0 ≤ ·)) (killCursor target (some x)))
    (hown : f.setup.mode = .blocking → ∀ target,
      Keeps (f.environment r) Share.cell (f.Keeping (0 ≤ ·)) (killCursor target none))
    (hcleanup : ∀ target w, f.Keeping (0 ≤ ·) w →
      f.Settles r (.cleanup target) (Activity.cleanup target).program w)
    (hlease : ∀ s a wasOpen history, 0 ≤ f.weigh (.answered (.lease s) a wasOpen) history)
    (hback : ∀ x history, 0 ≤ f.weigh (.noticed (.releaseConnection x)) history) :
    f.Sound r := by
  have hkeeping : f.Keeping (· ∈ f.rest) = f.Keeping (0 ≤ ·) := by
    rw [hrest]
    rfl
  refine hf.sound (fun k hk => hallows k ?_) (hkeeping ▸ hkill) (hkeeping ▸ hown)
    (hkeeping ▸ hcleanup) (hkeeping ▸ fun target => ?_)
  · rw [hrest] at hk
    exact hk
  · exact hf.keeps_withConnection hallows
      (hf.keeps_fetchOver (hf.tended hkill hown) hallows target)
      (fun _ _ hk hx => Int.add_nonneg hk hx) hlease hback

/-- Kills that have begun, less those that were requested or given up. -/
def charges (setup : Setup) : Fund where
  setup := setup
  weigh i history := (if i.attempts then 1 else 0)
    - (if i.requestsKill || i.abandons history then 1 else 0)
  rest := gains
  allows k := 0 ≤ k

section
variable {setup : Setup} {r : Regime} {target : ServerCursor} {w : Share}

theorem total_charges (history : List Incident) : (charges setup).total history =
    history.countP Incident.attempts
      - (history.countP Incident.requestsKill + abandoned history : Int) := by
  induction history with
  | nil => rfl
  | cons i history ih =>
    have hexclusive : ¬ (i.requestsKill = true ∧ i.abandons history = true) := by
      rintro ⟨hrequests, habandons⟩
      cases i with
      | asked q => simp [Incident.abandons] at habandons
      | _ => simp [Incident.requestsKill] at hrequests
    rw [Fund.total, ih, List.countP_cons, List.countP_cons, abandoned]
    simp only [charges]
    rcases i.attempts with _ | _ <;> rcases hq : i.requestsKill with _ | _ <;>
      rcases ha : i.abandons history with _ | _ <;> simp [hq, ha] at hexclusive ⊢ <;> omega

theorem plain_charges : (charges setup).Plain where
  weigh i history hi := by
    obtain ⟨hattempts, hrequests, habandons⟩ := kills_nothing_of_isPlain hi
    simp [charges, hattempts, hrequests, habandons]
  due _ _ _ := rfl

/-- After a kill was charged, and before; a connection may have been refused just now. -/
def Charged (setup : Setup) (w : Share) : Prop :=
  (charges setup).Keeping (0 ≤ ·) w ∧ (refusedLast w.now.history → 1 ≤ w.own)

theorem Charged.released (h : Charged setup w) {n : Notice}
    (hweigh : (charges setup).weigh (.noticed n) w.now.history = 0)
    (hrefused : refusedLast (.noticed n :: w.now.history) = refusedLast w.now.history) :
    Charged setup (w.enter (charges setup) (.noticed n)) := by
  refine ⟨Fund.keeping_of_weigh hweigh h.1, fun hr => ?_⟩
  rw [Share.enter_own, hweigh, Int.add_zero]
  exact h.2 (hrefused.symm.trans hr)

theorem killable_charges : Killable ((charges setup).environment r) Share.cell
    ((charges setup).Keeping (1 ≤ ·)) (Charged setup) (fun _ => True) target where
  lease source w h := by
    have hasked := plain_charges.keeping (i := .asked (.lease source)) rfl h
    have hallowed : 0 ≤ (w.enter (charges setup) (.asked (.lease source))).own :=
      Int.le_trans (by decide) hasked.2
    refine ⟨⟨h.1, hallowed⟩, ?_⟩
    rintro a _ ⟨-, m, hm, -, rfl⟩
    have hanswered : (charges setup).Keeping (1 ≤ ·) (Share.enter (charges setup)
        (.answered (.lease source) a (!m.cursor.closed))
        ⟨m, (w.enter (charges setup) (.asked (.lease source))).own⟩) :=
      Fund.keeping_of_weigh rfl ⟨hm, hasked.2⟩
    rcases a with e | x
    · exact ⟨⟨⟨hm, Int.le_trans (by decide) hanswered.2⟩, fun _ => hanswered.2⟩, trivial⟩
    · exact hanswered
  send x ns w h := by
    have hasked : (charges setup).weigh (.asked (.killCursors x ns [target.id])) w.now.history
        = -1 := rfl
    have hallowed : 0 ≤ (w.enter (charges setup) (.asked (.killCursors x ns [target.id]))).own := by
      rw [Share.enter_own, hasked]
      have : 1 ≤ w.own := h.2
      omega
    refine ⟨⟨h.1, hallowed⟩, ?_⟩
    rintro a _ ⟨-, m, hm, -, rfl⟩
    have hanswered := plain_charges.keeping (K := (0 ≤ ·))
      (i := .answered (.killCursors x ns [target.id]) a (!m.cursor.closed)) rfl
      (w := ⟨m, (w.enter (charges setup) (.asked (.killCursors x ns [target.id]))).own⟩)
      ⟨hm, hallowed⟩
    exact ⟨⟨hanswered, fun hr => absurd hr Bool.false_ne_true⟩, fun _ _ => trivial⟩
  fails e w h := by
    refine ⟨⟨h.1.1, ?_⟩, fun hr => absurd hr Bool.false_ne_true⟩
    change 0 ≤ (w.enter (charges setup) (.noticed (killFails target e))).own
    have hweigh : (charges setup).weigh (.noticed (killFails target e)) w.now.history
        = -if refusedLast w.now.history then 1 else 0 := by
      simp [charges, Incident.attempts, Incident.requestsKill, abandons_killFails]
    rw [Share.enter_own, hweigh]
    have hown : 0 ≤ w.own := h.1.2
    split
    · rename_i hrefused
      have := h.2 hrefused
      omega
    · omega
  back x w h := h.released rfl rfl
  noSource w h _ _ := by
    have hown : 1 ≤ w.own := h.2
    exact ⟨⟨⟨h.1, Int.le_trans (by decide) hown⟩, fun _ => hown⟩, trivial⟩

theorem ensures_charges_killCursor (target : ServerCursor) (given : Option Connection)
    (h : (charges setup).Keeping (0 ≤ ·) w) :
    Ensures ((charges setup).environment r) Share.cell (fun _ w' => Charged setup w')
      (killCursor target given) w := by
  refine Program.ensures_mono (fun o w' h' => h'.1)
    (killable_charges.ensures_killCursor given (w := w) ⟨h.1, ?_⟩)
  change 1 ≤ (w.enter (charges setup) (.noticed (killBegins w.now.cursor.mode target))).own
  have hweigh : (charges setup).weigh (.noticed (killBegins w.now.cursor.mode target))
      w.now.history = 1 := by
    have habandons : (Incident.noticed (killBegins w.now.cursor.mode target)).abandons
        w.now.history = false := rfl
    simp [charges, Incident.attempts, Incident.requestsKill, habandons]
  have hown : 0 ≤ w.own := h.2
  rw [Share.enter_own, hweigh]
  omega

theorem keeps_charges_killCursor (target : ServerCursor) (given : Option Connection) :
    Keeps ((charges setup).environment r) Share.cell ((charges setup).Keeping (0 ≤ ·))
      (killCursor target given) :=
  fun _ h => Program.ensures_mono (fun _ _ h' => h'.1) (ensures_charges_killCursor target given h)

/-- A scheduled kill that is given up when it ends was charged. -/
theorem settles_charges_cleanup (target : ServerCursor)
    (h : (charges setup).Keeping (0 ≤ ·) w) :
    (charges setup).Settles r (.cleanup target) (Activity.cleanup target).program w := by
  refine Fund.settles_cleanup (ensures_charges_killCursor target none h) (fun _ _ h₁ => ?_)
    fun o w₁ h₁ => ⟨h₁.1.1, ?_⟩
  · exact settle_of_releases (P := Charged setup) (fun _ _ h => h.released rfl rfl)
      (fun _ _ h => h.released rfl rfl) (fun _ h => h) h₁
  · have hown : 0 ≤ w₁.own := h₁.1.2
    change 0 ≤ (w₁.enter (charges setup) (.ended (.cleanup target) _)).own
    rw [Share.enter_own]
    rcases o with e | _
    · have hweigh : (charges setup).weigh (.ended (.cleanup target) (.error e)) w₁.now.history
          = -if refusedLast w₁.now.history then 1 else 0 := by
        simp [charges, Incident.attempts, Incident.requestsKill, Incident.abandons]
      change 0 ≤ w₁.own + (charges setup).weigh (.ended (.cleanup target) (.error e)) _
      rw [hweigh]
      split
      · rename_i hrefused
        have := h₁.2 hrefused
        omega
      · omega
    · exact Int.add_nonneg hown (Int.le_refl 0)

theorem sound_charges : (charges setup).Sound r :=
  plain_charges.sound_of_gains rfl (fun _ hk => hk)
    (fun target x => keeps_charges_killCursor target (some x))
    (fun _ target => keeps_charges_killCursor target none)
    (fun target _ h => settles_charges_cleanup target h) (fun _ _ _ _ => Int.le_refl 0)
    fun _ _ => Int.le_refl 0

end

/-! ## Pursuits -/

/-- What was tried since a kill had begun, less the kills that have begun. -/
def pursuits (setup : Setup) : Fund where
  setup := setup
  weigh i history := (if i.pursues history then 1 else 0) - (if i.attempts then 1 else 0)
  rest := gains
  allows _ := True

section
variable {setup : Setup} {r : Regime} {target : ServerCursor} {w : Share}

theorem total_pursuits (history : List Incident) : (pursuits setup).total history =
    pursued history - (history.countP Incident.attempts : Int) := by
  induction history with
  | nil => rfl
  | cons i history ih =>
    rw [Fund.total, ih, List.countP_cons, pursued]
    simp only [pursuits]
    rcases i.attempts with _ | _ <;> rcases i.pursues history with _ | _ <;> simp <;> omega

theorem plain_pursuits : (pursuits setup).Plain where
  weigh i history hi := by
    obtain ⟨hattempts, hrequests, habandons⟩ := kills_nothing_of_isPlain hi
    simp [pursuits, Incident.pursues, hattempts, hrequests, habandons]
  due _ _ _ := rfl

/-- A kill has begun, and nothing more may have been tried. -/
def Begun (setup : Setup) (w : Share) : Prop :=
  (pursuits setup).Keeping (-1 ≤ ·) w ∧ w.now.history.any Incident.attempts

theorem any_of_suffix {history later : List Incident} (h : history <:+ later)
    (ha : history.any Incident.attempts) : later.any Incident.attempts := by
  obtain ⟨i, hi, hattempts⟩ := List.any_eq_true.1 ha
  exact List.any_eq_true.2 ⟨i, h.subset hi, hattempts⟩

/-- What does not count leaves it at that. -/
theorem Begun.enter (h : Begun setup w) {i : Incident}
    (hi : (pursuits setup).weigh i w.now.history = 0) :
    Begun setup (w.enter (pursuits setup) i) :=
  ⟨Fund.keeping_of_weigh hi h.1, any_of_suffix (List.suffix_cons ..) h.2⟩

/-- A kill is requested, or given up. -/
theorem Begun.pursued (h : Begun setup w) {i : Incident} (hattempts : i.attempts = false)
    (hi : i.requestsKill || i.abandons w.now.history) :
    (pursuits setup).Keeping (0 ≤ ·) (w.enter (pursuits setup) i) := by
  refine ⟨h.1.1, ?_⟩
  have hpursues : i.pursues w.now.history = true := Bool.and_eq_true_iff.2 ⟨hi, h.2⟩
  have hweigh : (pursuits setup).weigh i w.now.history = 1 := by
    simp [pursuits, hpursues, hattempts]
  have hown : -1 ≤ w.own := h.1.2
  rw [Share.enter_own, hweigh]
  omega

/-- So it is after the record with which a kill begins. -/
theorem begun_of_keeping (h : (pursuits setup).Keeping (0 ≤ ·) w) :
    Begun setup (w.enter (pursuits setup) (.noticed (killBegins w.now.cursor.mode target))) := by
  refine ⟨⟨h.1, ?_⟩, List.any_eq_true.2 ⟨_, List.mem_cons_self .., isKillRecord_killBegins _ _⟩⟩
  have habandons : (Incident.noticed (killBegins w.now.cursor.mode target)).abandons
      w.now.history = false := rfl
  have hweigh : (pursuits setup).weigh (.noticed (killBegins w.now.cursor.mode target))
      w.now.history = -1 := by
    simp [pursuits, Incident.pursues, Incident.requestsKill, Incident.attempts, habandons]
  rw [Share.enter_own, hweigh]
  exact Int.add_le_add_right h.2 (-1)

theorem sendable_pursuits : Sendable ((pursuits setup).environment r) (Begun setup)
    ((pursuits setup).Keeping (0 ≤ ·)) (fun _ => True) target where
  send x ns w h := by
    refine ⟨⟨h.1.1, trivial⟩, ?_⟩
    rintro a _ ⟨-, m, hm, -, rfl⟩
    have hasked := h.pursued (i := .asked (.killCursors x ns [target.id])) rfl rfl
    exact ⟨plain_pursuits.keeping (K := (0 ≤ ·))
      (i := .answered (.killCursors x ns [target.id]) a (!m.cursor.closed)) rfl ⟨hm, hasked.2⟩,
      fun _ _ => trivial⟩
  fails e w h := by
    refine ⟨h.1, Int.add_nonneg h.2 ?_⟩
    simp only [pursuits, Incident.attempts, isKillRecord_killFails]
    split <;> simp
  back x w h := Fund.keeping_of_weigh rfl h

/-- A kill has begun, and the connection for it was refused. -/
def Denied (setup : Setup) (w : Share) : Prop := Begun setup w ∧ refusedLast w.now.history

/-- What a kill comes to for which a connection has to be leased: it was requested, or the lease
    was refused. -/
def Sent (setup : Setup) (r : Regime) (o : Outcome Unit) (w : Share) : Prop :=
  (pursuits setup).Keeping (0 ≤ ·) w ∨
    Denied setup w ∧ ∃ e, o = .error e ∧ ∃ s, r.admits (.lease s) (.error e)

theorem ensures_sent (hsource : setup.source.isSome) {ns : Namespace} (h : Begun setup w) :
    Ensures ((pursuits setup).environment r) Share.cell (Sent setup r)
      (sendKill ns target none) w := by
  have hsendable : Sendable ((pursuits setup).environment r) (Begun setup)
      ((pursuits setup).Keeping (0 ≤ ·)) (fun _ => True) target := sendable_pursuits
  unfold sendKill
  refine ensures_withConnection.2 ?_
  split
  · exact Program.ensures_mono (fun _ _ h' => .inl h'.1) (hsendable.send _ ns w h)
  · rename_i hnone
    have heq : setup.source = w.now.cursor.source := (congrArg Setup.source h.1.1).symm
    rw [heq, show w.now.cursor.source = none from hnone] at hsource
    simp at hsource
  · rename_i handle _ _
    refine ⟨⟨h.1.1, trivial⟩, ?_⟩
    have hasked := h.enter (i := .asked (.lease handle.resource)) rfl
    rintro a _ ⟨hadmits, m, hm, hsuffix, rfl⟩
    have hwaited : Begun setup
        ⟨m, (w.enter (pursuits setup) (.asked (.lease handle.resource))).own⟩ :=
      ⟨⟨hm, hasked.1.2⟩, any_of_suffix hsuffix hasked.2⟩
    have hanswered := hwaited.enter
      (i := .answered (.lease handle.resource) a (!m.cursor.closed)) rfl
    rcases a with e | x
    · exact .inr ⟨⟨hanswered, rfl⟩, e, rfl, _, hadmits⟩
    · exact Program.ensures_mono (fun _ w' h' => .inl (hsendable.back x w' h'.1))
        (hsendable.send x ns _ hanswered)

/-- Such a kill is over, unless the refusal was no ordinary failure. -/
theorem ensures_pursuits_killCursor (hsource : setup.source.isSome) (target : ServerCursor)
    (h : (pursuits setup).Keeping (0 ≤ ·) w) :
    Ensures ((pursuits setup).environment r) Share.cell
      (fun o w' => (pursuits setup).Keeping (0 ≤ ·) w' ∨ Denied setup w' ∧
        ∃ e, o = .error e ∧ e.isOrdinary = false ∧ ∃ s, r.admits (.lease s) (.error e))
      (killCursor target none) w := by
  refine ensures_killCursor.2
    (Program.ensures_mono ?_ (ensures_sent hsource (begun_of_keeping h)))
  rintro (e | _) w' (hkept | ⟨hdenied, e', he', hadmits⟩)
  · dsimp only
    split
    · exact .inl (sendable_pursuits.fails e w' hkept)
    · exact .inl hkept
  · obtain rfl := Except.error.inj he'
    dsimp only
    split
    · refine .inl (hdenied.1.pursued (i := .noticed (killFails target e)) rfl ?_)
      rw [abandons_killFails, hdenied.2, Bool.or_true]
    · rename_i hordinary
      exact .inr ⟨hdenied, e, rfl, eq_false_of_ne_true hordinary, hadmits⟩
  · exact .inl hkept
  · cases he'

/-- A scheduled kill is given up at the latest when it ends. -/
theorem settles_pursuits_cleanup (hsource : setup.source.isSome) (target : ServerCursor)
    (h : (pursuits setup).Keeping (0 ≤ ·) w) :
    (pursuits setup).Settles r (.cleanup target) (Activity.cleanup target).program w := by
  refine Fund.settles_cleanup (S := fun o w => (pursuits setup).Keeping (0 ≤ ·) w ∨
    Denied setup w ∧ ∃ e, o = .error e) ?_ ?_ ?_
  · refine Program.ensures_mono (fun o w' h' => h'.imp_right ?_)
      (ensures_pursuits_killCursor hsource target h)
    rintro ⟨hdenied, e, he, -⟩
    exact ⟨hdenied, e, he⟩
  · intro o w' h'
    refine h'.imp plain_pursuits.settle (And.imp_left fun hdenied => ?_)
    exact settle_of_releases (P := Denied setup) (fun _ _ h => ⟨h.1.enter rfl, h.2⟩)
      (fun _ _ h => ⟨h.1.enter rfl, h.2⟩) (fun _ h => h) hdenied
  · rintro o w' (hkept | ⟨hdenied, e, rfl⟩)
    · refine ⟨hkept.1, Int.add_nonneg hkept.2 ?_⟩
      simp only [pursuits, Incident.attempts]
      split <;> simp
    · exact hdenied.1.pursued rfl (Bool.or_eq_true_iff.2 (.inr hdenied.2))

/-- Kills are pursued where a blocking cursor meets with ordinary failures only. -/
theorem sound_pursuits (hsource : setup.source.isSome) (hordinary : setup.mode = .blocking →
      ∀ s e, r.admits (.lease s) (.error e) → e.isOrdinary) : (pursuits setup).Sound r := by
  refine plain_pursuits.sound_of_gains rfl (fun _ _ => trivial) ?_ ?_
    (fun target w h => settles_pursuits_cleanup hsource target h) (fun _ _ _ _ => Int.le_refl 0)
    fun _ _ => Int.le_refl 0
  · intro target x w h
    exact Program.ensures_mono (fun _ _ h' => h'.1)
      (sendable_pursuits.ensures_killCursor_over x (begun_of_keeping h))
  · intro hmode target w h
    refine Program.ensures_mono (fun o w' h' => ?_) (ensures_pursuits_killCursor hsource target h)
    rcases h' with hkept | ⟨-, e, -, hnot, s, hadmits⟩
    · exact hkept
    · simp [hordinary hmode s e hadmits] at hnot

end

/-! ## Whole lives -/

/-- What is true of the kills of a cursor. -/
structure Disposed (mode : Mode) (plan : Plan) (l : Life) : Prop where
  /-- The cursor holds the server cursor that is held, and no other. -/
  held : ∀ target, (ledger plan l.moment.history).standing = .held target ↔
    l.moment.cursor.progress.serverCursor = some target
  /-- One kill begins at most. -/
  once : l.moment.attempts ≤ 1
  /-- It is requested, or given up since no connection is to be had for it, once at most. -/
  within : l.moment.killRequests + abandoned l.moment.history ≤ l.moment.attempts
  /-- A kill that begins is of a server cursor that was given up alive. -/
  begun : ∀ later n earlier, l.moment.history = later ++ .noticed n :: earlier → isKillRecord n →
    ∃ target, (ledger plan earlier).standing = .doomed target ∧ n = killBegins mode target
  /-- So is one that is requested, and it names no other. -/
  requested : ∀ later x ns ids earlier,
    l.moment.history = later ++ .asked (.killCursors x ns ids) :: earlier →
    ∃ target, (ledger plan earlier).standing = .doomed target ∧ ids = [target.id]
  /-- Where a server cursor was given up alive a kill has begun or, on a running loop, is
      scheduled. -/
  doomed : ∀ target, (ledger plan l.moment.history).standing = .doomed target →
    l.moment.attempts = 1 ∧ l.moment.cursor.cleanups = [] ∨
      mode = .async ∧ l.moment.attempts = 0 ∧ l.moment.cursor.cleanups = [target]
  /-- At rest a kill that has begun was then requested, or given up since the connection for it
      was refused. -/
  tried : l.threads = [] → 0 < l.moment.attempts →
    ∃ later i earlier, l.moment.history = later ++ i :: earlier ∧
      (i.requestsKill ∨ i.abandons earlier) ∧ 0 < earlier.countP Incident.attempts
  /-- Nothing is killed while it is held. -/
  kept : (ledger plan l.moment.history).isHeld = true →
    l.moment.attempts = 0 ∧ l.moment.cursor.cleanups = []
  /-- Nothing is killed, then or later, once the server cursor has ended or was dropped. -/
  gone : ∀ later earlier, l.moment.history = later ++ earlier →
    (ledger plan earlier).standing = .gone →
    l.moment.attempts = 0 ∧ l.moment.cursor.cleanups = []
  /-- A retrieval that was called after a kill fetches nothing. -/
  quiet : ∀ later q during a earlier,
    l.moment.history = later ++ .asked q :: (during ++ .begun a :: earlier) → a.isRetrieval →
    isFetch q → earlier.countP Incident.attempts = 0

section
variable {mode : Mode} {plan : Plan} {c : Cursor} {l : Life}

/-- The latest retrieval was called no earlier than another. -/
theorem suffix_untilCall {a : Activity} (ha : a.isRetrieval) (during earlier : List Incident) :
    earlier <:+ untilCall (during ++ .begun a :: earlier) := by
  induction during with
  | nil => exact ⟨[], (untilCall_begun ha).symm⟩
  | cons i during ih =>
    rcases hi : i.begins Activity.isRetrieval with _ | _
    · rw [List.cons_append, untilCall_cons hi]
      exact ih
    · have hlatest : untilCall (i :: (during ++ .begun a :: earlier))
          = during ++ .begun a :: earlier := by
        simp [untilCall, hi]
      rw [List.cons_append, hlatest]
      exact (List.suffix_cons ..).trans (List.suffix_append ..)

theorem Reckoning.Agrees.attempts_le (h : Reckoning.Agrees mode plan l.moment) :
    l.moment.attempts ≤ 1 := by
  have ht := h.tallies
  rcases hs : (ledger plan l.moment.history).standing with _ | target | target
  · rw [hs] at ht
    rw [Reckoning.Bygone.attempts ht]
    decide
  · rw [(h.holding hs).attempts]
    decide
  · rw [hs] at ht
    rcases Reckoning.Killing.tried ht with ⟨hone, -⟩ | ⟨-, hnone, -⟩ <;> omega

/-- Only what was given up alive is killed, and there was a source for that. -/
theorem Reckoning.Agrees.sourced (h : Reckoning.Agrees mode plan l.moment)
    (ha : 0 < l.moment.attempts) : plan.source.isSome := by
  have ht := h.tallies
  rcases hs : (ledger plan l.moment.history).standing with _ | target | target
  · rw [hs] at ht
    have := Reckoning.Bygone.attempts ht
    omega
  · have := (h.holding hs).attempts
    omega
  · rw [hs] at ht
    exact Reckoning.Killing.sourced ht

/-- What was given up alive has been killed, or will be. -/
theorem Reckoning.Agrees.doomed (h : Reckoning.Agrees mode plan l.moment) {target : ServerCursor}
    (hs : (ledger plan l.moment.history).standing = .doomed target) :
    l.moment.attempts = 1 ∧ l.moment.cursor.cleanups = [] ∨
      mode = .async ∧ l.moment.attempts = 0 ∧ l.moment.cursor.cleanups = [target] := by
  have ht := h.tallies
  rw [hs] at ht
  exact Reckoning.Killing.tried ht

/-- What has ended is never killed. -/
theorem Reckoning.Agrees.gone (h : Reckoning.Agrees mode plan l.moment)
    {later earlier : List Incident} (heq : l.moment.history = later ++ earlier)
    (hgone : (ledger plan earlier).standing = .gone) :
    l.moment.attempts = 0 ∧ l.moment.cursor.cleanups = [] := by
  have hnow : (ledger plan l.moment.history).standing = .gone := by
    have hearlier : (ledger plan earlier).isHeld = false := by simp [Ledger.isHeld, hgone]
    have halike := ledger_append_of_not_held hearlier later
    rw [heq, halike.standing, hgone]
  have ht := h.tallies
  rw [hnow] at ht
  exact ⟨Reckoning.Bygone.attempts ht, Reckoning.Bygone.cleanups ht⟩

/-- A kill that is requested is of what was given up alive. -/
theorem Reckoning.Agrees.requested (h : Reckoning.Agrees mode plan l.moment)
    {later earlier : List Incident} {x : Connection} {ns : Namespace} {ids : List Int}
    (heq : l.moment.history = later ++ .asked (.killCursors x ns ids) :: earlier) :
    ∃ target, (ledger plan earlier).standing = .doomed target ∧ ids = [target.id] := by
  have hconducted := h.conducted
  rw [heq] at hconducted
  exact hconducted.of_append

/-- A kill that has begun is requested, or given up without a connection, once at most. -/
theorem killRequests_le_attempts
    (hl : Life.Reaches (regime mode) (Life.opening c plan.first true) l) :
    l.moment.killRequests + abandoned l.moment.history ≤ l.moment.attempts := by
  have htotal : 0 ≤ (charges c.setup).total l.moment.history :=
    sound_charges.left_always (fun _ hk => hk) rfl hl
  rw [total_charges] at htotal
  unfold Moment.killRequests Moment.attempts
  omega

/-- At rest a kill that has begun was requested, or given up without a connection. -/
theorem exists_of_attempts_of_source {r : Regime} {first : QueryResult} {loopRuns : Bool}
    (hsource : c.setup.source.isSome) (hordinary : c.setup.mode = .blocking →
      ∀ s e, r.admits (.lease s) (.error e) → e.isOrdinary)
    (hl : Life.Reaches r (Life.opening c first loopRuns) l)
    (hrest : l.threads = []) (hattempts : 0 < l.moment.attempts) :
    ∃ later i earlier, l.moment.history = later ++ i :: earlier ∧
      (i.requestsKill ∨ i.abandons earlier) ∧ 0 < earlier.countP Incident.attempts := by
  have htotal : 0 ≤ (pursuits c.setup).total l.moment.history :=
    (sound_pursuits hsource hordinary).left_of_reaches rfl hl hrest
  rw [total_pursuits] at htotal
  refine exists_of_pursued ?_
  unfold Moment.attempts at hattempts
  omega

theorem exists_of_attempts (hc : ofPlan mode plan = .ok c)
    (hl : Life.Reaches (regime mode) (Life.opening c plan.first true) l) (hrest : l.threads = [])
    (hattempts : 0 < l.moment.attempts) :
    ∃ later i earlier, l.moment.history = later ++ i :: earlier ∧
      (i.requestsKill ∨ i.abandons earlier) ∧ 0 < earlier.countP Incident.attempts := by
  have hplanned := planned_of_ofPlan hc
  have hsource : c.setup.source.isSome := (congrArg Option.isSome hplanned.source).trans
    ((Reckoning.agrees_of_reaches hc hl).sourced hattempts)
  refine exists_of_attempts_of_source hsource (fun hmode => ?_) hl hrest hattempts
  obtain rfl : mode = .blocking := hplanned.mode.symm.trans hmode
  exact fun _ e hadmits => hadmits e rfl

/-- **The kills of a cursor.** In any life of a cursor there is one kill at most, and it is of the
    server cursor that was given up alive: since the limit was reached, the cursor was closed, or
    a fetch has failed. -/
theorem kills_of_reaches (hc : ofPlan mode plan = .ok c)
    (hl : Life.Reaches (regime mode) (Life.opening c plan.first true) l) :
    Disposed mode plan l := by
  have h := Reckoning.agrees_of_reaches hc hl
  constructor
  case held =>
    intro target
    constructor
    · exact fun hs => (h.holding hs).serverCursor
    · exact h.standing
  case once => exact h.attempts_le
  case within => exact killRequests_le_attempts hl
  case begun =>
    intro later n earlier heq hn
    have hconducted := h.conducted
    rw [heq] at hconducted
    exact hconducted.of_append hn
  case requested => exact fun later x ns ids earlier heq => h.requested heq
  case doomed => exact fun target hs => h.doomed hs
  case tried => exact exists_of_attempts hc hl
  case kept =>
    intro hheld
    rcases hs : (ledger plan l.moment.history).standing with _ | target | target
    · simp [Ledger.isHeld, hs] at hheld
    · exact ⟨(h.holding hs).attempts, (h.holding hs).cleanups⟩
    · simp [Ledger.isHeld, hs] at hheld
  case gone => exact fun later earlier heq hgone => h.gone heq hgone
  case quiet =>
    intro later q during a earlier heq ha hq
    have hconducted := h.conducted
    rw [heq] at hconducted
    have hnone : (untilCall (during ++ .begun a :: earlier)).countP Incident.attempts = 0 := by
      have hr := hconducted.of_append
      cases q with
      | killCursors x ns ids => simp [isFetch] at hq
      | _ => exact hr hq
    have := (suffix_untilCall ha during earlier).sublist.countP_le (p := Incident.attempts)
    omega

/-- A blocking cursor whose first batch reaches the limit, when it was made. -/
def madeAndKilled : Life :=
  ((Life.opening (sample .blocking 1) (Plan.sample 1).first true).respond obliging).respond obliging

/-- The making of that cursor has killed its server cursor. -/
theorem kills_of_madeAndKilled : Disposed .blocking (.sample 1) madeAndKilled ∧
    madeAndKilled.moment.killRequests = 1 := by
  have hordinary : ∀ q, Custody.Ordinary q (obliging q) := fun q e he => by
    obtain ⟨x, hx⟩ := obliging_ok q
    simp [hx] at he
  have hopened : Life.Reaches (regime .blocking)
      (Life.opening (sample .blocking 1) (Plan.sample 1).first true) _ := .refl
  have hmade := (hopened.respond obliging hordinary).respond obliging hordinary
  exact ⟨kills_of_reaches (ofPlan_sample _ _) hmade, by decide +kernel⟩

end

end DocumentClient.Cursor
