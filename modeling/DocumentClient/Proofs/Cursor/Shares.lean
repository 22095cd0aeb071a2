/-
  Shares: what activities add to a common sum.

  Incidents have weights, and the weights of a history add up (`Fund.total`).  An activity
  sees only what it does itself; its share is what that has come to so far.  The shares of
  the activities that wait add up to the total, apart from what others have left that have
  ended.  So it is enough to look at each activity by itself, whatever the others do
  meanwhile, and in whatever order they go on.

  `Fund.Sound.left_of_reaches`: if every activity ends with a share that may be left, then
  at rest the total may be left.
-/
import DocumentClient.Proofs.Cursor.Keeping
import DocumentClient.Proofs.Cursor.Ledger
import Mathlib.Algebra.Group.Basic
import Mathlib.Algebra.Group.Int.Defs
import Mathlib.Algebra.Group.Submonoid.Defs

namespace DocumentClient.Cursor

open Program (Ensures Environment)

/-! ## Funds -/

/-- What the incidents in the life of a cursor weigh, and what its activities may hold. -/
structure Fund where
  setup : Setup
  /-- What an incident weighs after a history. -/
  weigh : Incident → List Incident → Int
  /-- What an activity may leave when it ends. -/
  rest : AddSubmonoid Int
  /-- What an activity may hold while it waits. -/
  allows : Int → Prop

/-- What the incidents of a history weigh together. -/
def Fund.total (f : Fund) : List Incident → Int
  | [] => 0
  | i :: history => f.weigh i history + f.total history

/-- A cursor, and the share of an activity. -/
structure Share where
  now : Moment
  own : Int

namespace Share

/-- Where the cursor of a share is kept. -/
def cell : Program.Cell Share Cursor where
  load w := w.now.cursor
  store c w := { w with now := w.now.put c }

/-- An activity does something, and its share changes. -/
def enter (f : Fund) (i : Incident) (w : Share) : Share :=
  ⟨w.now.record i, w.own + f.weigh i w.now.history⟩

@[simp] theorem cell_load (w : Share) : cell.load w = w.now.cursor := rfl

@[simp] theorem cell_store (c : Cursor) (w : Share) : cell.store c w = ⟨w.now.put c, w.own⟩ := rfl

@[simp] theorem enter_now (f : Fund) (i : Incident) (w : Share) :
    (w.enter f i).now = w.now.record i := rfl

@[simp] theorem enter_own (f : Fund) (i : Incident) (w : Share) :
    (w.enter f i).own = w.own + f.weigh i w.now.history := rfl

end Share

namespace Fund

/-- The environment of an activity: others act while it waits, and its share is its own. -/
def environment (f : Fund) (r : Regime) : Environment Share where
  take n w := w.enter f (.noticed n)
  demands q w := w.now.cursor.setup = f.setup ∧ f.allows (w.enter f (.asked q)).own
  resumes q w x w' := r.admits q x ∧ ∃ m, m.cursor.setup = f.setup ∧
    (w.now.record (.asked q)).history <:+ m.history ∧
    w' = Share.enter f (.answered q x (!m.cursor.closed)) ⟨m, (w.enter f (.asked q)).own⟩

/-- From a share on, an activity ends with one that may be left. -/
def Settles (f : Fund) (r : Regime) (a : Activity) : Program Cursor Yield → Share → Prop :=
  Ensures (f.environment r) Share.cell fun o w =>
    w.now.cursor.setup = f.setup ∧ (w.enter f (.ended a o)).own ∈ f.rest

/-- A thread waits with a share, and will settle. -/
def Awaits (f : Fund) (r : Regime) (t : Thread) (own : Int) (m : Moment) : Prop :=
  ∃ q next, t.rest = .ask q next ∧ f.allows own ∧
    ∀ x m', r.admits q x → m'.cursor.setup = f.setup → m.history <:+ m'.history →
      f.Settles r t.activity (next x) (Share.enter f (.answered q x (!m'.cursor.closed)) ⟨m', own⟩)

/-- A sum is divided among threads that wait, apart from what may be left. -/
def Divided (f : Fund) (r : Regime) : List Thread → Moment → Int → Prop
  | [], _, k => k ∈ f.rest
  | t :: ts, m, k => ∃ own, f.Awaits r t own m ∧ Divided f r ts m (k - own)

/-- The total of a life is divided among its threads. -/
structure Shared (f : Fund) (r : Regime) (l : Life) : Prop where
  setup : l.moment.cursor.setup = f.setup
  divided : f.Divided r l.threads l.moment (f.total l.moment.history)

/-- Every activity settles. -/
def Sound (f : Fund) (r : Regime) : Prop :=
  ∀ a m, m.cursor.setup = f.setup → f.Settles r a a.program (Share.enter f (.begun a) ⟨m, 0⟩)

variable {f : Fund} {r : Regime}

/-! ## Division -/

section
variable {ts : List Thread} {m m' : Moment} {k : Int}

theorem Awaits.later {t : Thread} {own : Int} (h : f.Awaits r t own m)
    (hm : m.history <:+ m'.history) : f.Awaits r t own m' := by
  obtain ⟨q, next, hrest, hallows, hnext⟩ := h
  exact ⟨q, next, hrest, hallows, fun x m₁ hx hs h₁ => hnext x m₁ hx hs (hm.trans h₁)⟩

theorem Divided.later : ∀ {ts : List Thread} {k : Int}, f.Divided r ts m k →
    m.history <:+ m'.history → f.Divided r ts m' k
  | [], _, h, _ => h
  | _ :: _, _, ⟨own, hawaits, hrest⟩, hm => ⟨own, hawaits.later hm, hrest.later hm⟩

/-- What an activity leaves does not matter. -/
theorem Divided.add {x : Int} (hx : x ∈ f.rest) : ∀ {ts : List Thread} {k : Int},
    f.Divided r ts m k → f.Divided r ts m (k + x)
  | [], _, h => f.rest.add_mem h hx
  | _ :: _, k, ⟨own, hawaits, hrest⟩ => by
    refine ⟨own, hawaits, ?_⟩
    rw [add_sub_right_comm]
    exact hrest.add hx

/-- Any of the threads may be taken out, with its share. -/
theorem Divided.extract {t : Thread} {after : List Thread} : ∀ {before : List Thread} {k : Int},
    f.Divided r (before ++ t :: after) m k →
      ∃ own, f.Awaits r t own m ∧ f.Divided r (before ++ after) m (k - own)
  | [], _, h => h
  | _ :: _, k, ⟨own₁, hawaits₁, hrest⟩ => by
    obtain ⟨own, hawaits, hrest⟩ := hrest.extract
    refine ⟨own, hawaits, own₁, hawaits₁, ?_⟩
    rw [sub_right_comm]
    exact hrest

/-- Where threads may only hold what may be left, the total may be left. -/
theorem Divided.mem (hallows : ∀ k, f.allows k → k ∈ f.rest) : ∀ {ts : List Thread} {k : Int},
    f.Divided r ts m k → k ∈ f.rest
  | [], _, h => h
  | _ :: _, k, ⟨own, ⟨_, _, _, hown, _⟩, hrest⟩ => by
    have := f.rest.add_mem (hrest.mem hallows) (hallows own hown)
    rwa [sub_add_cancel] at this

end

/-! ## Lives -/

/-- An activity goes on, and the total stays divided. -/
theorem shared_proceed {a : Activity} {ts : List Thread} {p : Program Cursor Yield} :
    ∀ {w : Share}, f.Settles r a p w →
      f.Divided r ts w.now (f.total w.now.history - w.own) →
      f.Shared r (Life.proceed a ts p w.now) := by
  have henter : ∀ (w : Share) i, f.Divided r ts w.now (f.total w.now.history - w.own) →
      f.Divided r ts (w.enter f i).now
        (f.total (w.enter f i).now.history - (w.enter f i).own) := by
    intro w i h
    have heq : f.total (w.enter f i).now.history - (w.enter f i).own
        = f.total w.now.history - w.own := by
      simp only [Share.enter_now, Share.enter_own, Moment.record_history, total]
      omega
    rw [heq]
    exact h.later (List.suffix_cons i _)
  induction p with
  | done outcome =>
    intro w h hdivided
    refine ⟨h.1, ?_⟩
    have := (henter w (.ended a outcome) hdivided).add h.2
    rwa [sub_add_cancel] at this
  | read next ih => intro w h hdivided; exact ih _ h hdivided
  | write c next ih =>
    intro w h hdivided
    exact ih (w := ⟨w.now.put c, w.own⟩) h (hdivided.later List.suffix_rfl)
  | note n next ih =>
    intro w h hdivided
    exact ih (w := w.enter f (.noticed n)) h (henter w _ hdivided)
  | ask q next ih =>
    intro w h hdivided
    refine ⟨h.1.1, (w.enter f (.asked q)).own, ⟨q, next, rfl, h.1.2, fun x m hx hs hm => ?_⟩,
      henter w (.asked q) hdivided⟩
    exact h.2 x _ ⟨hx, m, hs, hm, rfl⟩

theorem Sound.shared_begin (hf : f.Sound r) {l : Life} (h : f.Shared r l) (a : Activity) :
    f.Shared r (l.begin a) := by
  refine shared_proceed (w := Share.enter f (.begun a) ⟨l.moment, 0⟩) (hf a _ h.setup) ?_
  have heq : f.total (Share.enter f (.begun a) ⟨l.moment, 0⟩).now.history
      - (Share.enter f (.begun a) ⟨l.moment, 0⟩).own = f.total l.moment.history := by
    simp only [Share.enter_now, Share.enter_own, Moment.record_history, total]
    omega
  rw [heq]
  exact h.divided.later (List.suffix_cons ..)

/-- One step keeps the total divided. -/
theorem Sound.shared_step (hf : f.Sound r) {l l' : Life} (hs : Life.Step r l l')
    (h : f.Shared r l) : f.Shared r l' := by
  cases hs with
  | call _ => exact hf.shared_begin h _
  | @run _ before after target _ =>
    have hunscheduled : f.Shared r (l.unscheduled (before ++ after)) :=
      ⟨h.setup, h.divided.later List.suffix_rfl⟩
    exact hf.shared_begin hunscheduled _
  | @resume m before after a q next x _ hx =>
    obtain ⟨own, ⟨q', next', hrest, -, hnext⟩, hdivided⟩ := h.divided.extract
    cases hrest
    refine shared_proceed (w := Share.enter f (.answered q x (!m.cursor.closed)) ⟨m, own⟩)
      (hnext x m hx h.setup List.suffix_rfl) ?_
    have heq : f.total (Share.enter f (.answered q x (!m.cursor.closed)) ⟨m, own⟩).now.history
        - (Share.enter f (.answered q x (!m.cursor.closed)) ⟨m, own⟩).own
        = f.total m.history - own := by
      simp only [Share.enter_now, Share.enter_own, Moment.record_history, total]
      omega
    rw [heq]
    exact hdivided.later (List.suffix_cons ..)

section
variable {c : Cursor} {first : QueryResult} {loopRuns : Bool} {l : Life}

theorem Sound.shared_of_reaches (hf : f.Sound r) (hc : c.setup = f.setup)
    (hl : Life.Reaches r (Life.opening c first loopRuns) l) : f.Shared r l := by
  induction hl with
  | refl => exact hf.shared_begin (l := ⟨⟨c, []⟩, []⟩) ⟨hc, f.rest.zero_mem⟩ _
  | tail _ hstep ih => exact hf.shared_step hstep ih

/-- **What is left at rest.** -/
theorem Sound.left_of_reaches (hf : f.Sound r) (hc : c.setup = f.setup)
    (hl : Life.Reaches r (Life.opening c first loopRuns) l) (hrest : l.threads = []) :
    f.total l.moment.history ∈ f.rest := by
  have hdivided := (hf.shared_of_reaches hc hl).divided
  rwa [hrest] at hdivided

/-- Where threads may only hold what may be left, it is so at any time. -/
theorem Sound.left_always (hf : f.Sound r) (hallows : ∀ k, f.allows k → k ∈ f.rest)
    (hc : c.setup = f.setup) (hl : Life.Reaches r (Life.opening c first loopRuns) l) :
    f.total l.moment.history ∈ f.rest :=
  (hf.shared_of_reaches hc hl).divided.mem hallows

end

end Fund

/-! ## Plain incidents -/

/-- Whether a notice is the record with which a kill has failed. -/
def isKillFailure : Notice → Bool
  | .log .warning message => "could not kill ".toList.isPrefixOf message.toList
  | _ => false

@[simp] theorem isKillFailure_killFails (target : ServerCursor) (e : Failure) :
    isKillFailure (killFails target e) = true := by
  simp [killFails, isKillFailure, toString, List.isPrefixOf]

/-- Whether an incident has to do with neither leases nor kills. -/
def Incident.isPlain : Incident → Bool
  | .asked (.killCursors _ _ _) => false
  | .answered (.lease _) _ _ => false
  | .noticed (.releaseConnection _) => false
  | .noticed n => !isKillRecord n && !isKillFailure n
  | .ended (.cleanup _) (.error _) => false
  | _ => true

theorem Incident.isPlain_ended {a : Activity} (ha : a.isCleanup = false) (o : Outcome Yield) :
    (Incident.ended a o).isPlain := by
  cases a with
  | cleanup target => cases ha
  | _ => rfl

theorem Incident.isPlain_asked_of_isFetch {q : Exchange} (hq : isFetch q) :
    (Incident.asked q).isPlain := by
  cases q with
  | killCursors x ns ids => simp [isFetch] at hq
  | _ => rfl

theorem Incident.isPlain_answered_of_isFetch {q : Exchange} (hq : isFetch q) (x : Outcome q.Answer)
    (wasOpen : Bool) : (Incident.answered q x wasOpen).isPlain := by
  cases q with
  | lease s => simp [isFetch] at hq
  | _ => rfl

theorem Incident.isPlain_killSkipped (target : ServerCursor) :
    (Incident.noticed (killSkipped target)).isPlain := by
  simp [isPlain, killSkipped, isKillRecord, isKillFailure, toString, List.isPrefixOf]

/-- A record is plain that is not the one with which a kill begins. -/
theorem Incident.isPlain_info {message : String}
    (h : isKillRecord (.log .info message) = false) :
    (Incident.noticed (.log .info message)).isPlain := by
  simp [isPlain, h, isKillFailure]

theorem Incident.isPlain_of_mem_dropRecords {v : Verdict} {n : Notice} (hn : n ∈ dropRecords v) :
    (Incident.noticed n).isPlain := by
  have hrecord := isKillRecord_of_mem_dropRecords hn
  cases v with
  | dropped cursor =>
    obtain rfl := List.mem_singleton.1 hn
    exact isPlain_info hrecord
  | _ => simp [dropRecords] at hn

namespace Fund

/-- A fund in which only leases and kills count. -/
structure Plain (f : Fund) : Prop where
  weigh : ∀ i history, i.isPlain → f.weigh i history = 0
  /-- A connection that the cursor was given does not count. -/
  due : ∀ x history, f.setup.connection = some ⟨.owned, x⟩ →
    f.weigh (.noticed (.releaseConnection x)) history = 0

/-- The cursor is the one that the fund is about, and a share is such. -/
def Keeping (f : Fund) (K : Int → Prop) (w : Share) : Prop :=
  w.now.cursor.setup = f.setup ∧ K w.own

variable {f : Fund} {r : Regime} {K : Int → Prop}

/-- What does not count leaves a share as it is. -/
theorem keeping_of_weigh {i : Incident} {w : Share} (hi : f.weigh i w.now.history = 0)
    (h : f.Keeping K w) : f.Keeping K (w.enter f i) := by
  rw [Share.enter, hi, Int.add_zero]
  exact h

theorem Plain.keeping (hf : f.Plain) {i : Incident} (hi : i.isPlain) {w : Share}
    (h : f.Keeping K w) : f.Keeping K (w.enter f i) :=
  keeping_of_weigh (hf.weigh i _ hi) h

/-- A plain exchange. -/
theorem Plain.ask (hf : f.Plain) (hallows : ∀ k, K k → f.allows k) {q : Exchange}
    (hasked : (Incident.asked q).isPlain)
    (hanswered : ∀ x wasOpen, (Incident.answered q x wasOpen).isPlain) {w : Share}
    (h : f.Keeping K w) : (f.environment r).demands q w ∧
      ∀ x w', (f.environment r).resumes q w x w' → f.Keeping K w' := by
  have hw := hf.keeping hasked h
  refine ⟨⟨h.1, hallows _ hw.2⟩, ?_⟩
  rintro x _ ⟨-, m, hm, -, rfl⟩
  exact hf.keeping (hanswered x _) ⟨hm, hw.2⟩

/-- Notices that do not count. -/
theorem keeping_notices {ns : List Notice}
    (hns : ∀ n ∈ ns, ∀ history, f.weigh (.noticed n) history = 0) {w : Share}
    (h : f.Keeping K w) : f.Keeping K (ns.foldl (fun w n => (f.environment r).take n w) w) := by
  induction ns generalizing w with
  | nil => exact h
  | cons n ns ih =>
    exact ih (fun n' hn' => hns n' (List.mem_cons_of_mem _ hn'))
      (keeping_of_weigh (hns n (List.mem_cons_self ..) _) h)

/-- The release of the resources. -/
theorem Plain.settle (hf : f.Plain) {w : Share} (h : f.Keeping K w) :
    f.Keeping K (settle (f.environment r) Share.cell w) := by
  have hdues : ∀ n ∈ dues w.now.cursor, ∀ history, f.weigh (.noticed n) history = 0 := by
    intro n hn history
    obtain ⟨x, hx, rfl⟩ | ⟨s, -, rfl⟩ := eq_of_mem_dues hn
    · exact hf.due x history ((congrArg Setup.connection h.1).symm.trans hx)
    · exact hf.weigh _ _ rfl
  unfold Cursor.settle
  split
  · exact h
  · exact keeping_notices hdues h

/-- A batch is absorbed. -/
theorem Plain.keeps_absorb (hf : f.Plain) (result : QueryResult) :
    Keeps (f.environment r) Share.cell (f.Keeping K) (absorb result) := by
  intro w h
  obtain ⟨after, hafter⟩ : ∃ after, w.now.cursor.progress.advance w.now.cursor.limit
    w.now.cursor.batchSize result = after := ⟨_, rfl⟩
  refine (ensures_absorb_iff hafter).2 ⟨h.1, ?_⟩
  have hnoticed : f.Keeping K
      ((dropRecords after.2).foldl (fun w n => (f.environment r).take n w) w) :=
    keeping_notices (fun n hn history =>
      hf.weigh _ history (Incident.isPlain_of_mem_dropRecords hn)) h
  exact hnoticed.2

/-- What kills keep is kept by closing, too. -/
theorem Plain.tended (hf : f.Plain)
    (hkill : ∀ target x,
      Keeps (f.environment r) Share.cell (f.Keeping K) (killCursor target (some x)))
    (hown : f.setup.mode = .blocking → ∀ target,
      Keeps (f.environment r) Share.cell (f.Keeping K) (killCursor target none)) :
    Tended (f.environment r) Share.cell (f.Keeping K) where
  forget _ h := h
  settle _ h := hf.settle h
  shut _ h := h
  schedule _ _ h := h
  interrupt _ _ h := h
  kill := hkill
  killOwn target _ h hmode := hown ((congrArg Setup.mode h.1).symm.trans hmode) target
  skip target _ h := hf.keeping (Incident.isPlain_killSkipped target) h

/-! ## Retrievals -/

section
variable (hf : f.Plain) (ht : Tended (f.environment r) Share.cell (f.Keeping K))
include hf ht

theorem Plain.keeps_follow (connection : Connection) (result : QueryResult) :
    Keeps (f.environment r) Share.cell (f.Keeping K) (follow connection result) := by
  exact Cursor.keeps_follow (hf.keeps_absorb result) (ht.keeps_killHeld _)

theorem Plain.keeps_start (first : QueryResult) (loopRuns : Bool) :
    Keeps (f.environment r) Share.cell (f.Keeping K) (start first loopRuns) :=
  fun w h => ht.ensures_start (hf.keeps_absorb first w h)

variable (hallows : ∀ k, K k → f.allows k)
include hallows

theorem Plain.keeps_fetchOver (target : ServerCursor) (connection : Connection) :
    Keeps (f.environment r) Share.cell (f.Keeping K) (fetchOver target connection) := by
  intro w h
  have hbegins : f.Keeping K (w.enter f (.noticed (fetchBegins w.now.cursor target))) :=
    hf.keeping (Incident.isPlain_info (isKillRecord_fetchBegins _ _)) h
  have hfetch := isFetch_fetchExchange w.now.cursor connection target
  obtain ⟨hdemands, hresumes⟩ := hf.ask (r := r) hallows (Incident.isPlain_asked_of_isFetch hfetch)
    (Incident.isPlain_answered_of_isFetch hfetch) hbegins
  rw [fetchOver_eq]
  refine Program.ensures_bind.2 (ensures_requestBatch.2 ⟨hdemands, fun x w' hw' => ?_⟩)
  have h' := hresumes x w' hw'
  rcases fetched target _ x with e | result
  · exact h'
  · exact hf.keeps_follow ht connection result _
      (hf.keeping (Incident.isPlain_info (isKillRecord_fetchEnds _ _ _)) h')

omit ht in
/-- A connection may be leased for what keeps a share, where leases and releases only add to it. -/
theorem Plain.keeps_withConnection {α : Type} {use : Connection → Program Cursor α}
    (huse : ∀ x, Keeps (f.environment r) Share.cell (f.Keeping K) (use x))
    (hadd : ∀ k x, K k → 0 ≤ x → K (k + x))
    (hlease : ∀ s a wasOpen history, 0 ≤ f.weigh (.answered (.lease s) a wasOpen) history)
    (hback : ∀ x history, 0 ≤ f.weigh (.noticed (.releaseConnection x)) history) :
    Keeps (f.environment r) Share.cell (f.Keeping K) (withConnection use) := by
  intro w h
  refine ensures_withConnection.2 ?_
  split
  · exact huse _ w h
  · exact h
  · rename_i handle _ _
    have hasked := hf.keeping (i := .asked (.lease handle.resource)) rfl h
    refine ⟨⟨h.1, hallows _ hasked.2⟩, ?_⟩
    rintro a _ ⟨-, m, hm, -, rfl⟩
    have hanswered : f.Keeping K (Share.enter f
        (.answered (.lease handle.resource) a (!m.cursor.closed))
        ⟨m, (w.enter f (.asked (.lease handle.resource))).own⟩) :=
      ⟨hm, hadd _ _ hasked.2 (hlease _ _ _ _)⟩
    rcases a with e | x
    · exact hanswered
    · exact Program.ensures_mono (fun o w' h' => ⟨h'.1, hadd _ _ h'.2 (hback _ _)⟩)
        (huse x _ hanswered)

omit ht in
theorem Plain.keeps_waitBeforeRetry :
    Keeps (f.environment r) Share.cell (f.Keeping K) waitBeforeRetry := by
  refine keeps_bind keeps_get fun c => keeps_bind (keeps_ofOutcome _) fun length => ?_
  refine keeps_bind (fun w h => hf.ask hallows rfl (fun _ _ => rfl) h) fun _ w h => ?_
  simp only [Program.ensures_bind, Program.ensures_get, Program.continues_ok]
  split
  · exact h
  · split <;> exact h

variable (hlend : ∀ target,
    Keeps (f.environment r) Share.cell (f.Keeping K) (withConnection (fetchOver target)))
include hlend

theorem Plain.retrievable : Retrievable (f.environment r) Share.cell (f.Keeping K) where
  fetch w h _ := ht.keeps_fetch hlend w h
  wait w h _ := hf.keeps_waitBeforeRetry hallows w h

/-- What kills and fetches keep is kept by every activity, scheduled kills apart. -/
theorem Plain.keeps_program {a : Activity} (ha : a.isCleanup = false) :
    Keeps (f.environment r) Share.cell (f.Keeping K) a.program := by
  have htake : Keeps (f.environment r) Share.cell (f.Keeping K) takeBatch := by
    intro w h
    refine ensures_takeBatch.2 ?_
    split <;> exact h
  have hoperable : ∀ a, Operable (f.environment r) Share.cell (f.Keeping K) a := fun a =>
    ⟨fun _ => hf.retrievable ht hallows hlend, fun _ => htake,
      fun loopRuns _ => ht.keeps_close loopRuns, fun _ h => h, fun _ _ h => h⟩
  cases a with
  | opening first loopRuns =>
    exact keeps_bind (hf.keeps_start ht first loopRuns) fun _ => keeps_pure _
  | cleanup target => cases ha
  | _ => exact (hoperable _).keeps_program rfl

end

/-- A scheduled kill settles if what it comes to survives the release of the resources, and may be
    left when it ends. -/
theorem settles_cleanup {S : Outcome Unit → Share → Prop} {target : ServerCursor} {w : Share}
    (hkill : Ensures (f.environment r) Share.cell S (killCursor target none) w)
    (hsettle : ∀ o w, S o w → S o (settle (f.environment r) Share.cell w))
    (hends : ∀ o w, S o w →
      f.Keeping (· ∈ f.rest) (w.enter f (.ended (.cleanup target) (o.map fun _ => .nothing)))) :
    f.Settles r (.cleanup target) (Activity.cleanup target).program w := by
  refine Program.ensures_bind.2 (Program.ensures_always.2 (Program.ensures_mono ?_ hkill))
  intro o w₁ h₁
  refine ensures_releaseResources.2 ?_
  have h₂ := hends o _ (hsettle o w₁ h₁)
  rcases o with e | _ <;> exact h₂

/-- **When a fund is sound.** It is enough that kills, and fetches over a connection of the cursor
    or a leased one, keep the share of an activity to what may be left.  Cursors that are not
    blocking leave the kills for which they have to lease a connection to scheduled ones. -/
theorem Plain.sound (hf : f.Plain) (hallows : ∀ k ∈ f.rest, f.allows k)
    (hkill : ∀ target x,
      Keeps (f.environment r) Share.cell (f.Keeping (· ∈ f.rest)) (killCursor target (some x)))
    (hown : f.setup.mode = .blocking → ∀ target,
      Keeps (f.environment r) Share.cell (f.Keeping (· ∈ f.rest)) (killCursor target none))
    (hcleanup : ∀ target w, f.Keeping (· ∈ f.rest) w →
      f.Settles r (.cleanup target) (Activity.cleanup target).program w)
    (hlend : ∀ target, Keeps (f.environment r) Share.cell (f.Keeping (· ∈ f.rest))
      (withConnection (fetchOver target))) :
    f.Sound r := by
  intro a m hm
  have hbegun : f.Keeping (· ∈ f.rest) (Share.enter f (.begun a) ⟨m, 0⟩) :=
    hf.keeping rfl ⟨hm, f.rest.zero_mem⟩
  rcases ha : a.isCleanup with _ | _
  · exact Program.ensures_mono (fun o w h => hf.keeping (Incident.isPlain_ended ha o) h)
      (hf.keeps_program (hf.tended hkill hown) hallows hlend ha _ hbegun)
  · cases a with
    | cleanup target => exact hcleanup target _ hbegun
    | _ => cases ha

end Fund

end DocumentClient.Cursor
