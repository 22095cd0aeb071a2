/-
  Connections that a cursor leases.

  An activity that leases a connection gives it back when it is done with it, whatever
  comes of that.  So at rest, when no activity waits, each connection was released as
  often as it was leased (`loans_of_reaches`), in whatever order activities go on.  A
  cursor that was given a connection leases none.
-/
import DocumentClient.Proofs.Cursor.Account
import DocumentClient.Proofs.Cursor.Shares

namespace DocumentClient.Cursor

open Program (Ensures Environment)

/-- What is out of a connection: its leases, less its releases where the cursor has to lease. -/
def loans (setup : Setup) (id : Nat) : Fund where
  setup := setup
  weigh i _ := (if i.leases id then 1 else 0)
    - (if setup.connection.isNone && i.releases id then 1 else 0)
  rest := ⊥
  allows _ := True

section
variable {setup : Setup} {id : Nat} {r : Regime} {k : Int} {w : Share}

theorem total_loans (history : List Incident) : (loans setup id).total history =
    history.countP (Incident.leases id)
      - if setup.connection.isNone then (history.countP (Incident.releases id) : Int) else 0 := by
  induction history with
  | nil => simp [Fund.total]
  | cons i history ih =>
    rw [Fund.total, ih, List.countP_cons, List.countP_cons]
    simp only [loans]
    rcases setup.connection.isNone with _ | _ <;> rcases i.leases id with _ | _ <;>
      rcases i.releases id with _ | _ <;> simp <;> omega

theorem plain_loans : (loans setup id).Plain where
  weigh i history hi := by
    have hleases : i.leases id = false := by
      cases i with
      | answered q x wasOpen =>
        cases q with
        | lease s => simp [Incident.isPlain] at hi
        | _ => rfl
      | _ => rfl
    have hreleases : i.releases id = false := by
      cases i with
      | noticed n =>
        cases n with
        | releaseConnection x => simp [Incident.isPlain] at hi
        | _ => rfl
      | _ => rfl
    simp [loans, hleases, hreleases]
  due x history hx := by
    have hsome : setup.connection = some ⟨.owned, x⟩ := hx
    simp [loans, Incident.leases, hsome]

/-- The request of a kill is none of a lease. -/
theorem keeps_loans_killCursors (x : Connection) (ns : Namespace) (ids : List Int) :
    Keeps ((loans setup id).environment r) Share.cell ((loans setup id).Keeping (· = k))
      (Program.killCursors x ns ids) := by
  intro w h
  have hasked : (loans setup id).weigh (.asked (.killCursors x ns ids)) w.now.history = 0 := by
    simp [loans, Incident.leases, Incident.releases]
  have hw := Fund.keeping_of_weigh hasked h
  refine ⟨⟨h.1, trivial⟩, ?_⟩
  rintro a _ ⟨-, m, hm, -, rfl⟩
  have hanswered : (loans setup id).weigh (.answered (.killCursors x ns ids) a (!m.cursor.closed))
      m.history = 0 := by
    simp [loans, Incident.leases, Incident.releases]
  exact Fund.keeping_of_weigh (K := (· = k)) hanswered ⟨hm, hw.2⟩

/-- A connection that is leased is given back. -/
theorem keeps_loans_withConnection {α : Type} {use : Connection → Program Cursor α}
    (huse : ∀ x k, Keeps ((loans setup id).environment r) Share.cell
      ((loans setup id).Keeping (· = k)) (use x)) :
    Keeps ((loans setup id).environment r) Share.cell ((loans setup id).Keeping (· = k))
      (withConnection use) := by
  intro w h
  refine ensures_withConnection.2 ?_
  split
  · exact huse _ k w h
  · exact h
  · rename_i handle hconnection _
    have hnone : setup.connection.isNone := by
      have heq : setup.connection = w.now.cursor.connection :=
        (congrArg Setup.connection h.1).symm
      rw [heq]
      exact Option.isNone_iff_eq_none.2 hconnection
    have hasked : (loans setup id).weigh (.asked (.lease handle.resource)) w.now.history = 0 := by
      simp [loans, Incident.leases, Incident.releases]
    have hw := Fund.keeping_of_weigh hasked h
    refine ⟨⟨h.1, trivial⟩, ?_⟩
    rintro a _ ⟨-, m, hm, -, rfl⟩
    rcases a with e | x
    · have hrefused : (loans setup id).weigh
          (.answered (.lease handle.resource) (.error e) (!m.cursor.closed)) m.history = 0 := by
        simp [loans, Incident.leases, Incident.releases]
      exact Fund.keeping_of_weigh (K := (· = k)) hrefused ⟨hm, hw.2⟩
    · have hleased : (loans setup id).weigh
          (.answered (.lease handle.resource) (.ok x) (!m.cursor.closed)) m.history
          = if x.id = id then 1 else 0 := by
        simp [loans, Incident.leases, Incident.releases]
      have hreleased : ∀ history, (loans setup id).weigh (.noticed (.releaseConnection x)) history
          = -if x.id = id then 1 else 0 := fun history => by
        simp [loans, Incident.leases, Incident.releases, hnone]
      refine Program.ensures_mono (fun o w' h' => ⟨h'.1, ?_⟩)
        (huse x (k + if x.id = id then 1 else 0) _ ⟨hm, ?_⟩)
      · change (w'.enter (loans setup id) (.noticed (.releaseConnection x))).own = k
        rw [Share.enter_own, hreleased, h'.2]
        omega
      · rw [Share.enter_own, hleased, Share.enter_own, hasked, h.2, Int.add_zero]

theorem keeps_loans_killCursor (target : ServerCursor) (given : Option Connection) :
    Keeps ((loans setup id).environment r) Share.cell ((loans setup id).Keeping (· = k))
      (killCursor target given) := by
  have hlog : ∀ level message, Keeps ((loans setup id).environment r) Share.cell
      ((loans setup id).Keeping (· = k)) (Program.log level message) := by
    intro level message w h
    have hweigh : (loans setup id).weigh (.noticed (.log level message)) w.now.history = 0 := by
      simp [loans, Incident.leases, Incident.releases]
    exact Fund.keeping_of_weigh hweigh h
  refine keeps_bind keeps_get fun c => keeps_bind (hlog _ _) fun _ => ?_
  refine keeps_handle ?_ fun e => hlog _ _
  cases given with
  | some x => exact keeps_loans_killCursors x _ _
  | none => exact keeps_loans_withConnection fun x _ => keeps_loans_killCursors x _ _

theorem sound_loans : (loans setup id).Sound r := by
  have hkeeping : (loans setup id).Keeping (· ∈ (loans setup id).rest)
      = (loans setup id).Keeping (· = 0) := by
    funext w
    exact congrArg (_ ∧ ·) (propext AddSubmonoid.mem_bot)
  refine plain_loans.sound (fun _ _ => trivial) ?_ ?_ ?_ ?_
  · rw [hkeeping]
    exact fun target x => keeps_loans_killCursor target (some x)
  · rw [hkeeping]
    exact fun _ target => keeps_loans_killCursor target none
  · rw [hkeeping]
    refine fun target w h => Fund.settles_cleanup (keeps_loans_killCursor target none w h)
      (fun _ _ => plain_loans.settle) fun o w h => ?_
    rw [hkeeping]
    have hended : (loans setup id).weigh
        (.ended (.cleanup target) (o.map fun _ => .nothing)) w.now.history = 0 := by
      simp [loans, Incident.leases, Incident.releases]
    exact Fund.keeping_of_weigh hended h
  · rw [hkeeping]
    exact fun target => keeps_loans_withConnection fun x k =>
      plain_loans.keeps_fetchOver (plain_loans.tended
        (fun target x => keeps_loans_killCursor target (some x))
        fun _ target => keeps_loans_killCursor target none) (fun _ _ => trivial) target x

end

/-- **Every connection that was leased is given back.** -/
theorem loans_of_reaches {r : Regime} {c : Cursor} {first : QueryResult} {loopRuns : Bool}
    {l : Life} (hl : Life.Reaches r (Life.opening c first loopRuns) l) (hrest : l.threads = [])
    (id : Nat) : (c.connection.isNone → l.moment.releases id = l.moment.leases id) ∧
      (c.connection.isSome → l.moment.leases id = 0) := by
  have hsound : (loans c.setup id).Sound r := sound_loans
  have htotal := AddSubmonoid.mem_bot.1 (hsound.left_of_reaches rfl hl hrest)
  have hconnection : c.setup.connection = c.connection := rfl
  rw [total_loans, hconnection] at htotal
  unfold Moment.releases Moment.leases
  refine ⟨fun hnone => ?_, fun hsome => ?_⟩
  · rw [if_pos hnone] at htotal
    omega
  · rw [Option.isNone_eq_false_iff.2 hsome, if_neg Bool.false_ne_true] at htotal
    omega

end DocumentClient.Cursor
