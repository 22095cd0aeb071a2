/-
  The account of a cursor: what it has leased, and what it has released.

  The history of a cursor tells how often a connection was leased to it, and how
  often it has released a connection or a source.  The owned handles are due once
  the cursor counts its resources as released.  `debt` is what is still to be
  released of a connection: the leases and what is due, less the releases so far.

  Settling the resources brings what is due and what was released to the same sums,
  and changes nothing else.
-/
import DocumentClient.Proofs.Cursor.Rules

namespace DocumentClient.Cursor

/-- Whether there is a handle that is owned, and holds such a resource. -/
def owns {ρ : Type} (matching : ρ → Bool) : Option (Handle ρ) → Bool
  | some ⟨.owned, resource⟩ => matching resource
  | _ => false

/-! ## Incidents -/

namespace Incident

/-- Whether a connection was leased. -/
def leases (id : Nat) : Incident → Bool
  | .answered (.lease _) (.ok connection) _ => Connection.id connection == id
  | _ => false

/-- Whether a connection was released. -/
def releases (id : Nat) : Incident → Bool
  | .noticed (.releaseConnection connection) => connection.id == id
  | _ => false

/-- Whether a source was released. -/
def releasesSource (source : Source) : Incident → Bool
  | .noticed (.releaseSource s) => s == source
  | _ => false

/-- Whether an incident has no part in the account. -/
def isNeutral : Incident → Bool
  | .answered (.lease _) (.ok _) _ => false
  | .noticed (.releaseConnection _) => false
  | .noticed (.releaseSource _) => false
  | _ => true

theorem isNeutral_of_isFetch {q : Exchange} (h : isFetch q) (x : Outcome q.Answer)
    (wasOpen : Bool) : (Incident.answered q x wasOpen).isNeutral := by
  cases q with
  | lease s => simp [isFetch] at h
  | _ => rfl

theorem leases_of_isNeutral {i : Incident} (h : i.isNeutral) (id : Nat) : i.leases id = false := by
  cases i with
  | answered q x wasOpen =>
    cases q with
    | lease s => cases x with
      | error e => rfl
      | ok connection => simp [isNeutral] at h
    | _ => rfl
  | _ => rfl

theorem releases_of_isNeutral {i : Incident} (h : i.isNeutral) (id : Nat) :
    i.releases id = false := by
  cases i with
  | noticed n => cases n with
    | releaseConnection connection => simp [isNeutral] at h
    | _ => rfl
  | _ => rfl

theorem releasesSource_of_isNeutral {i : Incident} (h : i.isNeutral) (s : Source) :
    i.releasesSource s = false := by
  cases i with
  | noticed n => cases n with
    | releaseSource source => simp [isNeutral] at h
    | _ => rfl
  | _ => rfl

end Incident

/-! ## Moments -/

namespace Moment

/-- How often a connection was leased. -/
def leases (id : Nat) (m : Moment) : Nat := m.history.countP (Incident.leases id)

/-- How often a connection was released. -/
def releases (id : Nat) (m : Moment) : Nat := m.history.countP (Incident.releases id)

/-- How often a source was released. -/
def sourceReleases (source : Source) (m : Moment) : Nat :=
  m.history.countP (Incident.releasesSource source)

/-- How often a connection is due as an owned handle. -/
def due (id : Nat) (m : Moment) : Nat :=
  if m.cursor.released && owns (·.id == id) m.cursor.connection then 1 else 0

/-- How often a source is due as an owned handle. -/
def sourceDue (source : Source) (m : Moment) : Nat :=
  if m.cursor.released && owns (· == source) m.cursor.source then 1 else 0

/-- How often a connection is still to be released. -/
def debt (id : Nat) (m : Moment) : Int := m.leases id + m.due id - m.releases id

@[simp] theorem put_releases (c : Cursor) (id : Nat) (m : Moment) :
    (m.put c).releases id = m.releases id := rfl

@[simp] theorem put_sourceReleases (c : Cursor) (s : Source) (m : Moment) :
    (m.put c).sourceReleases s = m.sourceReleases s := rfl

theorem record_leases (i : Incident) (id : Nat) (m : Moment) :
    (m.record i).leases id = m.leases id + if i.leases id then 1 else 0 :=
  List.countP_cons

theorem record_releases (i : Incident) (id : Nat) (m : Moment) :
    (m.record i).releases id = m.releases id + if i.releases id then 1 else 0 :=
  List.countP_cons

theorem record_sourceReleases (i : Incident) (s : Source) (m : Moment) :
    (m.record i).sourceReleases s = m.sourceReleases s + if i.releasesSource s then 1 else 0 :=
  List.countP_cons

@[simp] theorem record_due (i : Incident) (id : Nat) (m : Moment) :
    (m.record i).due id = m.due id := rfl

@[simp] theorem record_sourceDue (i : Incident) (s : Source) (m : Moment) :
    (m.record i).sourceDue s = m.sourceDue s := rfl

theorem record_debt (i : Incident) (id : Nat) (m : Moment) :
    (m.record i).debt id = m.debt id + (if i.leases id then 1 else 0)
      - (if i.releases id then 1 else 0) := by
  simp only [debt, record_leases, record_releases, record_due]
  split <;> split <;> simp <;> omega

/-! ## Settling -/

/-- The moment after the owned resources were released. -/
def settled (m : Moment) : Moment :=
  if m.cursor.released then m
  else ⟨{ m.cursor with released := true },
    (dues m.cursor).reverse.map .noticed ++ m.history⟩

theorem foldl_record (ns : List Notice) (m : Moment) :
    ns.foldl (fun m n => m.record (.noticed n)) m
      = ⟨m.cursor, ns.reverse.map .noticed ++ m.history⟩ := by
  induction ns generalizing m with
  | nil => rfl
  | cons n ns ih => simp [ih]

theorem settle_eq {env : Program.Environment Moment}
    (htake : env.take = fun n m => m.record (.noticed n)) (m : Moment) :
    settle env cell m = m.settled := by
  simp only [settle, settled, cell_load, htake, foldl_record]
  rfl

theorem settled_cursor (m : Moment) : m.settled.cursor = { m.cursor with released := true } := by
  unfold settled
  split
  · rename_i h; rw [← h]
  · rfl

theorem settled_countP (p : Incident → Bool) (m : Moment) :
    m.settled.history.countP p = m.history.countP p +
      if m.cursor.released then 0 else (dues m.cursor).countP fun n => p (.noticed n) := by
  unfold settled
  split
  · rfl
  · simp [List.countP_append, List.countP_map, Function.comp_def, Nat.add_comm]

theorem settled_leases (m : Moment) (id : Nat) : m.settled.leases id = m.leases id := by
  have : (dues m.cursor).countP (fun n => (Incident.noticed n).leases id) = 0 :=
    List.countP_eq_zero.2 fun _ _ => by simp [Incident.leases]
  rw [leases, settled_countP, this]
  simp [leases]

/-- What is due of a connection is what settling gives notice of. -/
theorem countP_dues_releases (c : Cursor) (id : Nat) :
    (dues c).countP (fun n => (Incident.noticed n).releases id)
      = if owns (·.id == id) c.connection then 1 else 0 := by
  rcases hc : c.connection with _ | ⟨_ | _, x⟩ <;> rcases hs : c.source with _ | ⟨_ | _, s⟩ <;>
    simp [dues, owed, owns, hc, hs, Incident.releases, List.countP_cons]

theorem countP_dues_releasesSource (c : Cursor) (source : Source) :
    (dues c).countP (fun n => (Incident.noticed n).releasesSource source)
      = if owns (· == source) c.source then 1 else 0 := by
  rcases hc : c.connection with _ | ⟨_ | _, x⟩ <;> rcases hs : c.source with _ | ⟨_ | _, s⟩ <;>
    simp [dues, owed, owns, hc, hs, Incident.releasesSource, List.countP_cons]

theorem settled_debt (m : Moment) (id : Nat) : m.settled.debt id = m.debt id := by
  simp only [debt, settled_leases, releases, settled_countP, countP_dues_releases, due,
    settled_cursor]
  rcases m.cursor.released with _ | _
  · simp only [Bool.false_and, Bool.true_and, Bool.false_eq_true, if_false]
    omega
  · simp only [if_true, Nat.add_zero]

/-- Settling releases an owned connection, and no other. -/
theorem settled_connections {m : Moment} {id : Nat} (h : m.releases id = m.due id) :
    m.settled.releases id = m.settled.due id := by
  have hdebt := settled_debt m id
  have hleases := settled_leases m id
  simp only [debt] at hdebt
  omega

/-- Settling releases an owned source, and no other. -/
theorem settled_sources {m : Moment} (h : ∀ s, m.sourceReleases s = m.sourceDue s) (s : Source) :
    m.settled.sourceReleases s = m.settled.sourceDue s := by
  specialize h s
  simp only [sourceReleases, sourceDue, settled_countP, countP_dues_releasesSource,
    settled_cursor] at h ⊢
  rcases hr : m.cursor.released with _ | _ <;> simp [hr] at h ⊢ <;> omega

end Moment

end DocumentClient.Cursor
