/-
  The retrieval under way.

  There is one retrieval at a time (`Life.single_of_reaches`).  So where one waits for an
  answer, the first retrieval to end afterwards is that one, whatever else goes on
  meanwhile: `Life.goesOn_of_reaches`.
-/
import DocumentClient.Proofs.Cursor.Life

namespace DocumentClient.Cursor.Life

variable {r : Regime} {l l' : Life} {a : Activity} {since : List Incident}

/-- What an activity does up to its next exchange or its end: it begins nothing, and ends nothing
    but itself. -/
theorem proceed_cases (a : Activity) (ts : List Thread) (p : Program Cursor Yield) :
    ∀ m : Moment, ∃ during, (∀ i ∈ during, ∀ f, i.begins f = false) ∧
      ((∃ o, (proceed a ts p m).moment.history = .ended a o :: (during ++ m.history) ∧
        (proceed a ts p m).threads = ts) ∨
      ∃ rest, (proceed a ts p m).moment.history = during ++ m.history ∧
        (proceed a ts p m).threads = ⟨a, rest⟩ :: ts) := by
  induction p with
  | done outcome => exact fun m => ⟨[], by simp, .inl ⟨outcome, rfl, rfl⟩⟩
  | read next ih => exact fun m => ih _ m
  | write c next ih => exact fun m => ih { m with cursor := c }
  | note n next ih =>
    intro m
    obtain ⟨during, hduring, h⟩ := ih (m.record (.noticed n))
    refine ⟨during ++ [.noticed n], fun i hi f => ?_, ?_⟩
    · rcases List.mem_append.1 hi with hi | hi
      · exact hduring i hi f
      · obtain rfl := List.mem_singleton.1 hi
        rfl
    · rw [List.append_assoc]
      exact h
  | ask q next ih =>
    refine fun m => ⟨[.asked q], fun i hi f => ?_, .inr ⟨_, rfl, rfl⟩⟩
    obtain rfl := List.mem_singleton.1 hi
    rfl

theorem suffix_proceed (a : Activity) (ts : List Thread) (p : Program Cursor Yield) (m : Moment) :
    m.history <:+ (proceed a ts p m).moment.history := by
  obtain ⟨during, -, ⟨o, h, -⟩ | ⟨rest, h, -⟩⟩ := proceed_cases a ts p m
  · rw [h]
    exact (List.suffix_append ..).trans (List.suffix_cons ..)
  · rw [h]
    exact List.suffix_append ..

theorem suffix_begin (a : Activity) (l : Life) :
    l.moment.history <:+ (l.begin a).moment.history := by
  have h := suffix_proceed a l.threads a.program (l.moment.record (.begun a))
  exact (List.suffix_cons ..).trans h

/-- What has happened stays so. -/
theorem suffix_step (hs : Step r l l') : l.moment.history <:+ l'.moment.history := by
  cases hs with
  | call _ => exact suffix_begin _ l
  | @run _ before after target _ => exact suffix_begin _ (l.unscheduled (before ++ after))
  | @resume m before after a q next x _ _ =>
    have h := suffix_proceed a (before ++ after) (next x) (m.answer q x)
    exact (List.suffix_cons ..).trans h

/-- How many retrievals wait. -/
def retrieving (ts : List Thread) : Nat := ts.countP (·.activity.isRetrieval)

theorem retrieving_cons (a : Activity) (rest : Program Cursor Yield) (ts : List Thread) :
    retrieving (⟨a, rest⟩ :: ts) = retrieving ts + if a.isRetrieval then 1 else 0 :=
  List.countP_cons

theorem retrieving_extract (t : Thread) (before after : List Thread) :
    retrieving (before ++ t :: after)
      = retrieving (before ++ after) + if t.activity.isRetrieval then 1 else 0 := by
  simp only [retrieving, List.countP_append, List.countP_cons]
  omega

theorem retrieving_proceed (a : Activity) (ts : List Thread) (p : Program Cursor Yield)
    (m : Moment) : retrieving (proceed a ts p m).threads
      ≤ retrieving ts + if a.isRetrieval then 1 else 0 := by
  obtain ⟨during, -, ⟨o, -, h⟩ | ⟨rest, -, h⟩⟩ := proceed_cases a ts p m
  · rw [h]
    exact Nat.le_add_right ..
  · exact Nat.le_of_eq ((congrArg retrieving h).trans (retrieving_cons a rest ts))

/-- A retrieval is called where none waits. -/
theorem MayCall.alone (h : MayCall r a l) (ha : a.isRetrieval) : retrieving l.threads = 0 := by
  have hsingle := h.single ha
  split at hsingle
  · rw [hsingle]
    rfl
  · exact List.countP_eq_zero.2 fun t ht => by simp [hsingle t ht]

/-- **There is one retrieval at a time.** -/
theorem single_of_reaches {c : Cursor} {first : QueryResult} {loopRuns : Bool}
    (hl : Reaches r (opening c first loopRuns) l) : retrieving l.threads ≤ 1 := by
  induction hl with
  | refl =>
    have hopened := retrieving_proceed (.opening first loopRuns) []
      (Activity.opening first loopRuns).program ⟨c, [.begun (.opening first loopRuns)]⟩
    exact Nat.le_trans hopened (Nat.zero_le 1)
  | tail _ hstep ih =>
    cases hstep with
    | @call l a h =>
      refine Nat.le_trans (retrieving_proceed ..) ?_
      rcases ha : a.isRetrieval with _ | _
      · simpa using ih
      · rw [h.alone ha]
        decide
    | run h => exact Nat.le_trans (retrieving_proceed ..) ih
    | resume order h =>
      rw [retrieving_extract] at ih
      exact Nat.le_trans (retrieving_proceed ..) ih

/-! ## Its end -/

/-- Since a history no retrieval was called. -/
def Uncalled (since : List Incident) (m : Moment) : Prop :=
  ∃ during, m.history = during ++ since ∧ ∀ i ∈ during, i.begins Activity.isRetrieval = false

/-- A retrieval has gone on since a history. -/
structure Ongoing (a : Activity) (since : List Incident) (l : Life) : Prop where
  uncalled : Uncalled since l.moment
  own : ∀ t ∈ l.threads, t.activity.isRetrieval → t.activity = a
  single : retrieving l.threads = 1

/-- A retrieval has ended, and none was called between a history and its end. -/
def Over (a : Activity) (o : Outcome Yield) (since : List Incident) (l : Life) : Prop :=
  ∃ later during, l.moment.history = later ++ .ended a o :: (during ++ since) ∧
    ∀ i ∈ during, i.begins Activity.isRetrieval = false

/-- A retrieval has gone on since a history, and may have come to its end. -/
def GoesOn (a : Activity) (since : List Incident) (l : Life) : Prop :=
  Ongoing a since l ∨ ∃ o, Over a o since l

theorem Uncalled.append {m m' : Moment} (h : Uncalled since m) {during : List Incident}
    (hduring : ∀ i ∈ during, i.begins Activity.isRetrieval = false)
    (hm : m'.history = during ++ m.history) : Uncalled since m' := by
  obtain ⟨earlier, heq, hearlier⟩ := h
  refine ⟨during ++ earlier, by rw [hm, heq, List.append_assoc], fun i hi => ?_⟩
  rcases List.mem_append.1 hi with hi | hi
  · exact hduring i hi
  · exact hearlier i hi

theorem Over.later {o : Outcome Yield} (h : Over a o since l)
    (hl : l.moment.history <:+ l'.moment.history) : Over a o since l' := by
  obtain ⟨later, during, heq, hduring⟩ := h
  obtain ⟨last, hlast⟩ := hl
  exact ⟨last ++ later, during, by rw [← hlast, heq, List.append_assoc], hduring⟩

/-- A retrieval that waits is the only one. -/
theorem ongoing_of_waits {m : Moment} {before after : List Thread} {rest : Program Cursor Yield}
    (hsingle : retrieving (before ++ ⟨a, rest⟩ :: after) ≤ 1) (ha : a.isRetrieval) :
    Ongoing a m.history ⟨m, before ++ ⟨a, rest⟩ :: after⟩ := by
  have hcount := retrieving_extract ⟨a, rest⟩ before after
  rw [if_pos ha] at hcount
  have hothers : retrieving (before ++ after) = 0 := by omega
  refine ⟨⟨[], rfl, by simp⟩, fun t ht hretrieval => ?_, hcount.trans (by omega)⟩
  rcases List.mem_append.1 ht with ht | ht
  · exact absurd hretrieval (List.countP_eq_zero.1 hothers t (List.mem_append_left _ ht))
  · rcases List.mem_cons.1 ht with rfl | ht
    · rfl
    · exact absurd hretrieval (List.countP_eq_zero.1 hothers t (List.mem_append_right _ ht))

/-- The retrieval under way goes on itself. -/
theorem goesOn_proceed {m : Moment} {ts : List Thread} (h : Uncalled since m) (ha : a.isRetrieval)
    (hts : retrieving ts = 0) (p : Program Cursor Yield) : GoesOn a since (proceed a ts p m) := by
  obtain ⟨during, hduring, ⟨o, hhistory, hthreads⟩ | ⟨rest, hhistory, hthreads⟩⟩ :=
    proceed_cases a ts p m
  · obtain ⟨earlier, heq, hearlier⟩ := h
    refine .inr ⟨o, [], during ++ earlier, ?_, fun i hi => ?_⟩
    · rw [hhistory, heq, List.nil_append, List.append_assoc]
    · rcases List.mem_append.1 hi with hi | hi
      · exact hduring i hi _
      · exact hearlier i hi
  · refine .inl ⟨h.append (fun i hi => hduring i hi _) hhistory, ?_, ?_⟩
    · intro t ht hretrieval
      rw [hthreads] at ht
      rcases List.mem_cons.1 ht with rfl | ht
      · rfl
      · exact absurd hretrieval (List.countP_eq_zero.1 hts t ht)
    · rw [hthreads, retrieving_cons, hts, if_pos ha]

/-- Another activity goes on beside it. -/
theorem Ongoing.goesOn_beside {m m' : Moment} {ts : List Thread} {b : Activity}
    (h : Ongoing a since ⟨m, ts⟩) (hb : b.isRetrieval = false) {during : List Incident}
    (hduring : ∀ i ∈ during, i.begins Activity.isRetrieval = false)
    (hm : m'.history = during ++ m.history) (p : Program Cursor Yield) :
    GoesOn a since (proceed b ts p m') := by
  have h' := h.uncalled.append hduring hm
  obtain ⟨during', hduring', ⟨o, hhistory, hthreads⟩ | ⟨rest, hhistory, hthreads⟩⟩ :=
    proceed_cases b ts p m'
  · have hlast : ∀ i ∈ .ended b o :: during', i.begins Activity.isRetrieval = false := by
      intro i hi
      rcases List.mem_cons.1 hi with rfl | hi
      · rfl
      · exact hduring' i hi _
    refine .inl ⟨h'.append hlast hhistory, ?_, ?_⟩
    · rw [hthreads]
      exact h.own
    · rw [hthreads]
      exact h.single
  · refine .inl ⟨h'.append (fun i hi => hduring' i hi _) hhistory, ?_, ?_⟩
    · intro t ht hretrieval
      rw [hthreads] at ht
      rcases List.mem_cons.1 ht with rfl | ht
      · simp [hb] at hretrieval
      · exact h.own t ht hretrieval
    · rw [hthreads, retrieving_cons, hb]
      exact h.single

/-- One step leaves the retrieval under way, or ends it. -/
theorem goesOn_step (hs : Step r l l') (ha : a.isRetrieval) (h : GoesOn a since l) :
    GoesOn a since l' := by
  rcases h with h | ⟨o, h⟩
  · cases hs with
    | @call _ b hcall =>
      have hb : b.isRetrieval = false := by
        rcases hb : b.isRetrieval with _ | _
        · rfl
        · have := h.single
          rw [hcall.alone hb] at this
          omega
      have hbegun : ∀ i ∈ [Incident.begun b], i.begins Activity.isRetrieval = false := by
        simpa [Incident.begins] using hb
      exact h.goesOn_beside hb hbegun rfl _
    | @run _ before after target _ =>
      have hbegun : ∀ i ∈ [Incident.begun (.cleanup target)],
          i.begins Activity.isRetrieval = false := by simp [Incident.begins, Activity.isRetrieval]
      exact h.goesOn_beside (b := .cleanup target) rfl hbegun rfl _
    | @resume m before after b q next x _ _ =>
      have hanswered : ∀ i ∈ [Incident.answered q x (!m.cursor.closed)],
          i.begins Activity.isRetrieval = false := by simp [Incident.begins]
      have hsingle := h.single
      rw [retrieving_extract] at hsingle
      rcases hb : b.isRetrieval with _ | _
      · simp only [hb, Bool.false_eq_true, if_false] at hsingle
        have hothers : Ongoing a since ⟨m, before ++ after⟩ :=
          ⟨h.uncalled, fun t ht => h.own t (Thread.mem_beside _ ht), hsingle⟩
        exact hothers.goesOn_beside hb hanswered rfl _
      · obtain rfl : b = a := h.own ⟨b, .ask q next⟩ (by simp) hb
        refine goesOn_proceed (h.uncalled.append hanswered rfl) ha ?_ _
        simp only [hb, if_true] at hsingle
        omega
  · exact .inr ⟨o, h.later (suffix_step hs)⟩

/-- **A retrieval that waits is the next to end.** -/
theorem goesOn_of_reaches (hl : Reaches r l l') (ha : a.isRetrieval) (h : GoesOn a since l) :
    GoesOn a since l' := by
  induction hl with
  | refl => exact h
  | tail _ hstep ih => exact goesOn_step hstep ha ih

/-- Where no retrieval waits any more it has ended. -/
theorem GoesOn.over (h : GoesOn a since l)
    (hover : ∀ t ∈ l.threads, t.activity.isRetrieval = false) : ∃ o, Over a o since l := by
  rcases h with h | h
  · have hnone : retrieving l.threads = 0 := List.countP_eq_zero.2 fun t ht => by simp [hover t ht]
    have := h.single
    omega
  · exact h

end DocumentClient.Cursor.Life
