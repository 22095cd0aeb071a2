/-
  Sessions over gateways that differ in version.

  Every step of a caller who uses cursors does the same before and after an update of the server
  behind the gateway (`indifferent_step`): operations of cursors match themselves, and scheduled
  kills are run one after the other.  So a session leaves the same record (`play_updated`).

  `play_of_versions`: a session over two gateways that differ in version alone leaves the same
  record, request by request and outcome by outcome.
-/
import DocumentClient.Rehearsal.Session
import DocumentClient.Proofs.Cursor.Life
import DocumentClient.Proofs.Rehearsal.Updates

namespace DocumentClient.Rehearsal

/-! ## Use of cursors -/

/-- A cursor is opened over a gateway at an address: its first batch comes from there.  It sets
    no time bound on its fetches. -/
structure Opening.Fits (a : Address) (o : Opening) : Prop where
  untimed : o.maxTimeMs = 0
  first : ∀ first, o.first = .ok first → first.address = a

/-- A step in the use of cursors: cursors are opened, used and closed, and so are the sources and
    connections that they borrow. -/
def Step.Fits (a : Address) : Step → Prop
  | .openCursor opening => opening.Fits a
  | .next | .hasNext | .tryNext | .close _ | .interrupt | .waitClosed | .setBatchSize _ | .iterate
  | .block _ | .runTasks | .info | .takeSource _ | .connect | .release _ | .closeClient => True
  | _ => False

namespace Play

variable {α β γ δ : Type} {a : Address} {R : α → β → Prop} {R' : γ → δ → Prop}
variable {p : Play α} {p' : Play β} {w : World}

/-! ## Steps -/

/-- A program without a state of its own. -/
theorem agrees_run {program : Program Unit α} {program' : Program Unit β}
    (h : program.Matches a Eq R program') :
    Agrees a (Outcome.Alike R) (run program) (run program') :=
  agrees_world fun w hw => agrees_runWith (indifferent_act (levels w)) h w hw

/-- An operation on the cursor at hand. -/
theorem indifferent_onCursor {program : Cursor → Program Cursor α}
    (h : ∀ c, (program c).Matches a (Cursor.Updates a) Eq (program c.updated)) :
    Indifferent a (onCursor program) := by
  refine agrees_world fun w hw => ?_
  rw [latest?_updated]
  rcases hlatest : w.latest? with _ | ⟨number, c⟩
  · exact agrees_throw _ w hw
  · exact indifferent_runOn (indifferent_act (levels w)) number (fits_of_latest? hw hlatest) (h c)
      w hw

theorem indifferent_only (mode : Mode) (operation : String) :
    Indifferent a (only mode operation) := by
  refine agrees_world fun w hw => ?_
  rw [World.updated_mode]
  split
  · exact indifferent_pure () w hw
  · exact agrees_throw _ w hw

theorem indifferent_rounds : Indifferent a rounds := fun _ hw => ⟨.ok rfl, hw⟩

theorem indifferent_turns : Indifferent a turns := fun _ hw => ⟨.ok rfl, hw⟩

theorem indifferent_obtainSource (access : Access) : Indifferent a (obtainSource access) := by
  have htake : (Program.takeSource access : Program Unit Source).Matches a Eq Eq
      (Program.takeSource access) := by
    refine .ask (.source access) ?_
    rintro answer _ rfl
    exact Program.matches_outcome answer
  refine agrees_then (agrees_run htake) fun source => agrees_then ?_ fun _ => indifferent_pure _
  exact agrees_modify (fun _ => rfl) fun _ hw => ⟨hw.gateway, hw.cursors, hw.connection⟩

theorem agrees_obtainConnection (source : Source) :
    Agrees a (Outcome.Alike (Connection.Updates a)) (obtainConnection source)
      (obtainConnection source) := by
  have hlease : (Program.lease source : Program Unit Connection).Matches a Eq
      (Connection.Updates a) (Program.lease source) :=
    .ask (.lease source) fun _ _ h => .done h
  refine agrees_bind (agrees_run hlease) ?_
  rintro x _ ⟨hx, rfl⟩
  have hhold : Agrees a (Outcome.Alike Eq)
      (modify fun w : World => { w with connection := some x } : Play Unit)
      (modify fun w : World => { w with connection := some x.updated }) :=
    agrees_modify (fun _ => rfl) fun _ hw => ⟨hw.gateway, hw.cursors, fun _ hy => by
      cases hy
      exact hx⟩
  exact agrees_bind hhold fun _ _ _ => agrees_pure ⟨hx, rfl⟩

/-- The source and the connection of an opening, before and after an update. -/
def Resourced (a : Address) (x y : Option (Handle Source) × Option (Handle Connection)) : Prop :=
  y = (x.1, x.2.map Handle.updated) ∧ ∀ h, x.2 = some h → h.resource.server.address = a

theorem agrees_obtainResources (o : Opening) :
    Agrees a (Outcome.Alike (Resourced a)) (obtainResources o) (obtainResources o) := by
  unfold obtainResources
  split
  · exact agrees_pure ⟨rfl, fun _ h => by cases h⟩
  refine agrees_then (indifferent_obtainSource .read) fun source => ?_
  dsimp only
  rcases o.connection with _ | custody
  · exact agrees_pure ⟨rfl, fun _ h => by cases h⟩
  refine agrees_bind (agrees_obtainConnection source) ?_
  rintro x _ ⟨hx, rfl⟩
  refine agrees_pure ⟨rfl, fun h hh => ?_⟩
  cases hh
  exact hx

theorem indifferent_openCursor {o : Opening} (ho : o.Fits a) : Indifferent a (openCursor o) := by
  refine agrees_bind (agrees_obtainResources o) ?_
  rintro ⟨source, connection⟩ _ ⟨rfl, hconnection⟩
  rcases hfirst : o.first with e | first
  · exact agrees_throw e
  refine agrees_world fun w hw => ?_
  let plan : Cursor.Plan :=
    { first := first
      limit := o.limit
      batchSize := o.batchSize
      decode := o.decode
      source := source
      connection := connection
      maxTimeMs := o.maxTimeMs
      overrides := o.overrides }
  have hplan : plan.Fits a := ⟨ho.first first hfirst, ho.untimed, hconnection⟩
  refine agrees_bind (agrees_run (Cursor.matches_create hplan w.mode o.loopRuns)) ?_ w hw
  rintro c _ ⟨hc, rfl⟩
  refine agrees_modify (fun w => ?_) fun w hw => ⟨hw.gateway, fun c' hc' => ?_, hw.connection⟩
  · have happend : w.cursors.map Cursor.updated ++ [c.updated]
        = (w.cursors ++ [c]).map Cursor.updated := by
      rw [List.map_append]
      rfl
    exact congrArg (fun cursors => { w.updated with cursors := cursors }) happend
  · rcases List.mem_append.1 hc' with hc' | hc'
    · exact hw.cursors c' hc'
    · obtain rfl := List.mem_singleton.1 hc'
      exact hc

theorem indifferent_next : Indifferent a next := by
  refine agrees_then indifferent_rounds fun rounds =>
    agrees_then (indifferent_onCursor fun _ => Cursor.indifferent_next rounds) fun retrieval => ?_
  have hended : Indifferent a (do
      if (← get).mode = .async then return Answer.nothing else return .stop) := by
    refine agrees_world fun w hw => ?_
    rw [World.updated_mode]
    split <;> exact indifferent_pure _ w hw
  rcases retrieval with documents | _ | _
  · exact indifferent_pure _
  · exact hended
  · exact hended

theorem indifferent_iterate : Indifferent a iterate :=
  agrees_then indifferent_rounds fun rounds => agrees_then
    (indifferent_onCursor fun _ => Cursor.indifferent_remaining rounds rounds) fun _ =>
      indifferent_pure _

theorem indifferent_hasNext : Indifferent a (step .hasNext) := by
  refine agrees_then indifferent_rounds fun rounds => agrees_then
    (indifferent_onCursor fun c => ?_) fun _ => indifferent_pure _
  rw [Cursor.updated_mode]
  rcases hmode : c.mode with _ | _
  · exact Cursor.indifferent_hasNext rounds
  · exact Program.matches_fail _

theorem indifferent_tryNext : Indifferent a (step .tryNext) := by
  refine agrees_then (indifferent_onCursor fun _ => Cursor.indifferent_tryNext) fun batch => ?_
  rcases batch with _ | documents <;> exact indifferent_pure _

theorem indifferent_close (loopRuns : Bool) : Indifferent a (close loopRuns) :=
  indifferent_onCursor fun _ => Cursor.indifferent_close loopRuns

theorem indifferent_info : Indifferent a info := by
  refine indifferent_onCursor fun _ => Cursor.matches_state fun c _ =>
    Program.matches_then ?_ fun _ => Program.matches_pure rfl
  exact Program.matches_outcome c.serverCursor

/-! ## Tasks -/

theorem scheduled_updated (w : World) : w.updated.scheduled
    = w.scheduled.map fun task => (task.1, task.2.1.updated, task.2.2) := by
  unfold World.scheduled
  rw [World.updated_cursors, List.zipIdx_map, List.flatMap_map, List.map_flatMap]
  refine congrArg (fun f => w.cursors.zipIdx.flatMap f) (funext fun entry => ?_)
  rw [List.map_map]
  rfl

theorem fits_of_scheduled (hw : w.Fits a) {task : Nat × Cursor × ServerCursor}
    (h : task ∈ w.scheduled) : task.2.1.Fits a := by
  obtain ⟨⟨c, number⟩, hc, htask⟩ := List.mem_flatMap.1 h
  obtain ⟨target, -, rfl⟩ := List.mem_map.1 htask
  exact hw.cursors c (List.fst_mem_of_mem_zipIdx hc)

theorem unscheduled_updated (w : World) : w.updated.unscheduled = w.unscheduled.updated := by
  have hmap : (w.cursors.map Cursor.updated).map (fun c => { c with cleanups := [] })
      = (w.cursors.map fun c => { c with cleanups := [] }).map Cursor.updated := by
    rw [List.map_map, List.map_map]
    rfl
  exact congrArg (fun cursors => { w.updated with cursors := cursors }) hmap

theorem fits_unscheduled (hw : w.Fits a) : w.unscheduled.Fits a := by
  refine ⟨hw.gateway, fun c hc => ?_, hw.connection⟩
  obtain ⟨c', hc', rfl⟩ := List.mem_map.1 hc
  have hfits := hw.cursors c' hc'
  exact ⟨hfits.untimed, hfits.held, hfits.given⟩

theorem agrees_mapM {f : α → Play γ} {f' : β → Play γ} {g : α → β} :
    ∀ {xs : List α}, (∀ x ∈ xs, Agrees a (Outcome.Alike Eq) (f x) (f' (g x))) →
      Agrees a (Outcome.Alike Eq) (xs.mapM f) ((xs.map g).mapM f')
  | [], _ => indifferent_pure []
  | x :: xs, h => by
    rw [List.map_cons, List.mapM_cons, List.mapM_cons]
    refine agrees_bind (h x (List.mem_cons_self ..)) ?_
    rintro y _ rfl
    refine agrees_bind (agrees_mapM fun x hx => h x (List.mem_cons_of_mem _ hx)) ?_
    rintro ys _ rfl
    exact indifferent_pure (y :: ys)

theorem indifferent_runScheduled : Indifferent a runScheduled := by
  refine agrees_world fun w hw => ?_
  have hset : Agrees a (Outcome.Alike Eq) (set w.unscheduled : Play Unit)
      (set w.updated.unscheduled) := by
    rw [unscheduled_updated]
    exact agrees_modify (f := fun _ => w.unscheduled) (fun _ => rfl) fun _ _ => fits_unscheduled hw
  refine agrees_bind hset (fun _ _ _ => ?_) w hw
  rw [scheduled_updated]
  refine agrees_bind (agrees_mapM fun task htask => ?_) ?_
  · obtain ⟨number, c, target⟩ := task
    have hkill : (Cursor.cleanup target).attempt.Matches a (Cursor.Updates a) Eq
        (Cursor.cleanup target).attempt :=
      Program.matches_mono (fun _ _ h => h.eq)
        (Program.matches_attempt (Cursor.indifferent_cleanup target))
    refine agrees_world fun w' hw' => ends_bind (indifferent_runOn (indifferent_act (levels w'))
      number (fits_of_scheduled hw htask) hkill w' hw') ?_
    rintro outcome _ w₁ rfl hw₁
    exact indifferent_pure (number, outcome) w₁ hw₁
  · rintro outcomes _ rfl
    exact indifferent_pure _

theorem indifferent_runAll (turns : Nat) : Indifferent a (runAll turns) := by
  induction turns with
  | zero => exact indifferent_pure []
  | succ turns ih =>
    refine agrees_world fun w hw => ?_
    rw [scheduled_updated, List.isEmpty_map]
    split
    · exact indifferent_pure [] w hw
    · exact agrees_then indifferent_runScheduled (fun _ => agrees_then ih fun _ =>
        indifferent_pure _) w hw

theorem indifferent_check (failure : Option Failure) : Indifferent a (check failure) := by
  rcases failure with _ | failure
  · exact indifferent_pure ()
  · exact agrees_throw failure

theorem indifferent_waitClosed : Indifferent a waitClosed := by
  refine agrees_world fun w hw => ?_
  rw [latest?_updated]
  rcases w.latest? with _ | ⟨number, c⟩
  · exact agrees_throw _ w hw
  refine agrees_then (indifferent_only .async "wait_closed") (fun _ => ?_) w hw
  change Agrees a _ (if c.cleanups.isEmpty then _ else _) (if c.cleanups.isEmpty then _ else _)
  split
  · exact indifferent_pure ()
  · exact agrees_then indifferent_turns fun turns => agrees_then (indifferent_runAll turns) fun _ =>
      indifferent_check _

theorem indifferent_attempt {p : Play α} (hp : Indifferent a p) : Indifferent a (attempt p) := by
  intro w hw
  have hend := hp.agrees w hw
  change Ends a _ (.ok (p.outcome w).1, (p.outcome w).2)
    (.ok (p.outcome w.updated).1, (p.outcome w.updated).2)
  generalize p.outcome w = x at hend ⊢
  generalize p.outcome w.updated = y at hend ⊢
  obtain ⟨halike, hfits⟩ := hend
  exact ⟨.ok halike, hfits⟩

theorem indifferent_block (iterates : Bool) : Indifferent a (block iterates) := by
  have hbody : Indifferent a (if iterates then iterate else return .nothing) := by
    split
    · exact indifferent_iterate
    · exact indifferent_pure _
  have hclosed : ∀ outcome : Outcome Answer, Indifferent a (do
      close true
      if (← get).mode = .async then waitClosed
      ofOutcome outcome) := by
    refine fun outcome => agrees_then (indifferent_close true) fun _ =>
      agrees_world fun w hw => ?_
    rw [World.updated_mode]
    dsimp only
    split
    · exact agrees_then indifferent_waitClosed (fun _ => indifferent_outcome outcome) w hw
    · exact indifferent_outcome outcome w hw
  refine agrees_world fun w hw => ?_
  rw [latest?_updated, Option.isNone_map]
  dsimp only
  by_cases hnone : w.latest?.isNone
  · rw [if_pos hnone]
    exact ⟨.error _, hw⟩
  · rw [if_neg hnone]
    exact agrees_then (indifferent_attempt hbody) hclosed w hw

/-! ## Sources and connections at hand -/

theorem indifferent_source : Indifferent a source := by
  refine agrees_world fun w hw => ?_
  have hsource : w.updated.source = w.source := rfl
  rw [hsource]
  rcases w.source with _ | source
  · exact agrees_throw _ w hw
  · exact indifferent_pure source w hw

theorem agrees_connection :
    Agrees a (Outcome.Alike (Connection.Updates a)) connection connection := by
  refine agrees_world fun w hw => ?_
  have hconnection : w.updated.connection = w.connection.map Connection.updated := rfl
  rw [hconnection]
  rcases hx : w.connection with _ | x
  · exact agrees_throw _ w hw
  · exact agrees_pure ⟨hw.connection x hx, rfl⟩ w hw

theorem indifferent_release (held : Held) : Indifferent a (step (.release held)) := by
  rcases held with _ | _
  · exact agrees_then indifferent_source fun source => agrees_then
      (agrees_run (Program.matches_notify (.releaseSource source))) fun _ => indifferent_pure _
  · refine agrees_bind agrees_connection ?_
    rintro x _ ⟨-, rfl⟩
    exact agrees_bind (agrees_run (Program.matches_notify (.releaseConnection x))) fun _ _ _ =>
      indifferent_pure _

theorem agrees_gateway : Agrees a (Outcome.Alike fun _ _ => True) gateway gateway := by
  refine agrees_world fun w hw => ?_
  obtain ⟨g, hg, -⟩ := hw.gateway
  have hg' : w.updated.transport = .gateway g.updated := congrArg Transport.updated hg
  rw [hg, hg']
  exact ⟨.ok trivial, hw⟩

theorem indifferent_closeClient : Indifferent a (step .closeClient) := by
  refine agrees_bind agrees_gateway fun _ _ _ => agrees_then (indifferent_only _ _) fun _ =>
    agrees_then ?_ fun _ => indifferent_pure _
  exact agrees_modify (fun _ => rfl) fun _ hw => ⟨hw.gateway, hw.cursors, hw.connection⟩

/-- **Every step of a caller who uses cursors does the same before and after an update.** -/
theorem indifferent_step {s : Step} (hs : s.Fits a) : Indifferent a (step s) := by
  cases s with
  | openCursor opening => exact agrees_then (indifferent_openCursor hs) fun _ => indifferent_pure _
  | next => exact indifferent_next
  | hasNext => exact indifferent_hasNext
  | tryNext => exact indifferent_tryNext
  | close loopRuns => exact agrees_then (indifferent_close loopRuns) fun _ => indifferent_pure _
  | interrupt =>
    exact agrees_then (indifferent_onCursor matches_interrupting) fun _ => indifferent_pure _
  | waitClosed => exact agrees_then indifferent_waitClosed fun _ => indifferent_pure _
  | setBatchSize n =>
    exact agrees_then (indifferent_onCursor fun _ => Cursor.indifferent_setBatchSize n) fun _ =>
      indifferent_pure _
  | iterate => exact indifferent_iterate
  | block iterates => exact indifferent_block iterates
  | runTasks =>
    exact agrees_then indifferent_turns fun turns => agrees_then (indifferent_runAll turns) fun _ =>
      indifferent_pure _
  | info => exact indifferent_info
  | takeSource access =>
    exact agrees_then (indifferent_obtainSource access) fun _ => indifferent_pure _
  | connect =>
    exact agrees_then indifferent_source fun source =>
      agrees_bind (agrees_obtainConnection source) fun _ _ _ => indifferent_pure _
  | release held => exact indifferent_release held
  | closeClient => exact indifferent_closeClient
  | _ => exact hs.elim

end Play

/-! ## Sessions -/

section
variable {a : Address} {w : World}

/-- A step leaves the same entry before and after an update. -/
theorem step_updated {s : Step} (hs : s.Fits a) (hw : w.Fits a) :
    (w.step s).2.Fits a ∧ w.updated.step s = ((w.step s).1, (w.step s).2.updated) := by
  have hend := (Play.indifferent_step hs).agrees w hw
  unfold World.step
  generalize (Play.step s).outcome w = x at hend ⊢
  generalize (Play.step s).outcome w.updated = y at hend ⊢
  obtain @⟨outcome, _, w', rfl, hfits⟩ := hend
  refine ⟨⟨hfits.gateway, hfits.cursors, hfits.connection⟩, ?_⟩
  have hstanding : w'.updated.latest?.map (fun latest => Standing.of latest.2)
      = w'.latest?.map fun latest => Standing.of latest.2 := by
    rw [Play.latest?_updated, Option.map_map]
    rfl
  exact congrArg (fun standing =>
    (Entry.mk outcome w'.events.reverse standing, { w'.updated with events := [] })) hstanding

/-- So do steps one after the other. -/
theorem steps_updated {steps : List Step} (hs : ∀ s ∈ steps, s.Fits a) :
    ∀ {w : World}, w.Fits a → (w.steps steps).2.Fits a ∧
      w.updated.steps steps = ((w.steps steps).1, (w.steps steps).2.updated) := by
  induction steps with
  | nil => exact fun hw => ⟨hw, rfl⟩
  | cons s steps ih =>
    intro w hw
    obtain ⟨hfits, hstep⟩ := step_updated (hs s (List.mem_cons_self ..)) hw
    obtain ⟨hfits', hsteps⟩ := ih (fun s hs' => hs s (List.mem_cons_of_mem _ hs')) hfits
    refine ⟨hfits', ?_⟩
    simp only [World.steps, hstep, hsteps]

theorem finish_updated (hw : w.Fits a) : w.updated.finish = w.finish.updated := by
  have hdrain : Play.Indifferent a (do
      let _ ← Play.runAll (← Play.turns)
      return ()) :=
    Play.agrees_then Play.indifferent_turns fun turns =>
      Play.agrees_then (Play.indifferent_runAll turns) fun _ => Play.indifferent_pure ()
  have hend := hdrain w hw
  unfold World.finish
  dsimp only
  generalize Play.outcome _ w = x at hend ⊢
  generalize Play.outcome _ w.updated = y at hend ⊢
  obtain ⟨-, -⟩ := hend
  rfl

/-- **A session leaves the same record before and after an update.** -/
theorem play_updated {steps : List Step} (hs : ∀ s ∈ steps, s.Fits a) (hw : w.Fits a) :
    play steps w.updated = play steps w := by
  obtain ⟨hfits, hsteps⟩ := steps_updated hs hw
  simp only [play, hsteps, finish_updated hfits]
  rfl

end

/-! ## Versions -/

/-- The version of the server is not looked at when a gateway is made. -/
theorem gateway_of_version (plan : Http.Gateway.Plan) (version : Version) :
    Http.Gateway.of { plan with serverVersion := version }
      = (Http.Gateway.of plan).map (Http.Gateway.withVersion version) := by
  unfold Http.Gateway.of
  dsimp only
  rcases Http.addressOfEndpoint plan.endpoint with e | address
  · rfl
  rcases Outcome.ofValid (Named.coerce plan.serverType : Except Invalid ServerType) with e | type
  · rfl
  rcases Outcome.ofValid (Settings.default.overriddenBy plan.overrides) with e | settings <;> rfl

/-- **The version behind a gateway makes no difference.**  If the server of a plan is said to have
    one version or another, the gateway can be made alike, and any session over it in which
    cursors are used leaves the same record: the same requests, in the same order and to the
    letter, and after each step the same batch or failure, and the same state.  So it is in both
    modes, whatever the gateway answers, and whatever is done while it is asked. -/
theorem play_of_versions (plan : Http.Gateway.Plan) (older newer : Version) {g : Http.Gateway}
    (hg : Http.Gateway.of { plan with serverVersion := older } = .ok g) :
    ∃ g', Http.Gateway.of { plan with serverVersion := newer } = .ok g' ∧
      ∀ (w : World) (steps : List Step), w.cursors = [] → w.connection = none →
        (∀ s ∈ steps, s.Fits g.server.address) →
        play steps { w with transport := .gateway g }
          = play steps { w with transport := .gateway g' } := by
  rw [gateway_of_version] at hg ⊢
  generalize Http.Gateway.of plan = made at hg ⊢
  rcases made with e | made
  · cases hg
  cases hg
  refine ⟨_, rfl, fun w steps hcursors hconnection hsteps => ?_⟩
  have hfits : ∀ g : Http.Gateway, g.server.address = made.server.address →
      World.Fits made.server.address { w with transport := .gateway g } :=
    fun g hg => ⟨⟨g, rfl, hg⟩, by simp [hcursors], by simp [hconnection]⟩
  exact (play_updated hsteps (hfits (made.withVersion older) rfl)).symm.trans
    (play_updated hsteps (hfits (made.withVersion newer) rfl))

/-! ## An example -/

/-- The gateway of a library. -/
def libraryPlan : Http.Gateway.Plan := { endpoint := "http://library.test/api" }

def libraryAddress : Address := ⟨"library.test", 80⟩

def libraryGateway (version : Version) : Http.Gateway where
  commander := .of libraryPlan.endpoint "" [] [Http.authorizationHeader] (some libraryAddress)
  server := { address := libraryAddress, version := version }
  preference := .primary
  settings := .default

theorem of_libraryPlan (version : Version) : Http.Gateway.of { libraryPlan with
    serverVersion := version } = .ok (libraryGateway version) := by
  have haddress : Http.addressOfEndpoint libraryPlan.endpoint = .ok libraryAddress := by
    have hread : (Http.addressOfEndpoint libraryPlan.endpoint).toOption = some libraryAddress := by
      decide +kernel
    generalize Http.addressOfEndpoint libraryPlan.endpoint = o at hread
    rcases o with e | address
    · cases hread
    · cases hread
      rfl
  unfold Http.Gateway.of
  dsimp only
  rw [haddress]
  rfl

/-- One of at most three books is at hand, and the next are asked for two at a time. -/
def libraryOpening : Opening where
  first := .ok { (Cursor.Plan.sample 0).first with
    results := [.text "Emma"], address := libraryAddress }
  limit := 3
  batchSize := 2

def librarySteps : List Step := [.openCursor libraryOpening, .next, .next, .next, .close true]

/-- One reply will come, with another book and no more. -/
def libraryReply : String := "\x7b\"ok\":1,\"cursor\":\x7b"
  ++ "\"id\":0,\"ns\":\"library.books\",\"nextBatch\":[\"Ulysses\"]\x7d\x7d"

def libraryWorld (version : Version) : World where
  mode := .blocking
  transport := .gateway (libraryGateway version)
  script := { responses := [⟨[], .ok (.response ⟨200, [], Text.Utf8.encode libraryReply⟩)⟩] }

/-- The body of the request for it. -/
def libraryRequest : String := "\x7b\"getMore\":7,\"collection\":\"books\",\"batchSize\":2\x7d"

/-- The body of a request that was sent. -/
def Event.body? : Event → Option String
  | .http request => request.body
  | _ => none

/-- The bodies of the requests in a record. -/
def Record.bodies (r : Record) : List String :=
  (r.entries.flatMap Entry.events ++ r.last).filterMap Event.body?

theorem fits_librarySteps : ∀ s ∈ librarySteps, s.Fits libraryAddress := by
  intro s hs
  rcases List.mem_cons.1 hs with rfl | hs
  · exact ⟨rfl, fun first hfirst => by cases hfirst; rfl⟩
  · simp only [List.mem_cons, List.not_mem_nil, or_false] at hs
    rcases hs with rfl | rfl | rfl | rfl <;> trivial

theorem play_library :
    Version.atLeast [3, 0] Server.fetchCommandVersion = false ∧
    Version.atLeast [3, 2] Server.fetchCommandVersion = true ∧
    (play librarySteps (libraryWorld [3, 0])).bodies = [libraryRequest] ∧
    play librarySteps (libraryWorld [3, 0]) = play librarySteps (libraryWorld [3, 2]) := by
  obtain ⟨g, hg, hplay⟩ := play_of_versions libraryPlan [3, 0] [3, 2] (of_libraryPlan [3, 0])
  obtain rfl := Except.ok.inj ((of_libraryPlan [3, 2]).symm.trans hg)
  refine ⟨by decide, by decide, by decide +kernel, ?_⟩
  exact hplay (libraryWorld []) librarySteps rfl rfl fits_librarySteps

end DocumentClient.Rehearsal
