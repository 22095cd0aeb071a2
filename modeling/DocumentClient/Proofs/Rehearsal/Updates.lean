/-
  Worlds over gateways that differ in version.

  `World.updated` is a world after the update of the server behind its gateway.  Two plays agree
  if they end alike before and after the update, and leave worlds that again differ by it alone
  (`Play.Agrees`).

  `agrees_answer`: an exchange and the one that it meets after the update are answered alike, a
  message and the command that stands for it among them, for to the gateway both are the same
  request.  `agrees_interpret`: so programs that match do the same in both worlds, whatever else
  is done while they wait.
-/
import DocumentClient.Rehearsal.Performance
import DocumentClient.Proofs.Cursor.Versions

namespace DocumentClient

/-! ## Updated worlds -/

/-- The gateway, if its server has another version. -/
def Http.Gateway.withVersion (version : Version) (g : Http.Gateway) : Http.Gateway :=
  { g with server := { g.server with version := version } }

/-- The gateway, if the server behind it is updated. -/
def Http.Gateway.updated (g : Http.Gateway) : Http.Gateway := { g with server := g.server.updated }

namespace Rehearsal

def Transport.updated : Transport → Transport
  | .gateway g => .gateway g.updated
  | t => t

namespace World

/-- The world, if the server behind its gateway is updated. -/
def updated (w : World) : World :=
  { w with
    transport := w.transport.updated
    cursors := w.cursors.map Cursor.updated
    connection := w.connection.map Connection.updated }

/-- There is a gateway at an address, and all that is at hand goes over it. -/
structure Fits (a : Address) (w : World) : Prop where
  gateway : ∃ g, w.transport = .gateway g ∧ g.server.address = a
  cursors : ∀ c ∈ w.cursors, c.Fits a
  connection : ∀ x, w.connection = some x → x.server.address = a

theorem updated_mode (w : World) : w.updated.mode = w.mode := rfl

theorem updated_cursors (w : World) : w.updated.cursors = w.cursors.map Cursor.updated := rfl

/-- Only the number of a connection that is released is looked at. -/
theorem take_updated (n : Notice) (w : World) : w.take n.updated = w.take n := by
  cases n <;> rfl

theorem updated_take (n : Notice) (w : World) : w.updated.take n = (w.take n).updated := by
  cases n with
  | releaseSource source | releaseConnection connection =>
    obtain ⟨mode, _ | _ | _⟩ := w <;> rfl
  | log level message =>
    change (if w.records level && !tellsHeaders message then _ else _)
      = World.updated (if w.records level && !tellsHeaders message then _ else _)
    split <;> rfl
  | deprecation message => rfl

theorem Fits.take {a : Address} {w : World} (h : w.Fits a) (n : Notice) : (w.take n).Fits a := by
  obtain ⟨g, hg, ha⟩ := h.gateway
  have hrecord : ∀ e, (w.record e).Fits a := fun _ => ⟨h.gateway, h.cursors, h.connection⟩
  cases n with
  | releaseSource source | releaseConnection connection =>
    simp only [World.take, hg]
    exact ⟨⟨g, rfl, ha⟩, h.cursors, h.connection⟩
  | log level message =>
    unfold World.take
    dsimp only
    split
    · exact hrecord _
    · exact h
  | deprecation message => exact hrecord _

end World

/-! ## Agreement -/

/-- Two plays have ended alike, in worlds that differ by an update. -/
inductive Ends {α β : Type} (a : Address) (S : Outcome α → Outcome β → Prop) :
    Outcome α × World → Outcome β × World → Prop where
  | intro {o : Outcome α} {o' : Outcome β} {w : World} (alike : S o o') (fits : w.Fits a) :
      Ends a S (o, w) (o', w.updated)

/-- A play ends alike before and after an update. -/
def Play.Agrees {α β : Type} (a : Address) (S : Outcome α → Outcome β → Prop) (p : Play α)
    (p' : Play β) : Prop :=
  ∀ w : World, w.Fits a → Ends a S (p.outcome w) (p'.outcome w.updated)

/-- A play does the same before and after an update. -/
def Play.Indifferent {α : Type} (a : Address) (p : Play α) : Prop :=
  Play.Agrees a (Outcome.Alike Eq) p p

namespace Play

variable {α β γ δ : Type} {a : Address} {R : α → β → Prop} {R' : γ → δ → Prop}
variable {p : Play α} {p' : Play β} {w : World}

theorem agrees_pure {x : α} {y : β} (h : R x y) : Agrees a (Outcome.Alike R) (pure x) (pure y) :=
  fun _ hw => ⟨.ok h, hw⟩

theorem indifferent_pure (x : α) : Indifferent a (pure x : Play α) := agrees_pure rfl

theorem agrees_throw (e : Failure) :
    Agrees a (Outcome.Alike R) (throw e : Play α) (throw e : Play β) :=
  fun _ hw => ⟨.error e, hw⟩

theorem indifferent_outcome (o : Outcome α) : Indifferent a (ofOutcome o) := by
  rcases o with e | x
  · exact agrees_throw e
  · exact indifferent_pure x

theorem outcome_bind (p : Play α) (f : α → Play γ) (w : World) :
    (p >>= f).outcome w = match p.outcome w with
      | (.ok x, w') => (f x).outcome w'
      | (.error e, w') => (.error e, w') := by
  change (ExceptT.bindCont f (p.outcome w).1 : StateM World (Outcome γ)) (p.outcome w).2 = _
  rcases p.outcome w with ⟨e | x, w'⟩ <;> rfl

/-- One play after another, from a given world. -/
theorem ends_bind {f : α → Play γ} {f' : β → Play δ}
    (hp : Ends a (Outcome.Alike R) (p.outcome w) (p'.outcome w.updated))
    (hf : ∀ x y w', R x y → w'.Fits a →
      Ends a (Outcome.Alike R') ((f x).outcome w') ((f' y).outcome w'.updated)) :
    Ends a (Outcome.Alike R') ((p >>= f).outcome w) ((p' >>= f').outcome w.updated) := by
  rw [outcome_bind, outcome_bind]
  generalize p.outcome w = x at hp ⊢
  generalize p'.outcome w.updated = y at hp ⊢
  obtain ⟨⟨h⟩ | e, hfits⟩ := hp
  · exact hf _ _ _ h hfits
  · exact ⟨.error e, hfits⟩

theorem agrees_bind {f : α → Play γ} {f' : β → Play δ} (hp : Agrees a (Outcome.Alike R) p p')
    (hf : ∀ x y, R x y → Agrees a (Outcome.Alike R') (f x) (f' y)) :
    Agrees a (Outcome.Alike R') (p >>= f) (p' >>= f') :=
  fun w hw => ends_bind (hp w hw) fun x y w' h hw' => hf x y h w' hw'

/-- What follows a play that does the same. -/
theorem agrees_then {p : Play α} {f : α → Play γ} {f' : α → Play δ} (hp : Indifferent a p)
    (hf : ∀ x, Agrees a (Outcome.Alike R') (f x) (f' x)) :
    Agrees a (Outcome.Alike R') (p >>= f) (p >>= f') := by
  refine agrees_bind hp ?_
  rintro x _ rfl
  exact hf x

theorem indifferent_map {p : Play α} (hp : Indifferent a p) (f : α → γ) :
    Indifferent a (f <$> p) :=
  agrees_then hp fun x => indifferent_pure (f x)

/-- What is done with the world as it is. -/
theorem agrees_world {S : Outcome γ → Outcome δ → Prop} {f : World → Play γ} {f' : World → Play δ}
    (h : ∀ w : World, w.Fits a → Ends a S ((f w).outcome w) ((f' w.updated).outcome w.updated)) :
    Agrees a S (get >>= f) (get >>= f') :=
  h

/-- Worlds that are changed alike. -/
theorem agrees_modify {f f' : World → World} (hf : ∀ w, f' w.updated = (f w).updated)
    (hfits : ∀ w : World, w.Fits a → (f w).Fits a) :
    Agrees a (Outcome.Alike Eq) (modify f : Play Unit) (modify f') := by
  intro w hw
  have hend : Ends a (Outcome.Alike Eq) (.ok (), f w) (.ok (), (f w).updated) :=
    ⟨.ok rfl, hfits w hw⟩
  rw [← hf w] at hend
  exact hend

/-! ## Parts of a play -/

theorem indifferent_record (e : Event) : Indifferent a (record e) :=
  agrees_modify (fun _ => rfl) fun _ hw => ⟨hw.gateway, hw.cursors, hw.connection⟩

theorem indifferent_draw (take : Script → Option α × Script) : Indifferent a (draw take) :=
  agrees_world fun _ hw => ⟨.ok rfl, ⟨hw.gateway, hw.cursors, hw.connection⟩⟩

theorem indifferent_nextConnection : Indifferent a nextConnection :=
  agrees_world fun _ hw => ⟨.ok rfl, ⟨hw.gateway, hw.cursors, hw.connection⟩⟩

theorem indifferent_ensureSource (source : Source) : Indifferent a (ensureSource source) :=
  agrees_world fun w hw => indifferent_outcome
    (Http.Gateway.ensureUsable (w.isReleased source) .sourceReleased) w hw

theorem indifferent_forM {f : α → Play Unit} (hf : ∀ x, Indifferent a (f x)) :
    ∀ xs : List α, Indifferent a (xs.forM f)
  | [] => indifferent_pure ()
  | x :: xs => agrees_then (hf x) fun _ => indifferent_forM hf xs

section
variable {act : Action → Play Unit}

theorem indifferent_takeActions (hact : ∀ action, Indifferent a (act action))
    (actions : List Action) : Indifferent a (takeActions act actions) :=
  indifferent_forM (fun action => agrees_then (indifferent_record _) fun _ => hact action) actions

theorem indifferent_pass (hact : ∀ action, Indifferent a (act action)) (length : Duration) :
    Indifferent a (pass act length) :=
  agrees_then (indifferent_record _) fun _ => agrees_then (indifferent_draw _) fun actions =>
    indifferent_takeActions hact (actions.getD [])

theorem indifferent_receive (request : HttpRequest) (response : HttpResponse) :
    Indifferent a (receive request response) := by
  refine agrees_world fun w hw => ?_
  have hclient : w.updated.client = w.client := rfl
  rw [hclient]
  rcases w.client.receive request response with ⟨outcome, client⟩
  have hfits : World.Fits a { w with client := client } :=
    ⟨hw.gateway, hw.cursors, hw.connection⟩
  exact indifferent_outcome outcome _ hfits

theorem indifferent_respond (hact : ∀ action, Indifferent a (act action))
    (request : HttpRequest) : Indifferent a (respond act request) := by
  refine agrees_world fun w hw => ends_bind (indifferent_outcome (w.client.send request) w hw) ?_
  rintro sent _ w' rfl hw'
  refine (agrees_then (indifferent_record (.http sent)) fun _ =>
    agrees_then (indifferent_draw _) fun entry => ?_) w' hw'
  rcases entry with _ | entry
  · exact agrees_throw _
  refine agrees_then (indifferent_takeActions hact _) fun _ =>
    agrees_then (indifferent_outcome _) fun result => ?_
  rcases result with response | ⟨phase, text⟩
  · exact agrees_then (indifferent_outcome _) fun response =>
      indifferent_map (indifferent_receive sent response) _
  · exact indifferent_pure _

/-! ## Gateways -/

/-- What goes on from answers that are alike. -/
theorem ends_ask {σ τ : Type} {i i' : Program.Interpreter World} {cell : Program.Cell World σ}
    {cell' : Program.Cell World τ} {q q' : Exchange}
    {S : Outcome q.Answer → Outcome q'.Answer → Prop} {S' : Outcome α → Outcome β → Prop}
    {next : Outcome q.Answer → Program σ α} {next' : Outcome q'.Answer → Program τ β}
    (h : Ends a S (i.answer q w) (i'.answer q' w.updated))
    (hnext : ∀ x y w', S x y → w'.Fits a → Ends a S' (Program.interpret i cell (next x) w')
      (Program.interpret i' cell' (next' y) w'.updated)) :
    Ends a S' (Program.interpret i cell (.ask q next) w)
      (Program.interpret i' cell' (.ask q' next') w.updated) := by
  change Ends a S' (Program.interpret i cell (next (i.answer q w).1) (i.answer q w).2)
    (Program.interpret i' cell' (next' (i'.answer q' w.updated).1) (i'.answer q' w.updated).2)
  generalize i.answer q w = x at h ⊢
  generalize i'.answer q' w.updated = y at h ⊢
  obtain ⟨halike, hfits⟩ := h
  exact hnext _ _ _ halike hfits

/-- A gateway is asked for the same before and after an update. -/
theorem indifferent_throughGateway (hact : ∀ action, Indifferent a (act action))
    (program : Program Unit α) : Indifferent a (throughGateway act program) := by
  unfold throughGateway
  induction program with
  | done o => exact fun w hw => ⟨.refl o, hw⟩
  | read next ih => exact ih ()
  | write s next ih => exact ih
  | note n next ih =>
    intro w hw
    have hnext := ih (w.take n) (hw.take n)
    rw [← World.updated_take] at hnext
    exact hnext
  | ask q next ih =>
    intro w hw
    have hanswer : Ends a (Outcome.Alike Eq) ((gatewayInterpreter act).answer q w)
        ((gatewayInterpreter act).answer q w.updated) := by
      cases q with
      | pause length => exact indifferent_pass hact length w hw
      | http request => exact indifferent_respond hact request w hw
      | _ => exact ⟨.error _, hw⟩
    refine ends_ask hanswer fun x y w' h hw' => ?_
    obtain rfl := h.eq
    exact ih x w' hw'

theorem Indifferent.agrees {p : Play α} (h : Indifferent a p) : Agrees a Eq p p := by
  intro w hw
  have hend := h w hw
  generalize p.outcome w = x at hend ⊢
  generalize p.outcome w.updated = y at hend ⊢
  obtain ⟨halike, hfits⟩ := hend
  exact ⟨halike.eq, hfits⟩

theorem outcome_answer (act : Action → Play Unit) (q : Exchange) {g : Http.Gateway}
    (hg : w.transport = .gateway g) :
    (answer act q).outcome w = (answerGateway act g q).outcome w := by
  obtain ⟨mode, transport⟩ := w
  obtain rfl : transport = .gateway g := hg
  rfl

/-- A message to a gateway is a command, whose reply is read as that of a fetch by command. -/
theorem interpret_getMore {ω : Type} {i : Program.Interpreter ω} {cell : Program.Cell ω Unit}
    {g : Http.Gateway} {x : Connection} (hx : x.server.address = g.server.address)
    {target : ServerCursor} (ht : target.address = g.server.address) (released : Bool)
    (ns : Namespace) (count : Int) (decode : Decoder) (w : ω) {answered : Outcome Value × ω}
    (h : answered = Program.interpret i cell (g.command released ns.database
      (getMoreCommand ns target.id count.natAbs 0) false .any
      (Decoder.ofResults decode nextBatchField)) w) :
    Program.interpret i cell (g.getMore released ns target.id count decode) w
      = (Cursor.fetched target (commandOf x ns target.id count decode) answered.1, answered.2) := by
  have hfailure : ∀ e, g.fetchFailure target.id e = Cursor.fetchFailure target e := by
    intro e
    cases e with
    | command failure =>
      simp only [Http.Gateway.fetchFailure, ServerCursor.of, dif_neg target.id_ne_zero,
        Cursor.fetchFailure, ht]
    | _ => rfl
  rw [Http.Gateway.getMore, Program.interpret_bind, Program.interpret_attempt, ← h]
  rcases answered with ⟨e | reply, w'⟩
  · exact congrArg (fun e => (Except.error e, w')) (hfailure e)
  · exact congrArg (fun address => (QueryResult.ofGetMoreReply reply address, w')) hx.symm

/-- A command to a gateway is answered alike. -/
theorem agrees_command (hact : ∀ action, Indifferent a (act action)) (g : Http.Gateway)
    (x : Connection) (database : String) (command : Document) (secondaryOk : Bool)
    (names : FieldRule) (decode : Decoder) :
    Agrees a Eq (answerGateway act g (.command x database command secondaryOk names decode))
      (answerGateway act g.updated
        (.command x.updated database command secondaryOk names decode)) :=
  fun w hw => (indifferent_throughGateway hact (g.command (w.connectionIsReleased x) database
    command secondaryOk names decode)).agrees w hw

/-- A message to a gateway is answered as the command that stands for it. -/
theorem agrees_message (hact : ∀ action, Indifferent a (act action)) {g : Http.Gateway}
    (hg : g.server.address = a) {x : Connection} (hx : x.server.address = a) (ns : Namespace)
    {target : ServerCursor} (ht : target.address = a) (count : Int) (decode : Decoder) :
    Agrees a (fun result reply =>
        result = Cursor.fetched target (commandOf x.updated ns target.id count decode) reply)
      (answerGateway act g (.getMore x ns target.id count decode))
      (answerGateway act g.updated (commandOf x.updated ns target.id count decode)) := by
  intro w hw
  have hend : Ends a Eq
      (Program.interpret (gatewayInterpreter act) (.none World)
        (g.command (w.connectionIsReleased x) ns.database
          (getMoreCommand ns target.id count.natAbs 0) false .any
          (Decoder.ofResults decode nextBatchField)) w)
      ((answerGateway act g.updated (commandOf x.updated ns target.id count decode)).outcome
        w.updated) :=
    agrees_command hact g x ns.database _ false .any _ w hw
  change Ends a _ (Program.interpret (gatewayInterpreter act) (.none World)
    (g.getMore (w.connectionIsReleased x) ns target.id count decode) w) _
  rw [interpret_getMore (x := x.updated) (hx.trans hg.symm) (ht.trans hg.symm) _ ns count decode
    w rfl]
  generalize Program.interpret _ _ _ w = answered at hend ⊢
  generalize (answerGateway act g.updated _).outcome w.updated = answered' at hend ⊢
  obtain ⟨rfl, hfits⟩ := hend
  exact ⟨rfl, hfits⟩

/-- An exchange and what it is after an update are answered alike. -/
theorem agrees_answer (hact : ∀ action, Indifferent a (act action)) {q q' : Exchange}
    {S : Outcome q.Answer → Outcome q'.Answer → Prop} (hq : q.Meets a q' S) :
    Agrees a S (answer act q) (answer act q') := by
  intro w hw
  obtain ⟨g, hg, hga⟩ := hw.gateway
  have hg' : w.updated.transport = .gateway g.updated := congrArg Transport.updated hg
  rw [outcome_answer act q hg, outcome_answer act q' hg']
  cases hq with
  | source access => exact ⟨rfl, hw.gateway, hw.cursors, hw.connection⟩
  | lease source =>
    exact agrees_then (indifferent_ensureSource source) (fun _ => agrees_then
      indifferent_nextConnection fun _ => agrees_pure ⟨hga, rfl⟩) w hw
  | command x database command secondaryOk names decode =>
    exact agrees_command hact g x database command secondaryOk names decode w hw
  | message hx ns ht count decode => exact agrees_message hact hga hx ns ht count decode w hw
  | killCursors x ns cursorIds =>
    exact (indifferent_throughGateway hact
      (g.killCursors w.mode (w.connectionIsReleased x) ns cursorIds)).agrees w hw
  | pause length => exact (indifferent_pass hact length).agrees w hw
  | http request => exact (indifferent_respond hact request).agrees w hw

/-! ## Operations of cursors -/

/-- Where the state of a program is kept, before and after an update. -/
structure Housed {σ : Type} (a : Address) (T : σ → σ → Prop) (cell cell' : Program.Cell World σ) :
    Prop where
  load : ∀ w : World, w.Fits a → T (cell.load w) (cell'.load w.updated)
  store : ∀ {s s'} (w : World), w.Fits a → T s s' →
    (cell.store s w).Fits a ∧ cell'.store s' w.updated = (cell.store s w).updated

theorem housed_none (a : Address) : Housed a Eq (.none World) (.none World) where
  load _ _ := rfl
  store _ hw _ := ⟨hw, rfl⟩

theorem housed_cell (number : Nat) {c : Cursor} (hc : c.Fits a) :
    Housed a (Cursor.Updates a) (World.cell number c) (World.cell number c.updated) where
  load w hw := by
    change Cursor.Updates a (w.cursors[number]?.getD c)
      ((w.cursors.map Cursor.updated)[number]?.getD c.updated)
    rw [List.getElem?_map]
    rcases hn : w.cursors[number]? with _ | c'
    · exact ⟨hc, rfl⟩
    · exact ⟨hw.cursors c' (List.mem_of_getElem? hn), rfl⟩
  store {s s'} w hw h := by
    obtain ⟨hs, rfl⟩ := h
    refine ⟨⟨hw.gateway, fun c' hc' => ?_, hw.connection⟩, ?_⟩
    · rcases List.mem_or_eq_of_mem_set hc' with hc' | rfl
      · exact hw.cursors c' hc'
      · exact hs
    · have hset : (w.cursors.map Cursor.updated).set number s.updated
          = (w.cursors.set number s).map Cursor.updated := (List.map_set ..).symm
      exact congrArg (fun cursors => { w.updated with cursors := cursors }) hset

/-- **Programs that match end alike before and after an update.** -/
theorem agrees_interpret (hact : ∀ action, Indifferent a (act action)) {σ : Type}
    {T : σ → σ → Prop} {cell cell' : Program.Cell World σ} (hcell : Housed a T cell cell')
    {program : Program σ α} {program' : Program σ β} (h : program.Matches a T R program') :
    ∀ w : World, w.Fits a → Ends a (Outcome.Alike R)
      (Program.interpret (interpreter act) cell program w)
      (Program.interpret (interpreter act) cell' program' w.updated) := by
  induction h with
  | done h => exact fun w hw => ⟨h, hw⟩
  | read _ ih => exact fun w hw => ih _ _ (hcell.load w hw) w hw
  | write hs _ ih =>
    intro w hw
    obtain ⟨hfits, hstored⟩ := hcell.store w hw hs
    have hnext := ih _ hfits
    rw [← hstored] at hnext
    exact hnext
  | note n _ ih =>
    intro w hw
    have hnext := ih (w.take n) (hw.take n)
    rw [← World.updated_take, ← World.take_updated n w.updated] at hnext
    exact hnext
  | ask hq _ ih =>
    intro w hw
    exact ends_ask (agrees_answer hact hq w hw) fun x y w' hxy hw' => ih x y hxy w' hw'

/-- An operation on a cursor that does the same before and after an update. -/
theorem indifferent_runOn (hact : ∀ action, Indifferent a (act action)) (number : Nat) {c : Cursor}
    (hc : c.Fits a) {program program' : Program Cursor α}
    (h : program.Matches a (Cursor.Updates a) Eq program') :
    Agrees a (Outcome.Alike Eq) (runOn act number c program)
      (runOn act number c.updated program') :=
  agrees_interpret hact (housed_cell number hc) h

theorem agrees_runWith (hact : ∀ action, Indifferent a (act action)) {program : Program Unit α}
    {program' : Program Unit β} (h : program.Matches a Eq R program') :
    Agrees a (Outcome.Alike R) (runWith act program) (runWith act program') :=
  agrees_interpret hact (housed_none a) h

end

/-- The latest cursor, before and after an update. -/
theorem latest?_updated (w : World) :
    w.updated.latest? = w.latest?.map fun latest => (latest.1, latest.2.updated) := by
  unfold World.latest?
  rw [World.updated_cursors, List.getLast?_map, List.length_map]
  rcases w.cursors.getLast? with _ | c <;> rfl

theorem fits_of_latest? (hw : w.Fits a) {number : Nat} {c : Cursor}
    (h : w.latest? = some (number, c)) : c.Fits a := by
  unfold World.latest? at h
  split at h
  · rename_i hc
    cases h
    exact hw.cursors _ (List.mem_of_getLast? hc)
  · cases h

/-! ## Actions -/

theorem indifferent_onLatest {act : Action → Play Unit}
    (hact : ∀ action, Indifferent a (act action)) {program : Cursor → Program Cursor Unit}
    (h : ∀ c, (program c).Matches a (Cursor.Updates a) Eq (program c.updated)) :
    Indifferent a (onLatest act program) := by
  refine agrees_world fun w hw => ?_
  rw [latest?_updated]
  rcases hlatest : w.latest? with _ | ⟨number, c⟩
  · exact indifferent_pure () w hw
  · exact indifferent_runOn hact number (fits_of_latest? hw hlatest) (h c) w hw

theorem matches_interrupting (c : Cursor) :
    (interrupting c).Matches a (Cursor.Updates a) Eq (interrupting c.updated) := by
  unfold interrupting
  rw [Cursor.updated_mode]
  rcases c.mode with _ | _
  · exact Cursor.indifferent_interrupt
  · exact Program.matches_fail _

theorem indifferent_act (levels : Nat) (action : Action) : Indifferent a (act levels action) := by
  induction levels generalizing action with
  | zero => exact indifferent_pure ()
  | succ levels ih =>
    cases action with
    | cancel => exact agrees_throw _
    | close => exact indifferent_onLatest ih fun _ => Cursor.indifferent_close true
    | interrupt => exact indifferent_onLatest ih matches_interrupting
    | batchSize n => exact indifferent_onLatest ih fun _ => Cursor.indifferent_setBatchSize n

end Play

end Rehearsal

end DocumentClient
