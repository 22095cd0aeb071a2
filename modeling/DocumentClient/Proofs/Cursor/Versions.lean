/-
  Cursors of servers that differ in version.

  Behind a gateway the version of a server says only how a cursor asks for a batch: by message,
  or by command.  `updated` puts the version of the commands in the place of any other.  Two
  programs match if they go the same way before and after an update: where they read the same
  state they do the same, and each exchange of the one meets an exchange of the other, a message
  the command that asks for the same batch (`Exchange.Meets`).

  On a cursor over a gateway at one address that sets no time bound on its fetches (`Fits`), every
  operation matches itself (`Indifferent`), down to the fetch, whose requests and results are
  compared in `meets_fetchExchange`.  `matches_create`: so does the making of the cursor.
-/
import DocumentClient.Proofs.Cursor.Rules

namespace DocumentClient

/-! ## Updates -/

/-- The server with the version from which on batches are fetched by command. -/
def Server.updated (s : Server) : Server := { s with version := Server.fetchCommandVersion }

def Connection.updated (x : Connection) : Connection := { x with server := x.server.updated }

def Handle.updated (h : Handle Connection) : Handle Connection :=
  { h with resource := h.resource.updated }

def Notice.updated : Notice → Notice
  | .releaseConnection x => .releaseConnection x.updated
  | n => n

namespace Cursor

/-- The cursor, if the server at the other end of its connection is updated. -/
def updated (c : Cursor) : Cursor := { c with connection := c.connection.map Handle.updated }

/-- A cursor is used over a gateway at an address, and sets no time bound on its fetches. -/
structure Fits (a : Address) (c : Cursor) : Prop where
  untimed : c.maxTimeMs = 0
  held : ∀ target, c.progress.serverCursor = some target → target.address = a
  given : ∀ h, c.connection = some h → h.resource.server.address = a

/-- A cursor that fits, and the same after an update. -/
def Updates (a : Address) (c c' : Cursor) : Prop := c.Fits a ∧ c' = c.updated

end Cursor

/-! ## Matching -/

/-- The same failure, or values that are related. -/
inductive Outcome.Alike {α β : Type} (R : α → β → Prop) : Outcome α → Outcome β → Prop where
  | ok {x : α} {y : β} (h : R x y) : Alike R (.ok x) (.ok y)
  | error (e : Failure) : Alike R (.error e) (.error e)

theorem Outcome.Alike.refl {α : Type} : ∀ o : Outcome α, Alike Eq o o
  | .ok _ => .ok rfl
  | .error e => .error e

theorem Outcome.Alike.eq {α : Type} {o o' : Outcome α} (h : Alike Eq o o') : o = o' := by
  rcases h with ⟨rfl⟩ | e <;> rfl

/-- A connection to a server at an address, and the same after an update. -/
def Connection.Updates (a : Address) (x x' : Connection) : Prop :=
  x.server.address = a ∧ x' = x.updated

/-- The command that asks for the same batch as a message. -/
def commandOf (x : Connection) (ns : Namespace) (cursorId count : Int) (decode : Decoder) :
    Exchange :=
  .command x ns.database (getMoreCommand ns cursorId count.natAbs 0) false .any
    (Decoder.ofResults decode nextBatchField)

/-- An exchange and what it is after an update, and how their answers are related. -/
inductive Exchange.Meets (a : Address) :
    (q q' : Exchange) → (Outcome q.Answer → Outcome q'.Answer → Prop) → Prop where
  | source (access : Access) : Meets a (.source access) (.source access) Eq
  | lease (source : Source) :
      Meets a (.lease source) (.lease source) (Outcome.Alike (Connection.Updates a))
  | command (x : Connection) (database : String) (command : Document) (secondaryOk : Bool)
      (names : FieldRule) (decode : Decoder) :
      Meets a (.command x database command secondaryOk names decode)
        (.command x.updated database command secondaryOk names decode) Eq
  | message {x : Connection} (hx : x.server.address = a) (ns : Namespace) {target : ServerCursor}
      (ht : target.address = a) (count : Int) (decode : Decoder) :
      Meets a (.getMore x ns target.id count decode)
        (commandOf x.updated ns target.id count decode) fun result reply =>
          result = Cursor.fetched target (commandOf x.updated ns target.id count decode) reply
  | killCursors (x : Connection) (ns : Namespace) (cursorIds : List Int) :
      Meets a (.killCursors x ns cursorIds) (.killCursors x.updated ns cursorIds) Eq
  | pause (length : Duration) : Meets a (.pause length) (.pause length) Eq
  | http (request : HttpRequest) : Meets a (.http request) (.http request) Eq

namespace Program

variable {σ τ α β γ δ : Type}

/-- A program and what it is after an update: from states that are related they go the same way,
    to values that are related. -/
inductive Matches (a : Address) (T : σ → σ → Prop) (R : α → β → Prop) :
    Program σ α → Program σ β → Prop where
  | done {o : Outcome α} {o' : Outcome β} (h : Outcome.Alike R o o') :
      Matches a T R (done o) (done o')
  | read {next : σ → Program σ α} {next' : σ → Program σ β}
      (h : ∀ s s', T s s' → Matches a T R (next s) (next' s')) :
      Matches a T R (read next) (read next')
  | write {s s' : σ} {next : Program σ α} {next' : Program σ β} (hs : T s s')
      (h : Matches a T R next next') : Matches a T R (write s next) (write s' next')
  | note (n : Notice) {next : Program σ α} {next' : Program σ β} (h : Matches a T R next next') :
      Matches a T R (note n next) (note n.updated next')
  | ask {q q' : Exchange} {S : Outcome q.Answer → Outcome q'.Answer → Prop}
      {next : Outcome q.Answer → Program σ α} {next' : Outcome q'.Answer → Program σ β}
      (hq : q.Meets a q' S) (h : ∀ x x', S x x' → Matches a T R (next x) (next' x')) :
      Matches a T R (ask q next) (ask q' next')

variable {a : Address} {T : σ → σ → Prop} {R : α → β → Prop} {R' : γ → δ → Prop}
variable {p : Program σ α} {p' : Program σ β}

theorem matches_pure {x : α} {y : β} (h : R x y) : Matches a T R (pure x) (pure y) :=
  .done (.ok h)

theorem matches_fail (e : Failure) : Matches a T R (fail e) (fail e) := .done (.error e)

theorem matches_outcome (o : Outcome α) : Matches a T Eq (ofOutcome o) (ofOutcome o) := by
  rcases o with e | x
  · exact matches_fail e
  · exact matches_pure rfl

theorem matches_notify (n : Notice) : Matches a T Eq (notify n) (notify n.updated) :=
  .note n (matches_pure rfl)

theorem matches_log (level : LogLevel) (message : String) :
    Matches a T Eq (log level message) (log level message) :=
  matches_notify (.log level message)

theorem matches_get {f : σ → Program σ α} {f' : σ → Program σ β}
    (h : ∀ s s', T s s' → Matches a T R (f s) (f' s')) :
    Matches a T R (get >>= f) (get >>= f') :=
  .read h

theorem matches_modify {f f' : σ → σ} (h : ∀ s s', T s s' → T (f s) (f' s')) :
    Matches a T Eq (modify f) (modify f') :=
  .read fun s s' hs => .write (h s s' hs) (matches_pure rfl)

theorem matches_set {s s' : σ} (h : T s s') : Matches a T Eq (set s) (set s') :=
  .write h (matches_pure rfl)

theorem matches_mono {R₁ : α → β → Prop} (hR : ∀ x y, R x y → R₁ x y)
    (hp : Matches a T R p p') : Matches a T R₁ p p' := by
  induction hp with
  | done h =>
    rcases h with ⟨h⟩ | e
    · exact matches_pure (hR _ _ h)
    · exact matches_fail e
  | read _ ih => exact .read ih
  | write hs _ ih => exact .write hs ih
  | note n _ ih => exact .note n ih
  | ask hq _ ih => exact .ask hq ih

theorem matches_bind {f : α → Program σ γ} {f' : β → Program σ δ} (hp : Matches a T R p p')
    (hf : ∀ x y, R x y → Matches a T R' (f x) (f' y)) :
    Matches a T R' (p >>= f) (p' >>= f') := by
  induction hp with
  | done h =>
    rcases h with ⟨h⟩ | e
    · exact hf _ _ h
    · exact matches_fail e
  | read _ ih => exact .read ih
  | write hs _ ih => exact .write hs ih
  | note n _ ih => exact .note n ih
  | ask hq _ ih => exact .ask hq ih

/-- What follows a program that matches itself. -/
theorem matches_then {p : Program σ α} {f : α → Program σ γ} {f' : α → Program σ δ}
    (hp : Matches a T Eq p p) (hf : ∀ x, Matches a T R' (f x) (f' x)) :
    Matches a T R' (p >>= f) (p >>= f') := by
  refine matches_bind hp ?_
  rintro x _ rfl
  exact hf x

theorem matches_attempt (hp : Matches a T R p p') :
    Matches a T (Outcome.Alike R) p.attempt p'.attempt := by
  induction hp with
  | done h => exact matches_pure h
  | read _ ih => exact .read ih
  | write hs _ ih => exact .write hs ih
  | note n _ ih => exact .note n ih
  | ask hq _ ih => exact .ask hq ih

theorem matches_always {last last' : Program σ Unit} (hp : Matches a T R p p')
    (hlast : Matches a T Eq last last') : Matches a T R (p.always last) (p'.always last') :=
  matches_bind (matches_attempt hp) fun _ _ h => matches_bind hlast fun _ _ _ => .done h

theorem matches_handle {handler handler' : Failure → Program σ Unit} {p p' : Program σ Unit}
    (hp : Matches a T Eq p p') (h : ∀ e, Matches a T Eq (handler e) (handler' e)) :
    Matches a T Eq (p.handle handler) (p'.handle handler') := by
  refine matches_bind (matches_attempt hp) ?_
  rintro _ _ (h | e)
  · exact matches_pure h
  · dsimp only
    split
    · exact h e
    · exact matches_fail e

/-- Programs that match on states of their own match on any. -/
theorem matches_within {T' : τ → τ → Prop} (hp : Matches a T R p p') :
    ∀ {s s' : σ}, T s s' → Matches a T' (fun x y => R x.1 y.1 ∧ T x.2 y.2)
      (within s p) (within s' p') := by
  induction hp with
  | done h =>
    intro s s' hs
    rcases h with ⟨h⟩ | e
    · exact matches_pure ⟨h, hs⟩
    · exact matches_fail e
  | read _ ih => exact fun hs => ih _ _ hs hs
  | write hs _ ih => exact fun _ => ih hs
  | note n _ ih => exact fun hs => .note n (ih hs)
  | ask hq _ ih => exact fun hs => .ask hq fun x x' hx => ih x x' hx hs

end Program

/-! ## Batches -/

/-- What follows has succeeded, too. -/
theorem Outcome.of_bind {α β : Type} {o : Outcome α} {f : α → Outcome β} {y : β}
    (h : (o >>= f) = .ok y) : ∃ x, f x = .ok y := by
  rcases o with e | x
  · cases h
  · exact ⟨x, h⟩

namespace QueryResult

variable {a : Address} {r : QueryResult}

theorem address_of_readCursorDocument {document : Value} {batchField : String}
    (h : readCursorDocument document a batchField = .ok r) : r.address = a := by
  obtain ⟨id, h⟩ := Outcome.of_bind h
  obtain ⟨number, h⟩ := Outcome.of_bind h
  obtain ⟨name, h⟩ := Outcome.of_bind h
  obtain ⟨ns, h⟩ := Outcome.of_bind h
  obtain ⟨batch, h⟩ := Outcome.of_bind h
  obtain ⟨results, h⟩ := Outcome.of_bind h
  cases h
  rfl

/-- A batch comes from the server that was asked. -/
theorem address_of_ofGetMoreReply {reply : Value} (h : ofGetMoreReply reply a = .ok r) :
    r.address = a := by
  obtain ⟨document, h⟩ := Outcome.of_bind h
  unfold ofCursorDocument at h
  split at h
  · cases h
  · cases h
  · cases h
  · exact address_of_readCursorDocument h

/-- The cursor of a batch is where the batch comes from. -/
theorem address_of_cursor {target : ServerCursor} (h : r.cursor = some target) :
    target.address = r.address := by
  unfold cursor at h
  split at h
  · cases h
  · cases h
    rfl

end QueryResult

/-- A server cursor that is held after a batch came with it. -/
theorem Progress.cursor_of_advance {p : Progress} {limit batchSize : Int} {r : QueryResult}
    {target : ServerCursor} (h : (p.advance limit batchSize r).1.serverCursor = some target) :
    r.cursor = some target := by
  have hfate := p.advance_fate limit batchSize r
  generalize (p.advance limit batchSize r).1 = after at h hfate
  generalize (p.advance limit batchSize r).2 = verdict at hfate
  cases hfate with
  | ended _ hs => cases hs.symm.trans h
  | limitReached hr _ hs => exact hr.trans (hs.symm.trans h)
  | dropped _ _ _ hs => cases hs.symm.trans h
  | kept hr _ _ hs => exact hr.trans (hs.symm.trans h)

theorem Progress.serverCursor_of_takeBatch {p after : Progress} {batch : List Value}
    (h : p.takeBatch = .ok (after, batch)) : after.serverCursor = p.serverCursor := by
  unfold takeBatch at h
  split at h
  · cases h
  · cases h
    rfl

namespace Cursor

open Program

variable {α : Type} {a : Address} {c c' : Cursor}

theorem updated_closed (c : Cursor) : c.updated.closed = c.closed := rfl

theorem updated_released (c : Cursor) : c.updated.released = c.released := rfl

theorem updated_mode (c : Cursor) : c.updated.mode = c.mode := rfl

theorem updated_progress (c : Cursor) : c.updated.progress = c.progress := rfl

/-! ## Steps -/

/-- What is done with the state of a cursor. -/
theorem matches_state {β : Type} {R : α → β → Prop} {f : Cursor → Program Cursor α}
    {f' : Cursor → Program Cursor β}
    (h : ∀ c, c.Fits a → Matches a (Updates a) R (f c) (f' c.updated)) :
    Matches a (Updates a) R (Program.get >>= f) (Program.get >>= f') := by
  refine matches_get ?_
  rintro c _ ⟨hc, rfl⟩
  exact h c hc

/-- An operation does the same before and after an update. -/
def Indifferent (a : Address) (p : Program Cursor α) : Prop := Matches a (Updates a) Eq p p

/-- A change that neither sees nor makes a difference. -/
theorem indifferent_modify {f : Cursor → Cursor} (hf : ∀ c, f c.updated = (f c).updated)
    (hfits : ∀ c, c.Fits a → (f c).Fits a) : Indifferent a (Program.modify f) := by
  refine matches_modify ?_
  rintro c _ ⟨hc, rfl⟩
  exact ⟨hfits c hc, hf c⟩

theorem indifferent_forget : Indifferent a (Program.modify forget) :=
  indifferent_modify (fun _ => rfl) fun _ hc => ⟨hc.untimed, nofun, hc.given⟩

/-! ## Giving a cursor up -/

theorem matches_releaseConnection (h : Handle Connection) :
    Matches a (Updates a) Eq (releaseConnection h) (releaseConnection h.updated) := by
  obtain ⟨_ | _, x⟩ := h
  · exact matches_notify (.releaseConnection x)
  · exact matches_pure rfl

theorem indifferent_releaseSource (h : Handle Source) : Indifferent a (releaseSource h) := by
  obtain ⟨_ | _, source⟩ := h
  · exact matches_notify (.releaseSource source)
  · exact matches_pure rfl

theorem indifferent_releaseResources : Indifferent a releaseResources := by
  refine matches_state fun c hc => ?_
  rw [updated_released]
  split
  · exact matches_pure rfl
  have hflag : Updates a { c with released := true } { c.updated with released := true } :=
    ⟨⟨hc.untimed, hc.held, hc.given⟩, rfl⟩
  refine matches_bind (matches_set hflag) fun _ _ _ => ?_
  unfold updated
  dsimp only
  rcases c.source with _ | source <;> rcases c.connection with _ | x
  · exact matches_pure rfl
  · exact matches_bind (matches_releaseConnection x) fun _ _ _ => matches_pure rfl
  · exact indifferent_releaseSource source
  · exact matches_bind (matches_releaseConnection x) fun _ _ _ => indifferent_releaseSource source

/-- A connection is used alike, given or leased. -/
theorem matches_withConnection {use use' : Connection → Program Cursor α}
    (h : ∀ x, x.server.address = a → Matches a (Updates a) Eq (use x) (use' x.updated)) :
    Matches a (Updates a) Eq (withConnection use) (withConnection use') := by
  refine matches_state fun c hc => ?_
  have hgiven := hc.given
  unfold updated
  dsimp only
  generalize c.connection = given at hgiven ⊢
  rcases given with _ | x
  · rcases c.source with _ | source
    · exact matches_fail _
    · refine matches_bind (.ask (.lease source.resource) fun _ _ hl => .done hl) ?_
      rintro x _ ⟨hx, rfl⟩
      exact matches_always (h x hx) (matches_notify (.releaseConnection x))
  · exact h x.resource (hgiven x rfl)

/-- The request of a kill. -/
theorem matches_kill (x : Connection) (ns : Namespace) (ids : List Int) :
    Matches a (Updates a) Eq (Program.killCursors x ns ids)
      (Program.killCursors x.updated ns ids) := by
  refine .ask (.killCursors x ns ids) ?_
  rintro answer _ rfl
  exact matches_outcome answer

theorem matches_killCursor (target : ServerCursor) (given : Option Connection) :
    Matches a (Updates a) Eq (killCursor target given)
      (killCursor target (given.map Connection.updated)) := by
  refine matches_state fun c _ => matches_then (matches_log _ _) fun _ =>
    matches_handle ?_ fun e => matches_log _ _
  rcases given with _ | x
  · exact matches_withConnection fun x _ => matches_kill x c.ns [target.id]
  · exact matches_kill x c.ns [target.id]

theorem matches_killHeld (given : Option Connection) :
    Matches a (Updates a) Eq (killHeld given) (killHeld (given.map Connection.updated)) := by
  refine matches_state fun c _ => ?_
  rw [updated_progress]
  rcases c.progress.serverCursor with _ | target
  · exact matches_pure rfl
  · exact matches_then indifferent_forget fun _ => matches_killCursor target given

theorem indifferent_cleanup (target : ServerCursor) : Indifferent a (cleanup target) :=
  matches_always (matches_killCursor target none) indifferent_releaseResources

theorem indifferent_scheduleCleanup (loopRuns : Bool) :
    Indifferent a (scheduleCleanup loopRuns) := by
  refine matches_state fun c _ => ?_
  rw [updated_progress]
  rcases c.progress.serverCursor with _ | target
  · exact indifferent_releaseResources
  refine matches_then indifferent_forget fun _ => ?_
  split
  · exact indifferent_modify (fun _ => rfl) fun _ hc => ⟨hc.untimed, hc.held, hc.given⟩
  · exact matches_then (matches_log _ _) fun _ => indifferent_releaseResources

theorem indifferent_close (loopRuns : Bool) : Indifferent a (close loopRuns) := by
  have hshut : Indifferent a (Program.modify fun c : Cursor => { c with closed := true }) :=
    indifferent_modify (fun _ => rfl) fun _ hc => ⟨hc.untimed, hc.held, hc.given⟩
  refine matches_state fun c _ => ?_
  rw [updated_closed, updated_mode]
  split
  · exact matches_pure rfl
  rcases c.mode with _ | _
  · exact matches_always (matches_killHeld none)
      (matches_then hshut fun _ => indifferent_releaseResources)
  · exact matches_then hshut fun _ => indifferent_scheduleCleanup loopRuns

/-! ## Fetching -/

/-- The command of a fetch is the one that stands for its message. -/
theorem getMoreCommand_eq (hc : c.Fits a) (target : ServerCursor) :
    c.getMoreCommand target
      = DocumentClient.getMoreCommand c.ns target.id c.numberToReturn.natAbs 0 := by
  rw [getMoreCommand, hc.untimed]
  rfl

/-- What comes of a fetch, before and after an update. -/
def SameBatch (a : Address) : Outcome QueryResult → Outcome QueryResult → Prop :=
  Outcome.Alike fun r r' => r = r' ∧ r.address = a

theorem sameBatch_fetched {x : Connection} (hx : x.server.address = a) {target : ServerCursor}
    {database : String} {command : Document} {secondaryOk : Bool} {names : FieldRule}
    {decode : Decoder} (reply : Outcome Value) :
    SameBatch a (fetched target (.command x database command secondaryOk names decode) reply)
      (fetched target (.command x.updated database command secondaryOk names decode) reply) := by
  have haddress : x.updated.server.address = a := hx
  rw [fetched_command, fetched_command, haddress, hx]
  rcases reply with e | reply
  · exact .error _
  dsimp only
  rcases hr : QueryResult.ofGetMoreReply reply a with e | r
  · exact .error e
  · exact .ok ⟨rfl, QueryResult.address_of_ofGetMoreReply hr⟩

/-- A batch is asked for by message, or by the command that stands for it. -/
theorem meets_fetchExchange (hc : c.Fits a) {x : Connection} (hx : x.server.address = a)
    {target : ServerCursor} (ht : target.address = a) :
    ∃ S, (fetchExchange c x target).Meets a (fetchExchange c.updated x.updated target) S ∧
      ∀ y y', S y y' → SameBatch a (fetched target _ y) (fetched target _ y') := by
  have hlater : fetchExchange c.updated x.updated target
      = commandOf x.updated c.ns target.id c.numberToReturn c.decode := by
    rw [commandOf, ← getMoreCommand_eq hc]
    exact if_pos rfl
  rw [hlater]
  by_cases hv : x.server.isAtLeast Server.fetchCommandVersion
  · have hnow : fetchExchange c x target
        = commandOf x c.ns target.id c.numberToReturn c.decode := by
      rw [fetchExchange, if_pos hv, commandOf, ← getMoreCommand_eq hc]
    rw [hnow]
    refine ⟨Eq, .command x _ _ _ _ _, ?_⟩
    rintro y _ rfl
    exact sameBatch_fetched hx y
  · have hnow : fetchExchange c x target = .getMore x c.ns target.id c.numberToReturn c.decode :=
      if_neg hv
    rw [hnow]
    refine ⟨_, .message hx c.ns ht c.numberToReturn c.decode, ?_⟩
    rintro y y' rfl
    rw [fetched_getMore]
    exact sameBatch_fetched (x := x.updated) hx y'

theorem matches_requestBatch {x : Connection} (hx : x.server.address = a) {target : ServerCursor}
    (ht : target.address = a) :
    Matches a (Updates a) (fun r r' => r = r' ∧ r.address = a) (requestBatch x target)
      (requestBatch x.updated target) := by
  rw [requestBatch_eq, requestBatch_eq]
  refine matches_state fun c hc => matches_then (matches_notify (fetchBegins c target)) fun _ => ?_
  obtain ⟨S, hmeets, hsame⟩ := meets_fetchExchange hc hx ht
  refine matches_bind (.ask hmeets fun y y' h => .done (hsame y y' h)) ?_
  rintro r _ ⟨rfl, hr⟩
  exact matches_then (matches_notify (fetchEnds c target r)) fun _ => matches_pure ⟨rfl, hr⟩

theorem indifferent_absorb {r : QueryResult} (hr : r.address = a) : Indifferent a (absorb r) := by
  refine matches_state fun c hc => ?_
  have hheld : ∀ t, (c.progress.advance c.limit c.batchSize r).1.serverCursor = some t →
      t.address = a := fun t ht =>
    (r.address_of_cursor (Progress.cursor_of_advance ht)).trans hr
  have hadvance : c.updated.progress.advance c.updated.limit c.updated.batchSize r
      = c.progress.advance c.limit c.batchSize r := rfl
  rw [hadvance]
  generalize c.progress.advance c.limit c.batchSize r = after at hheld ⊢
  obtain ⟨progress, verdict⟩ := after
  have hset : Updates a { c with progress := progress } { c.updated with progress := progress } :=
    ⟨⟨hc.untimed, hheld, hc.given⟩, rfl⟩
  have hkept : Matches a (Updates a) Eq
      (Program.set { c with progress := progress } >>= fun _ => pure verdict)
      (Program.set { c.updated with progress := progress } >>= fun _ => pure verdict) :=
    matches_bind (matches_set hset) fun _ _ _ => matches_pure rfl
  rcases verdict with _ | _ | target | _
  · exact hkept
  · exact hkept
  · exact matches_then (matches_log _ _) fun _ => hkept
  · exact hkept

theorem matches_fetchOver {x : Connection} (hx : x.server.address = a) {target : ServerCursor}
    (ht : target.address = a) :
    Matches a (Updates a) Eq (fetchOver target x) (fetchOver target x.updated) := by
  refine matches_bind (matches_requestBatch hx ht) ?_
  rintro r _ ⟨rfl, hr⟩
  refine matches_state fun c _ => ?_
  rw [updated_closed]
  split
  · exact matches_fail _
  refine matches_then (indifferent_absorb hr) fun verdict => ?_
  rcases verdict.followUp with _ | _ | _
  · exact matches_pure rfl
  · exact matches_bind (matches_killHeld (some x)) fun _ _ _ => matches_pure rfl
  · exact matches_pure rfl

theorem indifferent_giveUp (e : Failure) : Indifferent a (giveUp e) := by
  unfold giveUp
  split
  · exact matches_then indifferent_forget fun _ => indifferent_close true
  · exact matches_pure rfl
  · exact indifferent_close true

theorem indifferent_fetch : Indifferent a fetch := by
  refine matches_state fun c hc => ?_
  have hheld := hc.held
  rw [updated_progress]
  generalize c.progress.serverCursor = held at hheld ⊢
  rcases held with _ | target
  · exact matches_pure rfl
  refine matches_bind (matches_attempt (matches_withConnection fun x hx =>
    matches_fetchOver hx (hheld target rfl))) ?_
  rintro _ _ (⟨⟨⟩⟩ | e)
  · dsimp only
    split
    · exact matches_pure rfl
    · exact indifferent_releaseResources
  · exact matches_then (indifferent_giveUp e) fun _ => matches_fail e

/-! ## Retrieving -/

theorem indifferent_ensureOpen : Indifferent a ensureOpen := by
  refine matches_state fun c _ => ?_
  rw [updated_closed]
  split
  · exact matches_fail _
  · exact matches_pure rfl

theorem indifferent_waitBeforeRetry : Indifferent a waitBeforeRetry := by
  refine matches_state fun c _ => matches_then (matches_outcome _) fun length => ?_
  have hpause : Indifferent a (Program.pause length) := by
    refine .ask (.pause length) ?_
    rintro answer _ rfl
    exact matches_outcome answer
  refine matches_then hpause fun _ => matches_state fun c hc => ?_
  change Matches _ _ _ _ (if c.interrupted then _ else if c.closed then _ else _)
  split
  · have hset : Updates a { c with interrupted := false } { c.updated with interrupted := false } :=
      ⟨⟨hc.untimed, hc.held, hc.given⟩, rfl⟩
    exact matches_bind (matches_set hset) fun _ _ _ => matches_fail _
  split
  · exact matches_fail _
  · exact matches_pure rfl

theorem indifferent_pauseUnlessSettled : Indifferent a pauseUnlessSettled := by
  refine matches_state fun c _ => ?_
  change Matches _ _ _ _ (if c.isSettled then _ else _)
  split
  · exact matches_pure rfl
  · exact indifferent_waitBeforeRetry

theorem indifferent_awaitBatch (rounds : Nat) : Indifferent a (awaitBatch rounds) := by
  induction rounds with
  | zero => exact matches_pure rfl
  | succ rounds ih =>
    rw [awaitBatch_succ]
    refine matches_state fun c _ => ?_
    change Matches _ _ _ _ (if c.hasBatch then _ else if c.isExhausted then _ else _)
    split
    · exact matches_pure rfl
    split
    · exact matches_pure rfl
    · exact matches_then indifferent_fetch fun _ =>
        matches_then indifferent_pauseUnlessSettled fun _ => ih

theorem indifferent_hasNext (rounds : Nat) : Indifferent a (hasNext rounds) :=
  matches_then indifferent_ensureOpen fun _ => indifferent_awaitBatch rounds

theorem indifferent_takeBatch : Indifferent a takeBatch := by
  refine matches_state fun c hc => ?_
  rw [updated_progress]
  rcases hp : c.progress.takeBatch with e | ⟨progress, batch⟩
  · exact matches_fail _
  have hheld : progress.serverCursor = c.progress.serverCursor :=
    Progress.serverCursor_of_takeBatch hp
  have hset : Updates a { c with progress := progress } { c.updated with progress := progress } :=
    ⟨⟨hc.untimed, hheld ▸ hc.held, hc.given⟩, rfl⟩
  have hhandOut : Matches a (Updates a) Eq
      (Program.set { c with progress := progress } >>= fun _ => pure batch)
      (Program.set { c.updated with progress := progress } >>= fun _ => pure batch) :=
    matches_bind (matches_set hset) fun _ _ _ => matches_pure rfl
  exact hhandOut

theorem indifferent_next (rounds : Nat) : Indifferent a (next rounds) := by
  refine matches_then (indifferent_hasNext rounds) fun available => ?_
  rcases available with _ | _ | _
  · exact matches_then indifferent_takeBatch fun _ => matches_pure rfl
  · exact matches_pure rfl
  · exact matches_pure rfl

theorem indifferent_tryNext : Indifferent a tryNext := by
  rw [tryNext_eq]
  refine matches_then indifferent_ensureOpen fun _ => matches_then ?_ fun _ => ?_
  · refine matches_state fun c _ => ?_
    change Matches _ _ _ _ (if c.isSettled then _ else _)
    split
    · exact matches_pure rfl
    · exact indifferent_fetch
  · refine matches_state fun c _ => ?_
    change Matches _ _ _ _ (if c.hasBatch then _ else _)
    split
    · exact matches_then indifferent_takeBatch fun _ => matches_pure rfl
    · exact matches_pure rfl

theorem indifferent_remaining (rounds count : Nat) : Indifferent a (remaining rounds count) := by
  induction count with
  | zero => exact matches_pure rfl
  | succ count ih =>
    refine matches_then (indifferent_next rounds) fun retrieval => ?_
    rcases retrieval with documents | _ | _
    · exact matches_then ih fun _ => matches_pure rfl
    · exact matches_pure rfl
    · exact matches_pure rfl

theorem indifferent_interrupt : Indifferent a interrupt :=
  indifferent_modify (fun _ => rfl) fun _ hc => ⟨hc.untimed, hc.held, hc.given⟩

theorem indifferent_setBatchSize (n : Int) : Indifferent a (setBatchSize n) :=
  indifferent_modify (fun _ => rfl) fun _ hc => ⟨hc.untimed, hc.held, hc.given⟩

/-! ## Making -/

theorem indifferent_start {first : QueryResult} (hfirst : first.address = a) (loopRuns : Bool) :
    Indifferent a (start first loopRuns) := by
  refine matches_then (indifferent_absorb hfirst) fun verdict => matches_state fun c _ => ?_
  rw [updated_mode]
  rcases verdict.followUp with _ | _ | _
  · exact matches_pure rfl
  · rcases c.mode with _ | _
    · exact matches_then (matches_killHeld none) fun _ => indifferent_releaseResources
    · exact indifferent_scheduleCleanup loopRuns
  · exact indifferent_releaseResources

/-- What a cursor is made from, after an update. -/
def Plan.updated (plan : Plan) : Plan :=
  { plan with connection := plan.connection.map Handle.updated }

/-- The first batch comes from a gateway at an address, and fetches have no time bound. -/
structure Plan.Fits (a : Address) (plan : Plan) : Prop where
  first : plan.first.address = a
  untimed : plan.maxTimeMs = 0
  given : ∀ h, plan.connection = some h → h.resource.server.address = a

theorem matches_create {σ : Type} {T : σ → σ → Prop} {plan : Plan} (hplan : plan.Fits a)
    (mode : Mode) (loopRuns : Bool) :
    Matches a T (Updates a) (create mode plan loopRuns) (create mode plan.updated loopRuns) := by
  have hmake : Matches a T (Updates a) (ofValid (ofPlan mode plan))
      (ofValid (ofPlan mode plan.updated)) := by
    unfold ofPlan Plan.updated
    dsimp only
    split
    · exact matches_fail _
    rcases Settings.default.overriddenBy plan.overrides with e | settings
    · exact matches_fail _
    · exact matches_pure ⟨⟨hplan.untimed, by simp, hplan.given⟩, rfl⟩
  refine matches_bind hmake fun c c' hc => ?_
  refine matches_bind (matches_within (indifferent_start hplan.first loopRuns) hc) ?_
  rintro ⟨⟨⟩, c⟩ ⟨⟨⟩, c'⟩ ⟨-, hc⟩
  exact matches_pure hc

end Cursor

end DocumentClient
