/-
  What comes of the answer to a command over HTTP.

  A request was sent, and a response has come: what the command comes to is a function of
  the response (`outcome_run`).  Four outcomes are documented.  A status other than success is
  refused, a body that is no JSON object is unusable, an error reply makes the command fail,
  and any other object is the reply.

  `documented_iff`: it is one of these exactly if the reply is `Tractable`, that is, if the
  code of an error is a number that has a whole part, and the warnings beside a reply can be
  listed.  Otherwise an undocumented failure hides the reply (`not_documented_countedWarnings`).
-/
import DocumentClient.Http.Commander
import DocumentClient.Proofs.Program.Ensures

namespace DocumentClient.Http

open Program (Ensures Interpreter Environment Cell interpret)

variable {σ ω : Type} {env : Environment ω} {cell : Cell ω σ} {w : ω}
variable {c : Commander} {r : Request} {sent : HttpRequest} {response : HttpResponse}
variable {text : String} {reply : Document}

/-! ## Records -/

/-- A program only makes things known, and succeeds. -/
def Tells (env : Environment ω) (cell : Cell ω σ) (p : Program σ Unit) : Prop :=
  ∀ w, Ensures env cell (fun o _ => o = .ok ()) p w

theorem tells_pure : Tells env cell (pure ()) := fun _ => rfl

theorem tells_log (level : LogLevel) (message : String) :
    Tells env cell (Program.log level message) := fun _ => rfl

/-- What follows records is met whatever the world makes of them. -/
theorem ensures_after {α : Type} {Q : Outcome α → ω → Prop} {p : Program σ Unit}
    {f : Unit → Program σ α} (hp : Tells env cell p) (hf : ∀ w, Ensures env cell Q (f ()) w) :
    Ensures env cell Q (p >>= f) w := by
  refine Program.ensures_bind.2 (Program.ensures_mono ?_ (hp w))
  rintro _ w' rfl
  exact hf w'

/-- The outcomes of programs are sequenced as the programs are. -/
theorem ensures_outcome {α β : Type} {p : Program σ α} {f : α → Program σ β} {x : Outcome α}
    {y : α → Outcome β} (hp : Ensures env cell (fun o _ => o = x) p w)
    (hf : ∀ a w, Ensures env cell (fun o _ => o = y a) (f a) w) :
    Ensures env cell (fun o _ => o = x >>= y) (p >>= f) w := by
  refine Program.ensures_bind.2 (Program.ensures_mono ?_ hp)
  rintro (e | a) w' rfl
  · rfl
  · exact hf a w'

theorem tells_bind {p : Program σ Unit} {f : Unit → Program σ Unit} (hp : Tells env cell p)
    (hf : Tells env cell (f ())) : Tells env cell (p >>= f) :=
  fun _ => ensures_after hp hf

theorem tells_forM {α : Type} {f : α → Program σ Unit} (hf : ∀ a, Tells env cell (f a)) :
    ∀ xs : List α, Tells env cell (xs.forM f)
  | [] => tells_pure
  | x :: xs => tells_bind (hf x) (tells_forM hf xs)

/-- A record that may be left out. -/
theorem tells_unless {b : Prop} [Decidable b] {level : LogLevel} {message : String}
    {rest : Unit → Program σ Unit} (h : Tells env cell (rest ())) :
    Tells env cell (if b then rest () else Program.log level message >>= rest) := by
  split
  · exact h
  · exact tells_bind (tells_log level message) h

theorem Commander.tells_logRequest : Tells env cell (c.logRequest r) := by
  unfold logRequest
  refine tells_bind (tells_log _ _) (tells_unless (tells_bind (tells_log _ _) (tells_unless ?_)))
  dsimp only
  split
  · exact tells_log _ _
  · exact tells_pure

/-! ## Responses -/

/-- A request was sent and answered with a response, whose body has a text. -/
structure Received (i : Interpreter ω) (c : Commander) (r : Request) (sent : HttpRequest)
    (response : HttpResponse) (text : String) : Prop where
  sends : ∃ timeout, r.bound.duration? = .ok timeout ∧ c.prepare r timeout = .ok sent
  answers : ∀ w, (i.answer (.http sent) w).1 = .ok (.response response)
  text : responseText response = .ok text

/-- What a response comes to before its reply is read. -/
def admitted (sent : HttpRequest) (response : HttpResponse) : Outcome HttpResponse :=
  if Status.isSuccess response.status then .ok response
  else .error (statusFailure response sent.url.text)

/-- The warnings of a reply. -/
def warningsOf (reply : Document) : Outcome (List Value) :=
  if (Document.get "warnings" reply).truthy then (Document.get "warnings" reply).items else .ok []

/-- What a reply comes to. -/
def Commander.settled (c : Commander) (reply : Document) : Outcome Document := do
  let reply ← checkReply reply c.address
  let _ ← warningsOf reply
  return reply

/-- What a response comes to. -/
def Commander.outcomeOf (c : Commander) (r : Request) (sent : HttpRequest)
    (response : HttpResponse) : Outcome Document := do
  let response ← admitted sent response
  let reply ← readReply r response
  c.settled reply

theorem Commander.ensures_exchange {i : Interpreter ω} (h : Received i c r sent response text) :
    Ensures i.environment cell (fun o _ => o = admitted sent response) (c.exchange r) w := by
  obtain ⟨timeout, htimeout, hsent⟩ := h.sends
  refine Program.ensures_bind.2 ?_
  rw [htimeout]
  refine ensures_after c.tells_logRequest fun w => ?_
  refine Program.ensures_bind.2 ?_
  rw [hsent]
  refine Program.continues_ok.2 (Program.ensures_bind.2 ⟨trivial, ?_⟩)
  rintro _ w' ⟨rfl, -⟩
  rw [h.answers]
  refine Program.continues_ok.2 ?_
  unfold admitted
  dsimp only
  split
  · refine ensures_after (tells_log _ _) fun w => ensures_after (tells_log _ _) fun w => ?_
    refine Program.ensures_bind.2 ?_
    rw [h.text]
    exact ensures_after (tells_log _ _) fun w => rfl
  · rfl

/-- The warnings of a reply are made known, if they can be listed. -/
theorem Commander.ensures_announceWarnings :
    Ensures env cell (fun o _ => o = (warningsOf reply).map fun _ => ())
      (announceWarnings reply) w := by
  refine Program.ensures_bind.2 ?_
  change Program.Continues env cell _ _ (warningsOf reply) w
  rcases warningsOf reply with e | items
  · rfl
  · exact tells_forM (fun _ => tells_log _ _) items w

theorem Commander.ensures_settled : Ensures env cell (fun o _ => o = c.settled reply) (do
    let reply ← Program.ofOutcome (checkReply reply c.address)
    announceWarnings reply
    return reply) w := by
  refine ensures_outcome rfl fun reply w => Program.ensures_mono (fun o _ h => ?_)
    (ensures_outcome (y := fun _ => .ok reply) ensures_announceWarnings fun _ _ => rfl)
  rw [h]
  rcases warningsOf reply with e | items <;> rfl

/-- **What a command comes to is what its response comes to.** -/
theorem Commander.outcome_run {i : Interpreter ω} (h : Received i c r sent response text) :
    (interpret i cell (c.run r) w).1 = c.outcomeOf r sent response := by
  have hrun : Ensures i.environment cell (fun o _ => o = c.outcomeOf r sent response)
      (c.run r) w := by
    refine ensures_outcome (c.ensures_exchange h) fun response w =>
      ensures_outcome rfl fun reply w => ?_
    dsimp only
    split
    · exact ensures_after (tells_log _ _) fun w => c.ensures_settled
    · exact c.ensures_settled
  exact Program.ensures_interpreter.1 hrun

/-! ## Documented outcomes -/

/-- The documented outcomes of a response whose body has a text. -/
inductive Documented (response : HttpResponse) (text : String) : Outcome Document → Prop where
  | refused {message : String} {reply : Document}
      (hstatus : Status.isSuccess response.status = false) :
      Documented response text (.error (.httpStatus message reply))
  | unusable {problem : Unusable} (hstatus : Status.isSuccess response.status)
      (hbody : ∀ reply, Body.json? response.body ≠ some (.doc reply)) :
      Documented response text (.error (.unusable problem (.doc [("raw_response", .text text)])))
  | failed {failure : CommandFailure} (hstatus : Status.isSuccess response.status)
      (hbody : Body.json? response.body = some (.doc failure.reply))
      (hreply : reportsError failure.reply) :
      Documented response text (.error (.command failure))
  | replied {reply : Document} (hstatus : Status.isSuccess response.status)
      (hbody : Body.json? response.body = some (.doc reply))
      (hreply : reportsError reply = false) :
      Documented response text (.ok reply)

/-- The code of a reply is no double without a whole part. -/
def CodeIsWhole (reply : Document) : Prop :=
  ∀ x, Document.get "code" reply = .double x → x.truncate.isSome

/-- The warnings of a reply can be listed, if there are any. -/
def WarningsAreListed (reply : Document) : Prop :=
  (Document.get "warnings" reply).truthy → (Document.get "warnings" reply).parts?.isSome

/-- The parts of a reply that are read are of the kinds they are read as. -/
def Tractable (reply : Document) : Prop :=
  if reportsError reply then CodeIsWhole reply else WarningsAreListed reply

/-- A body that is a JSON object is the reply; any other is unusable, and cited as its text. -/
theorem Commander.readReply_cases (r : Request) (htext : responseText response = .ok text) :
    (∃ reply, Body.json? response.body = some (.doc reply) ∧ readReply r response = .ok reply) ∨
      (∀ reply, Body.json? response.body ≠ some (.doc reply)) ∧
        ∃ problem, readReply r response
          = .error (.unusable problem (.doc [("raw_response", .text text)])) := by
  unfold readReply
  rw [htext]
  rcases Body.json? response.body with _ | value
  · exact .inr ⟨by simp, _, rfl⟩
  · cases value with
    | doc reply => exact .inl ⟨reply, rfl, rfl⟩
    | _ => exact .inr ⟨by simp, _, rfl⟩

/-- An error reply is told as a failure exactly if its code is whole. -/
theorem ofReply_cases (reply : Document) (address : Option Address) :
    (CodeIsWhole reply ∧ ∃ failure, CommandFailure.ofReply reply address = .ok failure ∧
        failure.reply = reply) ∨
      ¬ CodeIsWhole reply ∧ ∃ x : Double, CommandFailure.ofReply reply address
        = .error (if x.isNaN then .invalid .wholePartOfNaN else .overflow .infinite) := by
  unfold CommandFailure.ofReply CodeIsWhole
  cases hcode : Document.get "code" reply with
  | double x =>
    rcases hx : x.truncate with _ | n
    · have hwhole : (Value.double x).wholeNumber
          = .error (if x.isNaN then .invalid .wholePartOfNaN else .overflow .infinite) := by
        simp [Value.wholeNumber, hx]
      refine .inr ⟨by simp [hx], x, ?_⟩
      dsimp only
      rw [hwhole]
      rfl
    · have hwhole : (Value.double x).wholeNumber = .ok n := by simp [Value.wholeNumber, hx]
      refine .inl ⟨by simp [hx], ?_⟩
      dsimp only
      rw [hwhole]
      exact ⟨_, rfl, rfl⟩
  | _ => exact .inl ⟨by simp, _, rfl, rfl⟩

theorem warningsOf_cases (reply : Document) :
    (WarningsAreListed reply ∧ ∃ items, warningsOf reply = .ok items) ∨
      ¬ WarningsAreListed reply ∧ ∃ detail, warningsOf reply = .error (.wrongKind detail) := by
  unfold warningsOf WarningsAreListed Value.items
  split
  · rename_i htrue
    rcases (Document.get "warnings" reply).parts? with _ | items
    · exact .inr ⟨by simp [htrue], _, rfl⟩
    · exact .inl ⟨by simp, _, rfl⟩
  · rename_i hfalse
    exact .inl ⟨fun htrue => absurd htrue hfalse, _, rfl⟩

theorem Commander.settled_of_reported (c : Commander) (h : reportsError reply) :
    c.settled reply
      = CommandFailure.ofReply reply c.address >>= fun f => .error (.command f) := by
  unfold settled checkReply
  rw [if_pos h]
  rcases CommandFailure.ofReply reply c.address with e | f <;> rfl

theorem Commander.settled_of_unreported (c : Commander) (h : reportsError reply = false) :
    c.settled reply = warningsOf reply >>= fun _ => .ok reply := by
  unfold settled checkReply
  rw [if_neg (by simp [h])]
  rfl

/-- What a reply comes to is documented exactly if the reply is tractable. -/
theorem documented_settled (c : Commander) (hstatus : Status.isSuccess response.status)
    (hbody : Body.json? response.body = some (.doc reply)) :
    Documented response text (c.settled reply) ↔ Tractable reply := by
  unfold Tractable
  rcases hreply : reportsError reply with _ | _
  · rw [c.settled_of_unreported hreply]
    obtain ⟨hlisted, items, hitems⟩ | ⟨hlisted, detail, hitems⟩ := warningsOf_cases reply <;>
      rw [hitems]
    · exact iff_of_true (.replied hstatus hbody hreply) hlisted
    · exact iff_of_false (fun h => by cases h) hlisted
  · rw [c.settled_of_reported hreply]
    obtain ⟨hwhole, failure, hfailure, rfl⟩ | ⟨hwhole, x, hfailure⟩ :=
      ofReply_cases reply c.address <;> rw [hfailure]
    · exact iff_of_true (.failed hstatus hbody hreply) hwhole
    · refine iff_of_false (fun h => ?_) hwhole
      split at h <;> cases h

/-- **A response comes to a documented outcome** exactly if its reply, if it has one, is
    tractable. -/
theorem documented_iff {i : Interpreter ω} (h : Received i c r sent response text)
    (cell : Cell ω σ) (w : ω) :
    Documented response text (interpret i cell (c.run r) w).1 ↔
      (Status.isSuccess response.status → ∀ reply,
        Body.json? response.body = some (.doc reply) → Tractable reply) := by
  rw [c.outcome_run h]
  unfold Commander.outcomeOf admitted
  rcases hstatus : Status.isSuccess response.status with _ | _
  · exact iff_of_true (.refused hstatus) (by simp)
  change Documented response text (Commander.readReply r response >>= c.settled) ↔ _
  obtain ⟨reply, hbody, hread⟩ | ⟨hbody, problem, hread⟩ := Commander.readReply_cases r h.text <;>
    rw [hread]
  · have hreply : ∀ other, Body.json? response.body = some (.doc other) → other = reply := by
      intro other hother
      rw [hbody] at hother
      exact (Value.doc.inj (Option.some.inj hother)).symm
    refine (documented_settled c hstatus hbody).trans ⟨fun htractable _ other hother => ?_,
      fun hall => hall rfl reply hbody⟩
    exact hreply other hother ▸ htractable
  · exact iff_of_true (.unusable hstatus hbody) fun _ reply hreply => absurd hreply (hbody reply)

/-! ## An undocumented failure -/

/-- The world that answers every request with one response. -/
def answering (response : HttpResponse) : Interpreter Unit where
  take _ _ := ()
  answer
    | .http _, _ => (.ok (.response response), ())
    | _, _ => (.error .notHeld, ())

/-- The way to a gateway. -/
def sampleGateway : Commander := .of "http://library.test/api"

/-- A command. -/
def samplePing : Request := { payload := some [("ping", .int 1)] }

/-- A successful response with a body. -/
def succeeding (body : String) : HttpResponse := ⟨200, [], Text.Utf8.encode body⟩

theorem received_succeeding {body : String} (hempty : (Text.Utf8.encode body).isEmpty = false)
    (htext : Body.text (Text.Utf8.encode body) = body) :
    ∃ sent, Received (answering (succeeding body)) sampleGateway samplePing sent
      (succeeding body) body := by
  refine ⟨_, ⟨none, rfl, rfl⟩, fun _ => rfl, ?_⟩
  unfold responseText succeeding
  rw [if_neg (by simp [hempty])]
  exact congrArg Except.ok htext

/-- A reply with warnings of a kind. -/
def warningReply (warnings : Value) : Document := [("ok", .int 1), ("warnings", warnings)]

/-- A body with a list of warnings. -/
def listedWarnings : String := "\x7b\"ok\":1,\"warnings\":[\"slow\"]\x7d"

theorem json_listedWarnings : Body.json? (succeeding listedWarnings).body
    = some (.doc (warningReply (.list [.text "slow"]))) := by
  decide +kernel

theorem documented_listedWarnings : Documented (succeeding listedWarnings) listedWarnings
    (interpret (answering (succeeding listedWarnings)) (Cell.none Unit)
      (sampleGateway.run samplePing) ()).1 := by
  have hbody : (Text.Utf8.encode listedWarnings).isEmpty = false := by decide +kernel
  obtain ⟨sent, h⟩ := received_succeeding hbody (by decide +kernel)
  refine (documented_iff h (Cell.none Unit) ()).2 fun _ reply hreply => ?_
  obtain rfl := Value.doc.inj (Option.some.inj (json_listedWarnings.symm.trans hreply))
  exact fun _ => rfl

/-- A body with a number of warnings. -/
def countedWarnings : String := "\x7b\"ok\":1,\"warnings\":5\x7d"

theorem json_countedWarnings : Body.json? (succeeding countedWarnings).body
    = some (.doc (warningReply (.int 5))) := by
  decide +kernel

/-- A reply that reports no error, but whose warnings are no list, is not returned. -/
theorem not_documented_countedWarnings :
    ¬ Documented (succeeding countedWarnings) countedWarnings
      (interpret (answering (succeeding countedWarnings)) (Cell.none Unit)
        (sampleGateway.run samplePing) ()).1 := by
  have hbody : (Text.Utf8.encode countedWarnings).isEmpty = false := by decide +kernel
  obtain ⟨sent, h⟩ := received_succeeding hbody (by decide +kernel)
  rw [sampleGateway.outcome_run h]
  have hread : Commander.readReply samplePing (succeeding countedWarnings)
      = .ok (warningReply (.int 5)) := by
    unfold Commander.readReply
    rw [json_countedWarnings]
  change ¬ Documented _ _ (Commander.readReply samplePing (succeeding countedWarnings) >>= _)
  rw [hread]
  intro hdocumented
  have hwarnings := (documented_settled sampleGateway rfl json_countedWarnings).1 hdocumented
  exact absurd (hwarnings rfl) (by decide)

end DocumentClient.Http
