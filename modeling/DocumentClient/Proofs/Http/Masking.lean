/-
  What the records of a commander show of its headers.

  A commander logs each request, with the values of its secret headers masked, and then the
  response to it.  `recordsOf` is what a sequence of requests leaves in the log, each answered
  in a given way.

  `recordsOf_of_differ`: two commanders that differ in the values of secret headers only leave
  the same records, as long as the one sends what the other sends.  A header is secret if its
  name is listed letter by letter: one that is listed in another case shows
  (`recordsOf_lowerCase`).
-/
import DocumentClient.Proofs.Http.Outcomes
import Mathlib.Data.List.Forall2

namespace DocumentClient.Http

open Program (Interpreter Cell interpret)

/-! ## Headers that differ -/

/-- Two headers of one name: both have a value or neither, and the values differ only where the
    name is of a kind. -/
structure Differ (p : String → Prop) (x y : String × Option String) : Prop where
  name : x.1 = y.1
  valued : x.2.isSome = y.2.isSome
  differs : x.2 ≠ y.2 → p x.1

/-- The same of two headers that are sent. -/
structure SentDiffer (p : String → Prop) (x y : String × String) : Prop where
  name : x.1 = y.1
  differs : x.2 ≠ y.2 → p x.1

/-- The name of the header that says what a body is. -/
def contentTypeHeader : String := "Content-Type"

section
variable {p : String → Prop}

theorem SentDiffer.refl (x : String × String) : SentDiffer p x x := ⟨rfl, fun h => absurd rfl h⟩

/-- What has no value is not sent. -/
theorem sentDiffer_filterMap {xs ys : List (String × Option String)}
    (h : List.Forall₂ (Differ p) xs ys) :
    List.Forall₂ (SentDiffer p) (xs.filterMap fun (name, value) => value.map (name, ·))
      (ys.filterMap fun (name, value) => value.map (name, ·)) := by
  induction h with
  | nil => exact .nil
  | @cons x y xs ys hxy _ ih =>
    obtain ⟨name, v⟩ := x
    obtain ⟨name', v'⟩ := y
    obtain ⟨hname, hvalued, hdiffers⟩ := hxy
    obtain rfl : name = name' := hname
    rcases v with _ | v <;> rcases v' with _ | v' <;> simp at hvalued
    · exact ih
    · exact .cons ⟨rfl, fun hne => hdiffers fun heq => hne (Option.some.inj heq)⟩ ih

theorem any_name_of_sentDiffer {name : String} {xs ys : List (String × String)}
    (h : List.Forall₂ (SentDiffer p) xs ys) :
    xs.any (·.1 == name) = ys.any (·.1 == name) := by
  induction h with
  | nil => rfl
  | cons hxy _ ih => rw [List.any_cons, List.any_cons, ih, hxy.name]

/-- A header that is set has one value in both. -/
theorem sentDiffer_putHeader {name value : String} {xs ys : List (String × String)}
    (h : List.Forall₂ (SentDiffer fun n => p n ∨ n = name) xs ys) :
    List.Forall₂ (SentDiffer p) (Commander.putHeader name value xs)
      (Commander.putHeader name value ys) := by
  have hother : ∀ {x y}, SentDiffer (fun n => p n ∨ n = name) x y → x.1 ≠ name →
      SentDiffer p x y :=
    fun hxy hx => ⟨hxy.name, fun hne => (hxy.differs hne).resolve_right hx⟩
  unfold Commander.putHeader
  rw [any_name_of_sentDiffer h]
  split
  · rw [List.forall₂_map_left_iff, List.forall₂_map_right_iff]
    refine h.imp fun x y hxy => ?_
    by_cases hx : x.1 = name
    · rw [if_pos hx, if_pos (hxy.name ▸ hx)]
      exact .refl _
    · rw [if_neg hx, if_neg (hxy.name ▸ hx)]
      exact hother hxy hx
  · rename_i hnone
    rw [← any_name_of_sentDiffer h] at hnone
    have hnames : ∀ x ∈ xs, x.1 ≠ name := fun x hx heq =>
      hnone (List.any_eq_true.2 ⟨x, hx, beq_iff_eq.2 heq⟩)
    have hboth := (List.forall₂_and_left xs ys).2 ⟨hnames, h⟩
    exact List.rel_append (hboth.imp fun x y hxy => hother hxy.2 hxy.1) (.cons (.refl _) .nil)

end

/-- A sequence of outcomes is one value if each of them is. -/
theorem exists_of_bind {α β : Type} {o : Outcome α} {f : α → Outcome β} {y : β}
    (h : (o >>= f) = .ok y) : ∃ x, o = .ok x ∧ f x = .ok y := by
  rcases o with e | x
  · cases h
  · exact ⟨x, rfl, h⟩

namespace Commander

variable {c c' : Commander} {r : Request} {x : Outcome HttpResult}

/-- Two commanders that differ in the values of headers of a kind. -/
structure Alike (p : String → Prop) (c c' : Commander) : Prop where
  endpoint : c.endpoint = c'.endpoint
  path : c.path = c'.path
  secretHeaders : c.secretHeaders = c'.secretHeaders
  address : c.address = c'.address
  headers : List.Forall₂ (Differ p) c.headers c'.headers

/-- Whether the value of a header is masked, or replaced before it is sent. -/
def Hides (c : Commander) (name : String) : Prop :=
  name ∈ c.secretHeaders ∨ name = contentTypeHeader

theorem Alike.sentHeaders (h : c.Alike c.Hides c') :
    List.Forall₂ (SentDiffer (· ∈ c.secretHeaders)) c.sentHeaders c'.sentHeaders :=
  sentDiffer_putHeader (sentDiffer_filterMap h.headers)

/-- Headers that differ where they are masked are the same once they are masked. -/
theorem Alike.maskedHeaders (h : c.Alike c.Hides c') : c.maskedHeaders = c'.maskedHeaders := by
  unfold Commander.maskedHeaders
  rw [← h.secretHeaders, ← List.forall₂_eq_eq_eq, List.forall₂_map_left_iff,
    List.forall₂_map_right_iff]
  refine h.sentHeaders.imp fun x y hxy => Prod.ext hxy.name ?_
  dsimp only
  rw [← hxy.name]
  split
  · rfl
  · rename_i hplain
    by_contra hne
    exact hplain (by simpa using hxy.differs hne)

/-! ## Requests -/

theorem Alike.fullPath {p : String → Prop} (h : c.Alike p c') : c.fullPath = c'.fullPath := by
  rw [Commander.fullPath, Commander.fullPath, h.endpoint, h.path]

theorem Alike.requestUrl {p : String → Prop} (h : c.Alike p c') (further : Option String) :
    c.requestUrl further = c'.requestUrl further := by
  rcases further with _ | further <;> simp only [Commander.requestUrl, h.fullPath]

/-- What is logged of a request is the same. -/
theorem Alike.logRequest {σ : Type} (h : c.Alike c.Hides c') (r : Request) :
    c.logRequest (σ := σ) r = c'.logRequest r := by
  unfold Commander.logRequest
  rw [h.maskedHeaders, h.requestUrl]

/-- Whether a request comes to be sent. -/
def Sends (c : Commander) (r : Request) : Prop :=
  ∃ timeout sent, r.bound.duration? = .ok timeout ∧ c.prepare r timeout = .ok sent

/-- The body that a request is sent with. -/
def bodyOf (r : Request) : Outcome (Option String) :=
  match r.payload with
  | some payload => (Outcome.ofValid (encodePayload (.doc payload))).map some
  | none => .ok none

theorem prepare_eq (c : Commander) (r : Request) (timeout : Option Duration) :
    c.prepare r timeout = (do
      let body ← bodyOf r
      let url ← Url.parse (c.requestUrl r.furtherPath)
      Headers.check c.sentHeaders
      let url ← url.target.withParameters r.parameters
      return { method := Text.upper r.method
               url := url
               headers := c.headersFor url
               body := body
               timeout := timeout }) := by
  unfold prepare bodyOf
  rcases r.payload with _ | payload <;> rfl

theorem sends_iff {timeout : Option Duration} (h : r.bound.duration? = .ok timeout) :
    c.Sends r ↔ ∃ sent, c.prepare r timeout = .ok sent := by
  constructor
  · rintro ⟨timeout', sent, htimeout', hsent⟩
    obtain rfl := Except.ok.inj (h.symm.trans htimeout')
    exact ⟨sent, hsent⟩
  · rintro ⟨sent, hsent⟩
    exact ⟨timeout, sent, h, hsent⟩

/-- What is sent differs in headers only. -/
theorem Alike.prepare {p : String → Prop} (h : c.Alike p c') {timeout : Option Duration}
    {sent sent' : HttpRequest} (hsent : c.prepare r timeout = .ok sent)
    (hsent' : c'.prepare r timeout = .ok sent') :
    sent.url = sent'.url ∧ sent.body = sent'.body := by
  rw [prepare_eq] at hsent hsent'
  rw [← h.requestUrl] at hsent'
  obtain ⟨body, hbody, hsent⟩ := exists_of_bind hsent
  obtain ⟨url, hurl, hsent⟩ := exists_of_bind hsent
  obtain ⟨-, -, hsent⟩ := exists_of_bind hsent
  obtain ⟨target, htarget, hsent⟩ := exists_of_bind hsent
  obtain ⟨body', hbody', hsent'⟩ := exists_of_bind hsent'
  obtain ⟨url', hurl', hsent'⟩ := exists_of_bind hsent'
  obtain ⟨-, -, hsent'⟩ := exists_of_bind hsent'
  obtain ⟨target', htarget', hsent'⟩ := exists_of_bind hsent'
  obtain rfl := Except.ok.inj (hbody.symm.trans hbody')
  obtain rfl := Except.ok.inj (hurl.symm.trans hurl')
  obtain rfl := Except.ok.inj (htarget.symm.trans htarget')
  obtain rfl := Except.ok.inj hsent
  obtain rfl := Except.ok.inj hsent'
  exact ⟨rfl, rfl⟩

/-! ## Records -/

/-- What a log holds, the latest first. -/
abbrev Log := List (LogLevel × String)

/-- The world in which a request is answered in one way, and records are kept. -/
def logging (x : Outcome HttpResult) : Interpreter Log where
  take
    | .log level message, log => (level, message) :: log
    | _, log => log
  answer
    | .http _, log => (x, log)
    | _, log => (.error .notHeld, log)

/-- What is requested of a commander, and how it is answered. -/
structure Enquiry where
  request : Request
  /-- Whether the response itself is wanted, and not the reply in it. -/
  raw : Bool := false
  errorsPass : Bool := false
  answer : Outcome HttpResult

/-- What a commander does for an enquiry, whatever comes of it. -/
def meet (c : Commander) (e : Enquiry) : Program Unit Unit :=
  if e.raw then do let _ ← c.exchange e.request; return ()
  else do let _ ← c.run e.request e.errorsPass; return ()

/-- What a sequence of enquiries adds to a log. -/
def recordsOf (c : Commander) (enquiries : List Enquiry) : Log :=
  enquiries.foldl (fun log e => (interpret (logging e.answer) (Cell.none Log) (c.meet e) log).2) []

/-- Two runs end in the same world, with the same outcome or both with a failure. -/
def Same {α ω : Type} (a b : Outcome α × ω) : Prop :=
  a.2 = b.2 ∧ (a.1 = b.1 ∨ ∃ e e', a.1 = .error e ∧ b.1 = .error e')

section
variable {i : Interpreter Log} {log : Log} {α β : Type} {p q : Program Unit α}

theorem Same.refl (a : Outcome α × Log) : Same a a := ⟨rfl, .inl rfl⟩

/-- Programs that run alike are followed by the same. -/
theorem same_bind {f g : α → Program Unit β}
    (h : Same (interpret i (Cell.none Log) p log) (interpret i (Cell.none Log) q log))
    (hf : ∀ a log, Same (interpret i (Cell.none Log) (f a) log)
      (interpret i (Cell.none Log) (g a) log)) :
    Same (interpret i (Cell.none Log) (p >>= f) log)
      (interpret i (Cell.none Log) (q >>= g) log) := by
  rw [Program.interpret_bind, Program.interpret_bind]
  rcases hp : interpret i (Cell.none Log) p log with ⟨o, log₁⟩
  rcases hq : interpret i (Cell.none Log) q log with ⟨o', log₂⟩
  rw [hp, hq] at h
  obtain ⟨hlog, ho⟩ := h
  obtain rfl : log₁ = log₂ := hlog
  rcases ho with ho | ⟨e, e', he, he'⟩
  · obtain rfl : o = o' := ho
    rcases o with e | a
    · exact .refl _
    · exact hf a log₁
  · obtain rfl : o = .error e := he
    obtain rfl : o' = .error e' := he'
    exact ⟨rfl, .inr ⟨e, e', rfl, rfl⟩⟩

end

/-- What a commander does once it is known what is sent. -/
def converse (sent : HttpRequest) (bound : Bound) : Program Unit HttpResponse := do
  match ← Program.http sent with
  | .timeout phase text =>
    Program.fail (.timedOut
      (Timeout.ofRequest phase text bound (some sent.url.text) (some (sent.body.getD ""))))
  | .response response =>
    if Status.isSuccess response.status then do
      Program.log .debug s!"Response status code: {response.status}"
      Program.log .debug s!"Response headers: {Headers.shown response.headers}"
      let text ← Program.ofOutcome (responseText response)
      Program.log .debug s!"Response text: {text}"
      return response
    else Program.fail (statusFailure response sent.url.text)

/-- The headers of what was sent do not show in the records. -/
theorem interpret_converse {sent sent' : HttpRequest} {bound : Bound} {log : Log}
    (hurl : sent.url = sent'.url) (hbody : sent.body = sent'.body) :
    interpret (logging x) (Cell.none Log) (converse sent bound) log
      = interpret (logging x) (Cell.none Log) (converse sent' bound) log := by
  unfold converse
  rw [hurl, hbody, Program.interpret_bind, Program.interpret_bind]
  rfl

/-- Requests to commanders that differ in hidden headers leave the same records. -/
theorem Alike.exchange (h : c.Alike c.Hides c') (hsends : c.Sends r ↔ c'.Sends r) (log : Log) :
    Same (interpret (logging x) (Cell.none Log) (c.exchange r) log)
      (interpret (logging x) (Cell.none Log) (c'.exchange r) log) := by
  have hexchange : ∀ c : Commander, c.exchange r = (do
      let timeout ← Program.ofOutcome r.bound.duration?
      c.logRequest r
      let sent ← Program.ofOutcome (c.prepare r timeout)
      converse sent r.bound) := fun _ => rfl
  rw [hexchange, hexchange]
  rcases htimeout : r.bound.duration? with e | timeout
  · exact .refl _
  refine same_bind (p := c.logRequest r) (q := c'.logRequest r)
    (by rw [h.logRequest]; exact .refl _) fun _ log => ?_
  rw [sends_iff htimeout, sends_iff htimeout] at hsends
  rcases hsent : c.prepare r timeout with e | sent <;>
    rcases hsent' : c'.prepare r timeout with e' | sent' <;> simp only [hsent, hsent'] at hsends
  · exact ⟨rfl, .inr ⟨e, e', rfl, rfl⟩⟩
  · simp at hsends
  · simp at hsends
  · obtain ⟨hurl, hbody⟩ := h.prepare hsent hsent'
    have heq : interpret (logging x) (Cell.none Log) (converse sent r.bound) log
        = interpret (logging x) (Cell.none Log) (converse sent' r.bound) log :=
      interpret_converse hurl hbody
    exact ⟨congrArg Prod.snd heq, .inl (congrArg Prod.fst heq)⟩

/-- So do replies. -/
theorem Alike.run (h : c.Alike c.Hides c') (hsends : c.Sends r ↔ c'.Sends r) (errorsPass : Bool)
    (log : Log) :
    Same (interpret (logging x) (Cell.none Log) (c.run r errorsPass) log)
      (interpret (logging x) (Cell.none Log) (c'.run r errorsPass) log) := by
  unfold Commander.run
  rw [← h.address]
  exact same_bind (h.exchange hsends log) fun _ log => .refl _

theorem Alike.meet (h : c.Alike c.Hides c') {e : Enquiry}
    (hsends : c.Sends e.request ↔ c'.Sends e.request) (log : Log) :
    (interpret (logging e.answer) (Cell.none Log) (c.meet e) log).2
      = (interpret (logging e.answer) (Cell.none Log) (c'.meet e) log).2 := by
  unfold Commander.meet
  split
  · exact (same_bind (h.exchange hsends log) fun _ log => .refl _).1
  · exact (same_bind (h.run hsends _ log) fun _ log => .refl _).1

/-- A sequence of enquiries leaves the same records. -/
theorem Alike.recordsOf (h : c.Alike c.Hides c') {enquiries : List Enquiry}
    (hsends : ∀ e ∈ enquiries, c.Sends e.request ↔ c'.Sends e.request) :
    c.recordsOf enquiries = c'.recordsOf enquiries := by
  unfold Commander.recordsOf
  generalize ([] : Log) = log
  induction enquiries generalizing log with
  | nil => rfl
  | cons e enquiries ih =>
    rw [List.foldl_cons, List.foldl_cons, h.meet (hsends e (List.mem_cons_self ..))]
    exact ih (fun e he => hsends e (List.mem_cons_of_mem _ he)) _

end Commander

/-! ## Secrets -/

/-- **The values of secret headers do not show.** -/
theorem recordsOf_of_differ {endpoint path : String} {secretHeaders : List String}
    {address : Option Address} {headers headers' : List (String × Option String)}
    {enquiries : List Commander.Enquiry}
    (hdiffer : List.Forall₂ (Differ fun n => n ∈ secretHeaders ∨ n = contentTypeHeader)
      headers headers')
    (hsends : ∀ e ∈ enquiries,
      (Commander.of endpoint path headers secretHeaders address).Sends e.request ↔
        (Commander.of endpoint path headers' secretHeaders address).Sends e.request) :
    (Commander.of endpoint path headers secretHeaders address).recordsOf enquiries
      = (Commander.of endpoint path headers' secretHeaders address).recordsOf enquiries := by
  have halike : (Commander.of endpoint path headers secretHeaders address).Alike
      (Commander.of endpoint path headers secretHeaders address).Hides
      (Commander.of endpoint path headers' secretHeaders address) :=
    ⟨rfl, rfl, rfl, rfl, hdiffer⟩
  exact halike.recordsOf hsends

/-- The way to a gateway with one header. -/
def bearing (name value : String) : Commander :=
  .of "http://gw" "" [(name, some value)]

/-- A command, answered with success. -/
def answeredPing : Commander.Enquiry where
  request := samplePing
  answer := .ok (.response (succeeding listedWarnings))

theorem recordsOf_bearing :
    (bearing authorizationHeader "Bearer one").recordsOf [answeredPing, answeredPing]
      = (bearing authorizationHeader "Bearer two").recordsOf [answeredPing, answeredPing] := by
  have hsends : ∀ value, (∃ sent, (bearing authorizationHeader value).prepare samplePing none
      = .ok sent) → (bearing authorizationHeader value).Sends samplePing :=
    fun value ⟨sent, hsent⟩ => ⟨none, sent, rfl, hsent⟩
  refine recordsOf_of_differ
    (.cons ⟨rfl, rfl, fun _ => .inl (List.mem_singleton_self _)⟩ .nil) fun e he => ?_
  obtain rfl : e = answeredPing := by simpa using he
  exact ⟨fun _ => hsends _ ⟨_, rfl⟩, fun _ => hsends _ ⟨_, rfl⟩⟩

/-- A name that is listed, in upper or lower case. -/
def Listed (names : List String) (name : String) : Prop :=
  ∃ listed ∈ names, listed.toLower = name.toLower

/-- A name that is listed in another case does not hide the value. -/
theorem recordsOf_lowerCase :
    List.Forall₂ (Differ (Listed [authorizationHeader]))
      (bearing "authorization" "Bearer one").headers
      (bearing "authorization" "Bearer two").headers ∧
    (bearing "authorization" "Bearer one").Sends samplePing ∧
    (bearing "authorization" "Bearer two").Sends samplePing ∧
    (bearing "authorization" "Bearer one").recordsOf [answeredPing]
      ≠ (bearing "authorization" "Bearer two").recordsOf [answeredPing] :=
  ⟨.cons ⟨rfl, rfl, fun _ => ⟨_, List.mem_singleton_self _, by decide +kernel⟩⟩ .nil,
    ⟨none, _, rfl, rfl⟩, ⟨none, _, rfl, rfl⟩, by decide +kernel⟩

end DocumentClient.Http
