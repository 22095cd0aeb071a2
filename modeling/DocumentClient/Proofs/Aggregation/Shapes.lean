/-
  The results of an aggregation, in whatever shape they come.

  A server has the results of a pipeline.  Asked for a cursor it sends a first batch and keeps
  the rest; not asked, it sends all of them in the reply (`Evaluates`).  Which way they come is
  chosen in the command, in the decoder of the reply and in what is read from it; these agree
  (`Evaluates.answered`), and the cursor that is made has all results to hand out (`Stocked`).

  `collected_of_evaluates`: going over the cursor to its end brings all results, each decoded
  once.
-/
import DocumentClient.Aggregation
import DocumentClient.Proofs.Cursor.Iteration
import DocumentClient.Proofs.Cursor.Life

namespace DocumentClient

open Program (Ensures Interpreter Cell interpret)
open Cursor (Plan Setup Supplies Fetches Runs Due ofPlan)

/-! ## Requests and replies -/

/-- The command a server is asked to run: what an envelope holds. -/
def unwrapped (command : Document) : Document :=
  match Document.lookup wrappedCommandField command with
  | some (.doc inner) => inner
  | _ => command

theorem wrapCommand_cases {command sent : Document} {preference : ReadPreference}
    {server : Server} (h : wrapCommand command preference server = .ok sent) :
    sent = command ∨ ∃ document,
      sent = [(wrappedCommandField, .doc command), (wrappedPreferenceField, .doc document)] := by
  unfold wrapCommand at h
  split at h
  · rcases hdocument : preference.document with e | document <;> rw [hdocument] at h
    · cases h
    · cases h
      exact .inr ⟨document, rfl⟩
  · cases h
    exact .inl rfl

/-- Which batch may answer a fetch where `rest` was not sent yet, whatever is asked for, and
    which id the server may report with it; `left` stays behind. -/
structure Feeds (rest batch : List Value) (id : Int) (left : List Value) : Prop where
  order : rest = batch ++ left
  filled : rest ≠ [] → batch ≠ []
  /-- The cursor goes with the last documents at the earliest, … -/
  alive : id = 0 → left = []
  /-- … and with the empty batch after them at the latest. -/
  gone : rest = [] → id = 0

theorem Sends.feeds {count id : Int} {rest batch left : List Value}
    (h : Sends count rest batch id left) (hcount : 0 ≤ count) : Feeds rest batch id left :=
  ⟨h.order, h.filled hcount, h.alive, h.gone⟩

theorem Feeds.provides {rest batch left : List Value} {id : Int} (h : Feeds rest batch id left)
    (delivered : Int) : Provides 0 delivered rest batch id left where
  order := h.order
  filled hnil := h.gone (Classical.byContradiction fun hrest => h.filled hrest hnil)
  alive := h.alive
  within hpos := absurd hpos (by decide)

namespace Aggregation

/-- A command that runs the pipeline of an aggregation over its collection; it is no fetch. -/
structure Asks (a : Aggregation) (command : Document) : Prop where
  fetches : Document.lookup "getMore" command = none
  collection : Document.lookup "aggregate" (unwrapped command) = some (.text a.ns.collection)
  pipeline : Document.lookup "pipeline" (unwrapped command) = some (.list a.pipeline)

/-- What is sent asks for the pipeline, in an envelope or not. -/
theorem asks_of_wrapCommand {a : Aggregation} {server : Server} {preference : ReadPreference}
    {sent : Document} (h : wrapCommand (a.command server) preference server = .ok sent) :
    a.Asks sent ∧ unwrapped sent = a.command server := by
  obtain rfl | ⟨document, rfl⟩ := wrapCommand_cases h
  · have hplain : unwrapped (a.command server) = a.command server := by
      unfold unwrapped
      rw [a.lookup_other_command server (by decide)]
    refine ⟨⟨a.lookup_other_command server (by decide), ?_, ?_⟩, hplain⟩ <;> rw [hplain]
    · exact a.lookup_collection_command server
    · exact a.lookup_pipeline_command server
  · exact ⟨⟨rfl, a.lookup_collection_command server, a.lookup_pipeline_command server⟩, rfl⟩

/-- What a world does for an aggregation with certain results: it connects to a server that sends
    them as they are asked for. -/
structure Evaluates {ω : Type} (a : Aggregation) (server : Server) (ns : Namespace)
    (i : Interpreter ω) (stands : ω → Prop) (shelf : Shelf ω) (results : List Value) : Prop where
  stays : ∀ {w} level message, stands w → stands (i.take (.log level message) w)
  source : ∀ {w}, stands w → ∃ source, (i.answer (.source .read) w).1 = .ok source ∧
    stands (i.answer (.source .read) w).2
  connects : ∀ {w} source, stands w → ∃ x, (i.answer (.lease source) w).1 = .ok x ∧
    x.server = server ∧ stands (i.answer (.lease source) w).2
  /-- Not asked for a cursor, the server sends all results in the reply. -/
  inline : ∀ x command secondaryOk names decode {w}, stands w → x.server = server →
    a.Asks command → Document.has cursorField (unwrapped command) = false →
    ∃ reply, (i.answer (.command x a.ns.database command secondaryOk names decode) w).1
        = decode (.doc reply) ∧ Document.lookup cursorField reply = none ∧
      Document.lookup inlineResultField reply = some (.list results)
  /-- Asked for one, it sends the first of them and keeps the rest. -/
  byCursor : ∀ x command secondaryOk names decode {w}, stands w → x.server = server →
    a.Asks command → Document.has cursorField (unwrapped command) = true →
    ∃ reply batch rest id,
      (i.answer (.command x a.ns.database command secondaryOk names decode) w).1
        = decode (.doc reply) ∧ CarriesUnder firstBatchField reply ns batch id ∧
      results = batch ++ rest ∧ (id = 0 → rest = []) ∧ shelf.holds rest id
        (i.answer (.command x a.ns.database command secondaryOk names decode) w).2
  fetches : Fetches (fun _ => Feeds) ns i shelf
  log : ∀ {rest id w} level message, shelf.holds rest id w →
    shelf.holds rest id (i.take (.log level message) w)
  logOpens : ∀ {x w} level message, shelf.opens x w →
    shelf.opens x (i.take (.log level message) w)
  lease : ∀ {rest id w} source, shelf.holds rest id w →
    ∃ x, (i.answer (.lease source) w).1 = .ok x ∧
      shelf.holds rest id (i.answer (.lease source) w).2 ∧
      shelf.opens x (i.answer (.lease source) w).2
  giveBack : ∀ {x rest id w}, shelf.holds rest id w →
    shelf.holds rest id (i.take (.releaseConnection x) w)

/-- Runs an aggregation and goes over the batches of its cursor. -/
def collect {σ : Type} (a : Aggregation) (mode : Mode) (preference : ReadPreference) (rounds : Nat)
    (turns : List (List Int)) : Program σ (List (List Value) × Cursor.Retrieval) := do
  let c ← a.execute mode preference
  let (yield, _) ← Program.within c (Cursor.iterate rounds turns)
  return yield

section
variable {σ ω : Type} {cell : Cell ω σ} {i : Interpreter ω} {a : Aggregation} {server : Server}
variable {ns : Namespace} {stands : ω → Prop} {shelf : Shelf ω} {results : List Value}
variable {f : Value → Value} {w : ω} {mode : Mode} {preference : ReadPreference}

/-! ## Reading the reply -/

/-- All results of a reply without cursor, decoded and read. -/
theorem read_inline {reply : Document} (hcursor : Document.lookup cursorField reply = none)
    (hresults : Document.lookup inlineResultField reply = some (.list results))
    (hf : ∀ d ∈ results, a.decode d = .ok (f d)) (huse : a.usesCursor server = false) :
    (Decoder.ofResults a.decode (a.resultsField server) (.doc reply)).bind (a.toQueryResult server)
      = .ok ⟨a.ns, results.map f, 0, server.address⟩ := by
  have hreply : Decoder.ofResults a.decode inlineResultField (.doc reply)
      = .ok (.doc (Document.put inlineResultField (.list (results.map f)) reply)) := by
    simp only [Decoder.ofResults, Document.get, hcursor, Option.getD_none,
      Decoder.ofResults.inReply, hresults, decodeBatch_list hf]
    rfl
  rw [resultsField, huse, if_neg Bool.false_ne_true, hreply]
  simp only [Except.bind, toQueryResult, huse, Value.fieldOrNull, Document.get,
    Document.lookup_put, if_pos, Option.getD_some]
  rcases hmap : results.map f with _ | ⟨d, ds⟩ <;> rfl

/-- The first batch of a reply with cursor, decoded and read. -/
theorem read_byCursor {reply : Document} {batch : List Value} {id : Int}
    (h : CarriesUnder firstBatchField reply ns batch id)
    (hf : ∀ d ∈ batch, a.decode d = .ok (f d)) (huse : a.usesCursor server) :
    (Decoder.ofResults a.decode (a.resultsField server) (.doc reply)).bind (a.toQueryResult server)
      = .ok ⟨ns, batch.map f, id, server.address⟩ := by
  have hread : a.toQueryResult server = readUnder firstBatchField server.address := by
    funext value
    rw [toQueryResult, if_pos huse]
    rfl
  rw [resultsField, if_pos huse, hread]
  exact h.read (by decide) (by decide) hf server.address

/-! ## Supplies -/

/-- A world that evaluates an aggregation supplies the cursors over its results. -/
theorem Evaluates.supplies (h : Evaluates a server ns i stands shelf results) {s : Setup}
    (hns : s.ns = ns) (hlimit : s.limit = 0) (hconnection : s.connection = none) :
    Supplies s i shelf where
  log := h.log
  logOpens := h.logOpens
  given hgiven := by simp [hconnection] at hgiven
  lease _ _ := h.lease _
  giveBack _ := h.giveBack
  fetched := by
    rintro c x target rest w f rfl hw hx hsize hopen hf
    have hzero : c.limit = 0 := hlimit
    obtain rfl : c.ns = ns := hns
    obtain ⟨result, batch, left, hfetched, hresults, hfeeds, hleft⟩ :=
      h.fetches.fetched (fun h => h.order) hw hx
        (numberToReturn_bounds (Int.le_of_eq hzero.symm) hsize hopen).1 hf
    refine ⟨result, batch, left, hfetched, hresults, ?_, hleft⟩
    rw [hzero]
    exact hfeeds.provides _
  kill hne := absurd hlimit hne

/-- A shelf on which nothing is kept. -/
def nothingKept (ω : Type) : Shelf ω := ⟨fun rest id _ => rest = [] ∧ id = 0, fun _ _ => False⟩

/-- A cursor without a source depends on nothing. -/
theorem supplies_nothing {s : Setup} (hlimit : s.limit = 0) (hconnection : s.connection = none)
    (hsource : s.source = none) : Supplies s i (nothingKept ω) where
  log _ _ hw := hw
  logOpens _ _ hx := hx
  given hgiven := by simp [hconnection] at hgiven
  lease _ hsome := by simp [hsource] at hsome
  giveBack _ hw := hw
  fetched _ _ hx := hx.elim
  kill hne := absurd hlimit hne

/-- The first batch is there, and what a cursor made from it depends on. -/
structure Ready (i : Interpreter ω) (f : Value → Value) (results : List Value)
    (shelf : Shelf ω) (rest : List Value) (first : QueryResult) : Prop where
  results : ∃ batch, first.results = batch.map f ∧ results = batch ++ rest
  last : first.cursorId = 0 → rest = []
  supplies : ∀ s : Setup, s.ns = first.ns → s.limit = 0 → s.connection = none →
    (s.source.isSome → first.cursorId ≠ 0) → Supplies s i shelf

/-! ## Running the command -/

/-- The exchange that sends the command. -/
def request (a : Aggregation) (server : Server) (preference : ReadPreference) (x : Connection)
    (sent : Document) : Exchange :=
  .command x a.ns.database sent preference.secondaryOk .any (a.call server).decode

/-- What is read from the answer to the command. -/
def answered (a : Aggregation) (server : Server) (o : Outcome Value) : Outcome QueryResult :=
  o.bind (a.toQueryResult server)

variable (preference) in
/-- **The results are read in the shape in which they come.** -/
theorem Evaluates.answered (h : Evaluates a server ns i stands shelf results) (hw : stands w)
    {x : Connection} (hx : x.server = server) {sent : Document} (hasks : a.Asks sent)
    (hsent : unwrapped sent = a.command server) (hf : ∀ d ∈ results, a.decode d = .ok (f d)) :
    ∃ first shelf' rest,
      a.answered server (i.answer (a.request server preference x sent) w).1 = .ok first ∧
      Ready i f results shelf' rest first ∧
      shelf'.holds rest first.cursorId (i.answer (a.request server preference x sent) w).2 := by
  have hshape : Document.has cursorField (unwrapped sent) = a.usesCursor server := by
    rw [hsent, a.has_cursor_command]
  rcases huse : a.usesCursor server with _ | _
  · obtain ⟨reply, hanswer, hcursor, hresults⟩ :=
      h.inline x sent preference.secondaryOk .any (a.call server).decode hw hx hasks
        (hshape.trans huse)
    refine ⟨⟨a.ns, results.map f, 0, server.address⟩, nothingKept ω, [], ?_,
      ⟨⟨results, rfl, (List.append_nil _).symm⟩, fun _ => rfl, ?_⟩, rfl, rfl⟩
    · exact (congrArg (a.answered server) hanswer).trans (read_inline hcursor hresults hf huse)
    · exact fun s _ hlimit hconnection hsource =>
        supplies_nothing hlimit hconnection (by simpa using hsource)
  · obtain ⟨reply, batch, rest, id, hanswer, hcarries, horder, hlast, hkept⟩ :=
      h.byCursor x sent preference.secondaryOk .any (a.call server).decode hw hx hasks
        (hshape.trans huse)
    have hbatch : ∀ d ∈ batch, a.decode d = .ok (f d) := fun d hd => hf d (by simp [horder, hd])
    refine ⟨⟨ns, batch.map f, id, server.address⟩, shelf, rest, ?_,
      ⟨⟨batch, rfl, horder⟩, hlast, ?_⟩, hkept⟩
    · exact (congrArg (a.answered server) hanswer).trans (read_byCursor hcarries hbatch huse)
    · exact fun s hns hlimit hconnection _ => h.supplies hns hlimit hconnection

theorem ensures_call (h : Evaluates a server ns i stands shelf results) (hw : stands w)
    {x : Connection} (hx : x.server = server) {sent : Document}
    (hsent : wrapCommand (a.command server) preference server = .ok sent)
    (hf : ∀ d ∈ results, a.decode d = .ok (f d)) :
    Ensures i.environment cell (fun o w' => ∃ first shelf' rest, o = .ok first ∧
        Ready i f results shelf' rest first ∧ shelf'.holds rest first.cursorId w')
      ((a.call server).runRead mode preference (some x)) w := by
  obtain ⟨hasks, hinner⟩ := asks_of_wrapCommand hsent
  refine Program.ensures_bind.2 (Program.ensures_log.2 (Program.ensures_bind.2 ?_))
  rw [Program.ensures_ofOutcome, hx]
  have hwrapped : wrapCommand (a.call server).command preference server = .ok sent := hsent
  rw [hwrapped]
  refine Program.ensures_bind.2 ⟨trivial, ?_⟩
  rintro o w' ⟨ho, rfl⟩
  obtain ⟨first, shelf', rest, hfirst, hready⟩ :=
    h.answered preference (h.stays .debug _ hw) hx hasks hinner hf
  rcases o with e | reply
  · cases (congrArg (a.answered server) ho).trans hfirst
  · exact ⟨first, shelf', rest, (congrArg (a.answered server) ho).trans hfirst, hready⟩

/-! ## Making the cursor -/

/-- A cursor has all results to hand out. -/
structure Stocked (i : Interpreter ω) (f : Value → Value) (results : List Value) (shelf : Shelf ω)
    (c : Cursor) (w : ω) : Prop where
  supplies : Supplies c.setup i shelf
  limit : c.limit = 0
  connection : c.connection = none
  due : Due c.setup shelf f (results.map f) (c, w)

namespace Stocked
variable {c : Cursor}

/-- What is due from a cursor is due from any that is set up alike. -/
theorem of_due {c₀ : Cursor} (hsupplies : Supplies c₀.setup i shelf) (hlimit : c₀.limit = 0)
    (hconnection : c₀.connection = none) (h : Due c₀.setup shelf f (results.map f) (c, w)) :
    Stocked i f results shelf c w where
  supplies := h.setup ▸ hsupplies
  limit := (congrArg Setup.limit h.setup).trans hlimit
  connection := (congrArg Setup.connection h.setup).trans hconnection
  due := h.setup ▸ h

/-- The connection is given back. -/
theorem giveBack (h : Stocked i f results shelf c w) (x : Connection) :
    Stocked i f results shelf c (i.take (.releaseConnection x) w) := by
  obtain ⟨more, howes, hwanted⟩ := h.due.owed
  refine { h with due := { h.due with owed := ⟨more, ?_, hwanted⟩ } }
  exact howes.moved rfl rfl rfl (h.supplies.giveBack h.connection)

/-- Without a source, nothing depends on the world any more. -/
theorem anywhere (h : Stocked i f results shelf c w) (hsource : c.source = none) (w' : ω) :
    Stocked i f results shelf c w' := by
  obtain ⟨more, howes, hwanted⟩ := h.due.owed
  refine { h with due := { h.due with owed := ⟨more, ?_, hwanted⟩ } }
  cases howes with
  | spent hs => exact .spent hs
  | alive _ hsome =>
    have hsome : c.source.isSome := hsome
    simp [hsource] at hsome

end Stocked

/-- The plan of the cursor over the results. -/
def plan (a : Aggregation) (source : Source) (first : QueryResult) : Plan :=
  { first := first
    batchSize := a.batchSize.getD 0
    decode := a.decode
    source := if first.cursor.isSome then some ⟨.owned, source⟩ else none
    overrides := a.overrides }

theorem exists_ofPlan (mode : Mode) {settings : Settings}
    (hsettings : Settings.default.overriddenBy a.overrides = .ok settings) (source : Source)
    (first : QueryResult) : ∃ c, ofPlan mode (a.plan source first) = .ok c := by
  unfold ofPlan plan
  rcases first.cursor with _ | target <;> simp [hsettings, bind, Except.bind, pure, Except.pure]

/-- The cursor that is made from the first batch has all results to hand out. -/
theorem ensures_create {first : QueryResult} {rest : List Value}
    (h : Ready i f results shelf rest first) (hkept : shelf.holds rest first.cursorId w)
    (hf : ∀ d ∈ results, a.decode d = .ok (f d)) (hsize : ∀ n, a.batchSize = some n → 0 ≤ n)
    {settings : Settings} (hsettings : Settings.default.overriddenBy a.overrides = .ok settings)
    (source : Source) :
    Ensures i.environment cell (fun o w' => ∃ c, o = .ok c ∧ (first.cursor = none → c.source = none)
        ∧ Stocked i f results shelf c w')
      (Cursor.create mode (a.plan source first) true) w := by
  obtain ⟨c, hc⟩ := exists_ofPlan mode hsettings source first
  obtain ⟨settings, hfields⟩ := Cursor.exists_of_ofPlan hc
  obtain ⟨batch, hfirst, rfl⟩ := h.results
  have hsource : (a.plan source first).source.isSome ↔ first.cursorId ≠ 0 := by
    rw [ne_eq, ← QueryResult.cursor_eq_none]
    rcases hcursor : first.cursor with _ | target <;> simp [plan, hcursor]
  have hcount : 0 ≤ a.batchSize.getD 0 := by
    rcases hn : a.batchSize with _ | n
    · exact Int.le_refl 0
    · exact hsize n hn
  have hsupplies : Supplies c.setup i shelf := by
    rw [hfields]
    exact h.supplies _ rfl rfl rfl hsource.1
  have hstart : Runs i (fun o w' => o = .ok () ∧
      Due c.setup shelf f ((batch ++ rest).map f) w') (Cursor.start first true) (c, w) := by
    rw [List.map_append, ← hfirst]
    rw [hfields] at hsupplies ⊢
    exact Cursor.runs_start hsupplies (Int.le_refl 0) rfl hcount rfl hsource.2 h.last hkept
      (fun d hd => hf d (List.mem_append_right batch hd)) true
  refine Program.ensures_bind.2 (Program.ensures_ofValid.2 ?_)
  rw [hc]
  refine Program.ensures_bind.2 (Program.ensures_within.2 (Program.ensures_mono ?_ hstart))
  rintro _ ⟨c', w'⟩ ⟨rfl, hdue⟩
  have hsource' : c'.source = (a.plan source first).source :=
    (congrArg Setup.source hdue.setup).trans (hfields ▸ rfl)
  refine ⟨c', rfl, fun hnone => ?_, .of_due hsupplies (hfields ▸ rfl) (hfields ▸ rfl) hdue⟩
  rw [hsource', plan, hnone]
  rfl

/-! ## Running the aggregation -/

/-- What an aggregation is run with is admissible. -/
structure Admissible (a : Aggregation) (server : Server) (preference : ReadPreference) : Prop where
  concern : a.checkReadConcern server = .ok ()
  preference : ∃ sent, wrapCommand (a.command server) preference server = .ok sent
  settings : ∃ settings, Settings.default.overriddenBy a.overrides = .ok settings
  size : ∀ n, a.batchSize = some n → 0 ≤ n

/-- Over a connection, a cursor is made that has all results to hand out. -/
theorem stocked_executeOver (h : Evaluates a server ns i stands shelf results)
    (ha : a.Admissible server preference) (hf : ∀ d ∈ results, a.decode d = .ok (f d))
    (hw : stands w) (source : Source) {x : Connection} (hx : x.server = server) :
    Ensures i.environment cell (fun o w' => ∃ c handedOver shelf', o = .ok (c, handedOver) ∧
        (handedOver = false → c.source = none) ∧ Stocked i f results shelf' c w')
      (a.executeOver mode preference source x) w := by
  obtain ⟨sent, hsent⟩ := ha.preference
  obtain ⟨settings, hsettings⟩ := ha.settings
  refine Program.ensures_bind.2 (Program.ensures_ofOutcome.2 ?_)
  rw [hx, ha.concern]
  refine Program.ensures_bind.2 (Program.ensures_log.2 (Program.ensures_bind.2 ?_))
  refine Program.ensures_mono ?_ (ensures_call h (h.stays _ _ hw) hx hsent hf)
  rintro _ w₁ ⟨first, shelf', rest, rfl, hready, hkept⟩
  refine Program.ensures_bind.2 (Program.ensures_mono ?_
    (ensures_create hready hkept hf ha.size hsettings source))
  rintro _ w₂ ⟨c, rfl, hsource, hstocked⟩
  exact ⟨c, first.cursor.isSome, shelf', rfl, fun hnone => hsource (by simpa using hnone), hstocked⟩

/-- **Whatever the shape of the reply, the cursor has all results to hand out.** -/
theorem stocked_execute (h : Evaluates a server ns i stands shelf results)
    (ha : a.Admissible server preference) (hf : ∀ d ∈ results, a.decode d = .ok (f d))
    (hw : stands w) :
    Ensures i.environment cell
      (fun o w' => ∃ c shelf', o = .ok c ∧ Stocked i f results shelf' c w')
      (a.execute mode preference) w := by
  obtain ⟨source, hsource, hw₁⟩ := h.source hw
  obtain ⟨x, hanswer, hx, hw₂⟩ := h.connects source hw₁
  refine Program.ensures_bind.2 ⟨trivial, ?_⟩
  rintro _ _ ⟨rfl, rfl⟩
  rw [hsource]
  refine Program.ensures_bind.2 (Program.ensures_attempt.2 (Program.ensures_bind.2 ⟨trivial, ?_⟩))
  rintro _ _ ⟨rfl, rfl⟩
  rw [hanswer]
  refine Program.ensures_always.2 (Program.ensures_mono ?_
    (stocked_executeOver h ha hf hw₂ source hx))
  rintro _ w₃ ⟨c, handedOver, shelf', rfl, hnone, hstocked⟩
  have hgiven := hstocked.giveBack x
  rcases handedOver with _ | _
  · exact ⟨c, shelf', rfl, hgiven.anywhere (hnone rfl) _⟩
  · exact ⟨c, shelf', rfl, hgiven⟩

/-- **All result shapes bring the same documents.**  A world has certain results for an
    aggregation: asked for a cursor it sends a first batch and then the rest by command or by
    message, in batches of any size; not asked for one, it sends all of them in the reply.  Going
    over the cursor of the aggregation to its end brings all results, each decoded once. -/
theorem collected_of_evaluates (h : Evaluates a server ns i stands shelf results)
    (ha : a.Admissible server preference) (hf : ∀ d ∈ results, a.decode d = .ok (f d))
    (hw : stands w) (cell : Cell ω σ) (mode : Mode) {rounds : Nat} (hrounds : 2 ≤ rounds)
    {turns : List (List Int)} (hturns : ∀ sizes ∈ turns, ∀ n ∈ sizes, 0 ≤ n)
    (hmany : results.length < turns.length) :
    ∃ batches, (interpret i cell (a.collect mode preference rounds turns) w).1
        = .ok (batches, .ended) ∧ batches.flatten = results.map f := by
  obtain ⟨rounds, rfl⟩ := Nat.exists_eq_add_of_le' hrounds
  have hall : Ensures i.environment cell (fun o _ => ∃ batches, o = .ok (batches, .ended) ∧
      batches.flatten = results.map f) (a.collect mode preference (rounds + 2) turns) w := by
    refine Program.ensures_bind.2 (Program.ensures_mono ?_ (stocked_execute h ha hf hw))
    rintro _ w₁ ⟨c, shelf', rfl, hstocked⟩
    refine Program.ensures_bind.2 (Program.ensures_within.2 (Program.ensures_mono ?_
      (Cursor.runs_iterate hstocked.supplies (Int.le_of_eq hstocked.limit.symm) rounds hturns
        hstocked.due (by rwa [List.length_map]))))
    rintro _ w₂ ⟨batches, rfl, hbatches⟩
    exact ⟨batches, rfl, hbatches⟩
  exact Program.ensures_interpreter.1 hall

end

/-! ## A small library -/

/-- An aggregation of the titles of books. -/
def sampleTitles (useCursor : Option Bool) : Aggregation where
  ns := (Cursor.Plan.sample 0).first.ns
  pipeline := []
  decode := Decoder.ofField "title"
  batchSize := some 1
  useCursor := useCursor

/-- The reply to an aggregation, in the shape it is asked for. -/
def shaped (command : Document) (stock : Cursor.Stock) : Document :=
  if Document.has cursorField (unwrapped command) then
    [("ok", .int 1), ("cursor", .doc [("id", .int (stock.after 0).id),
      ("ns", .text "library.books"),
      ("firstBatch", .list (stock.rest.take (Cursor.Stock.portion 0)))])]
  else [("ok", .int 1), ("result", .list stock.rest)]

/-- A server that speaks aggregations and fetches. -/
def library (server : Server) : Interpreter Cursor.Stock where
  take _ stock := stock
  answer
    | .source _, stock => (.ok ⟨0⟩, stock)
    | .lease _, stock => (.ok ⟨1, server⟩, stock)
    | .command x database command secondaryOk names decode, stock =>
      if Document.has "getMore" command then
        Cursor.Stock.server.answer (.command x database command secondaryOk names decode) stock
      else (decode (.doc (shaped command stock)), stock.after 0)
    | q, stock => Cursor.Stock.server.answer q stock

section
variable {server : Server} {command : Document} {stock : Cursor.Stock}

theorem library_pipeline (h : Document.lookup "getMore" command = none) (x : Connection)
    (database : String) (secondaryOk : Bool) (names : FieldRule) (decode : Decoder) :
    (library server).answer (.command x database command secondaryOk names decode) stock
      = (decode (.doc (shaped command stock)), stock.after 0) :=
  if_neg (by simp [Document.has, h])

theorem library_fetch {id : Value} (h : Document.lookup "getMore" command = some id)
    (x : Connection) (database : String) (secondaryOk : Bool) (names : FieldRule)
    (decode : Decoder) :
    (library server).answer (.command x database command secondaryOk names decode) stock
      = Cursor.Stock.server.answer (.command x database command secondaryOk names decode) stock :=
  if_pos (by simp [Document.has, h])

end

theorem evaluates_library (useCursor : Option Bool) (server : Server) (results : List Value) :
    Evaluates (sampleTitles useCursor) server (sampleTitles useCursor).ns (library server)
      (fun stock => stock = ⟨results, 7⟩) Cursor.Stock.shelf results where
  stays _ _ hw := hw
  source hw := ⟨_, rfl, hw⟩
  connects _ hw := ⟨_, rfl, rfl, hw⟩
  inline x command secondaryOk names decode w hw hx hasks hinline := by
    obtain rfl : w = _ := hw
    refine ⟨shaped command ⟨results, 7⟩, ?_, ?_⟩
    · rw [library_pipeline hasks.fetches]
    · unfold shaped
      rw [hinline]
      exact ⟨rfl, rfl⟩
  byCursor x command secondaryOk names decode w hw hx hasks hcursor := by
    obtain rfl : w = _ := hw
    have hsends := Cursor.Stock.sends ⟨results, 7⟩ (show (7 : Int) ≠ 0 by decide) (Int.le_refl 0)
    refine ⟨shaped command ⟨results, 7⟩, _, _, _, ?_, ?_, hsends.order, hsends.alive, ?_⟩
    · rw [library_pipeline hasks.fetches]
    · unfold shaped
      rw [hcursor]
      exact ⟨_, _, rfl, rfl, rfl, rfl, rfl⟩
    · rw [library_pipeline hasks.fetches]
      rfl
  fetches := by
    constructor
    · intro x command secondaryOk names decode rest id w hw hx hid hmore hcollection hcount
      obtain rfl : w = _ := hw
      rw [library_fetch hmore]
      exact ⟨_, _, _, rfl, ⟨_, _, _, rfl, rfl, rfl, rfl, rfl⟩, _,
        (Cursor.Stock.sends ⟨rest, id⟩ hid hcount).feeds hcount, rfl⟩
    · intro x count decode rest id w hw hx hid hcount
      obtain rfl : w = _ := hw
      exact ⟨_, _, _, rfl, _, (Cursor.Stock.sends ⟨rest, id⟩ hid hcount).feeds hcount, rfl⟩
  log _ _ hw := hw
  logOpens _ _ hx := hx
  lease _ hw := ⟨_, rfl, hw, trivial⟩
  giveBack hw := hw

/-- A book. -/
def book (title : String) : Value := .doc [("title", .text title)]

/-- The title of a book. -/
def titleOf : Value → Value
  | .doc fields => Document.get "title" fields
  | v => v

theorem decode_sampleTitles (useCursor : Option Bool) :
    ∀ d ∈ [book "a", book "b", book "c"], (sampleTitles useCursor).decode d = .ok (titleOf d) := by
  intro d hd
  simp only [List.mem_cons, List.not_mem_nil, or_false] at hd
  obtain rfl | rfl | rfl := hd <;> rfl

theorem admissible_sampleTitles (useCursor : Option Bool) :
    (sampleTitles useCursor).Admissible { address := {} } .primary where
  concern := rfl
  preference := ⟨_, rfl⟩
  settings := ⟨_, rfl⟩
  size n hn := by
    cases hn
    decide

/-- Collects the titles of three books. -/
def threeTitles (useCursor : Option Bool) : Outcome (List (List Value) × Cursor.Retrieval) :=
  (interpret (library { address := {} }) (Cell.none Cursor.Stock)
    ((sampleTitles useCursor).collect .async .primary 2 [[], [0], [2], []])
    ⟨[book "a", book "b", book "c"], 7⟩).1

/-- The titles come by cursor as they come inline. -/
theorem collected_library :
    (∃ batches, threeTitles none = .ok (batches, .ended) ∧
      batches.flatten = [.text "a", .text "b", .text "c"]) ∧
    ∃ batches, threeTitles (some false) = .ok (batches, .ended) ∧
      batches.flatten = [.text "a", .text "b", .text "c"] :=
  ⟨collected_of_evaluates (evaluates_library none _ _) (admissible_sampleTitles none)
      (decode_sampleTitles none) rfl (Cell.none _) .async (by decide) (by decide) (by decide),
    collected_of_evaluates (evaluates_library (some false) _ _)
      (admissible_sampleTitles (some false)) (decode_sampleTitles (some false)) rfl
      (Cell.none _) .async (by decide) (by decide) (by decide)⟩

end Aggregation

end DocumentClient
