/-
  A server that keeps documents for a cursor.

  `Sends` says which batch may answer a fetch, and `Serves` what a world does for a cursor as
  long as the server keeps documents for it: leases succeed, fetches by command or by message
  bring batches, and nothing else moves the documents.  `upTo` is the part of them that a
  cursor with a limit wants.

  A cursor needs less of a batch than that it is as long as it was asked to be: `Provides` is what
  it goes on with, and `Supplies` what of a world it depends on.  `Provides.upTo_eq` splits the
  documents that are wanted at a batch.
-/
import DocumentClient.Proofs.Cursor.Rules

namespace DocumentClient

/-! ## The limit -/

/-- The documents up to the limit, where some were delivered before. -/
def upTo (limit delivered : Int) (documents : List Value) : List Value :=
  if limit = 0 then documents else documents.take (limit - delivered).toNat

@[simp] theorem upTo_nil (limit delivered : Int) : upTo limit delivered [] = [] := by
  unfold upTo
  split <;> simp

theorem isFinalBatch_of_nonneg {limit batchSize : Int} (hlimit : 0 ≤ limit)
    (hsize : 0 ≤ batchSize) : isFinalBatch limit batchSize = false := by
  simp only [isFinalBatch, Bool.or_eq_false_iff, decide_eq_false_iff_not]
  omega

theorem upTo_of_limitReached {limit delivered : Int} (hlimit : 0 ≤ limit)
    (h : limitReached limit delivered = true) (documents : List Value) :
    upTo limit delivered documents = [] := by
  simp only [limitReached, Bool.and_eq_true, bne_iff_ne, ne_eq, Int.natAbs_eq_zero,
    decide_eq_true_eq] at h
  have : (limit - delivered).toNat = 0 := by omega
  rw [upTo, if_neg h.1, this, List.take_zero]

theorem length_upTo_le (limit delivered : Int) (documents : List Value) :
    (upTo limit delivered documents).length ≤ documents.length := by
  unfold upTo
  split
  · exact Nat.le_refl _
  · exact List.length_take_le' _ _

/-- A batch within the limit is wanted as a whole. -/
theorem upTo_append {limit delivered : Int} {batch : List Value}
    (h : 0 < limit → delivered + batch.length ≤ limit) (hlimit : 0 ≤ limit)
    (documents : List Value) : upTo limit delivered (batch ++ documents) =
      batch ++ upTo limit (delivered + batch.length) documents := by
  unfold upTo
  split
  · rfl
  · rename_i hl
    have hbound := h (by omega)
    have hleft : (limit - delivered).toNat - batch.length =
        (limit - (delivered + batch.length)).toNat := by omega
    rw [List.take_append, List.take_of_length_le (by omega), hleft]

/-- What a fetch asks for is no more than what is wanted. -/
theorem numberToReturn_bounds {limit batchSize delivered : Int} (hlimit : 0 ≤ limit)
    (hsize : 0 ≤ batchSize) (hopen : limitReached limit delivered = false) :
    0 ≤ numberToReturn limit batchSize delivered ∧ (0 < limit →
      0 < numberToReturn limit batchSize delivered ∧
        numberToReturn limit batchSize delivered ≤ limit - delivered) := by
  have hleft : limit ≠ 0 → delivered < limit := by
    intro hl
    simp only [limitReached, Bool.and_eq_false_iff, bne_eq_false_iff_eq, Int.natAbs_eq_zero,
      decide_eq_false_iff_not] at hopen
    omega
  unfold numberToReturn
  split
  · dsimp only
    split <;> omega
  · omega

/-! ## Batches -/

/-- Which batch may answer a fetch for `count` documents, where `rest` was not sent yet, and which
    id the server may report with it; `left` stays behind. -/
structure Sends (count : Int) (rest batch : List Value) (id : Int) (left : List Value) : Prop where
  order : rest = batch ++ left
  asked : 0 < count → (batch.length : Int) = min count rest.length
  /-- Where the size is up to the server, it sends something. -/
  chosen : count = 0 → rest ≠ [] → batch ≠ []
  /-- The cursor goes with the last documents at the earliest, … -/
  alive : id = 0 → left = []
  /-- … and with the empty batch after them at the latest. -/
  gone : rest = [] → id = 0

section
variable {count : Int} {rest batch left : List Value} {id : Int}

/-- As long as there is something to send, something is sent. -/
theorem Sends.filled (h : Sends count rest batch id left) (hcount : 0 ≤ count) (hrest : rest ≠ []) :
    batch ≠ [] := by
  rcases Int.lt_or_eq_of_le hcount with hpos | hzero
  · rintro rfl
    have hlength := h.asked hpos
    have := List.length_pos_iff.2 hrest
    simp only [List.length_nil] at hlength
    omega
  · exact h.chosen hzero.symm hrest

theorem Sends.gone_of_nil (h : Sends count rest batch id left) (hcount : 0 ≤ count)
    (hbatch : batch = []) : id = 0 :=
  h.gone (Classical.byContradiction fun hrest => h.filled hcount hrest hbatch)

end

/-- A batch that a cursor goes on with, where some documents were delivered before; `left` stays
    behind. -/
structure Provides (limit delivered : Int) (rest batch : List Value) (id : Int)
    (left : List Value) : Prop where
  order : rest = batch ++ left
  filled : batch = [] → id = 0
  alive : id = 0 → left = []
  within : 0 < limit → delivered + batch.length ≤ limit

/-- The documents that are wanted, split at the batch that is brought. -/
theorem Provides.upTo_eq {limit delivered id : Int} {rest batch left : List Value}
    (h : Provides limit delivered rest batch id left) (hlimit : 0 ≤ limit) :
    upTo limit delivered rest = batch ++ upTo limit (delivered + batch.length) left := by
  rw [h.order]
  exact upTo_append h.within hlimit left

theorem Sends.provides {limit batchSize delivered id : Int} {rest batch left : List Value}
    (hlimit : 0 ≤ limit) (hsize : 0 ≤ batchSize) (hopen : limitReached limit delivered = false)
    (h : Sends (numberToReturn limit batchSize delivered) rest batch id left) :
    Provides limit delivered rest batch id left := by
  obtain ⟨hcount, hbounds⟩ := numberToReturn_bounds hlimit hsize hopen
  refine ⟨h.order, h.gone_of_nil hcount, h.alive, fun hpos => ?_⟩
  obtain ⟨hasked, hbound⟩ := hbounds hpos
  have := h.asked hasked
  omega

theorem QueryResult.cursor_eq_none {result : QueryResult} :
    result.cursor = none ↔ result.cursorId = 0 := by
  unfold QueryResult.cursor
  split <;> simp_all

theorem QueryResult.id_of_cursor {result : QueryResult} {target : ServerCursor}
    (h : result.cursor = some target) : target.id = result.cursorId := by
  unfold QueryResult.cursor at h
  split at h
  · simp at h
  · cases h
    rfl

/-! ## Replies -/

/-- A reply to a fetch command that carries a batch. -/
def Carries (reply : Document) (batch : List Value) (id : Int) : Prop :=
  ∃ cursor name ns, Document.get cursorField reply = .doc cursor ∧
    Document.lookup "id" cursor = some (.int id) ∧
    Document.lookup "ns" cursor = some (.text name) ∧ Namespace.parse name = .ok ns ∧
    Document.lookup nextBatchField cursor = some (.list batch)

theorem mapM_of_decodes {decode : Decoder} {f : Value → Value} :
    ∀ {batch : List Value}, (∀ d ∈ batch, decode d = .ok (f d)) →
      batch.mapM decode = Except.ok (batch.map f) := by
  intro batch
  induction batch with
  | nil => exact fun _ => rfl
  | cons d ds ih =>
    intro h
    rw [List.mapM_cons, h d (by simp), ih fun d hd => h d (by simp [hd])]
    rfl

theorem decodeBatch_list {decode : Decoder} {f : Value → Value} {batch : List Value}
    (hf : ∀ d ∈ batch, decode d = .ok (f d)) :
    Decoder.decodeBatch decode (.list batch) = .ok (.list (batch.map f)) := by
  have hbind : Decoder.decodeBatch decode (.list batch)
      = (batch.mapM decode).bind fun decoded => .ok (.list decoded) := by
    cases batch <;> rfl
  rw [hbind, mapM_of_decodes hf]
  rfl

/-- The query result of a reply whose batch stands under a field. -/
def readUnder (batchField : String) (address : Address) (reply : Value) : Outcome QueryResult := do
  let document ← reply.fieldOrNull cursorField
  QueryResult.ofCursorDocument document address batchField

/-- A reply that carries a batch under a field of its cursor document. -/
def CarriesUnder (batchField : String) (reply : Document) (ns : Namespace) (batch : List Value)
    (id : Int) : Prop :=
  ∃ cursor name, Document.get cursorField reply = .doc cursor ∧
    Document.lookup "id" cursor = some (.int id) ∧
    Document.lookup "ns" cursor = some (.text name) ∧ Namespace.parse name = .ok ns ∧
    Document.lookup batchField cursor = some (.list batch)

theorem readCursorDocument_of_lookup {cursor : Document} {batchField name : String} {id : Int}
    {ns : Namespace} {results : List Value} (hid : Document.lookup "id" cursor = some (.int id))
    (hname : Document.lookup "ns" cursor = some (.text name)) (hns : Namespace.parse name = .ok ns)
    (hresults : Document.lookup batchField cursor = some (.list results)) (address : Address) :
    QueryResult.readCursorDocument (.doc cursor) address batchField =
      .ok ⟨ns, results, id, address⟩ := by
  simp only [QueryResult.readCursorDocument, Value.field, hid, hname, hresults]
  simp [Value.namespaceOf, hns, Outcome.ofValid, Value.wholeNumber, Value.items, Value.parts?,
    bind, Except.bind, pure, Except.pure]

/-- The batch of a reply, decoded and read: the field it is decoded under is the one it is read
    from. -/
theorem CarriesUnder.read {batchField : String} {reply : Document} {ns : Namespace}
    {batch : List Value} {id : Int} (h : CarriesUnder batchField reply ns batch id)
    (hid : batchField ≠ "id") (hns : batchField ≠ "ns") {decode : Decoder} {f : Value → Value}
    (hf : ∀ d ∈ batch, decode d = .ok (f d)) (address : Address) :
    (Decoder.ofResults decode batchField (.doc reply)).bind (readUnder batchField address)
      = .ok ⟨ns, batch.map f, id, address⟩ := by
  obtain ⟨cursor, name, hcursor, hcursorId, hname, hparse, hbatch⟩ := h
  let decoded := Document.put batchField (.list (batch.map f)) cursor
  have hlookup : ∀ other, batchField ≠ other →
      Document.lookup other decoded = Document.lookup other cursor := by
    intro other hother
    rw [Document.lookup_put, if_neg hother]
  have hread : QueryResult.readCursorDocument (.doc decoded) address batchField
      = .ok ⟨ns, batch.map f, id, address⟩ :=
    readCursorDocument_of_lookup ((hlookup "id" hid).trans hcursorId)
      ((hlookup "ns" hns).trans hname) hparse (by rw [Document.lookup_put, if_pos rfl]) address
  have hreply : Decoder.ofResults decode batchField (.doc reply)
      = .ok (.doc (Document.put cursorField (.doc decoded) reply)) := by
    simp only [Decoder.ofResults, hcursor, hbatch, decodeBatch_list hf]
    rfl
  rw [hreply]
  simp only [Except.bind, readUnder, Value.fieldOrNull, Document.get, Document.lookup_put, if_pos,
    Option.getD_some]
  change QueryResult.ofCursorDocument (.doc decoded) address batchField = _
  rw [QueryResult.ofCursorDocument, hread]

/-- The batch of a reply to a fetch, decoded and read. -/
theorem Carries.read {reply : Document} {batch : List Value} {id : Int} (h : Carries reply batch id)
    {decode : Decoder} {f : Value → Value} (hf : ∀ d ∈ batch, decode d = .ok (f d))
    (address : Address) :
    ∃ ns, (Decoder.ofResults decode nextBatchField (.doc reply)).bind
      (QueryResult.ofGetMoreReply · address) = .ok ⟨ns, batch.map f, id, address⟩ := by
  obtain ⟨cursor, name, ns, hcursor, hid, hname, hns, hbatch⟩ := h
  have hunder : CarriesUnder nextBatchField reply ns batch id :=
    ⟨cursor, name, hcursor, hid, hname, hns, hbatch⟩
  exact ⟨ns, hunder.read (by decide) (by decide) hf address⟩

/-! ## Worlds that serve a cursor -/

/-- How many documents a fetch command asks for; zero leaves it to the server. -/
def askedFor (command : Document) : Int :=
  match Document.lookup "batchSize" command with
  | some (.int n) => n
  | _ => 0

theorem askedFor_getMoreCommand (ns : Namespace) (id : Int) (count : Nat) (maxTimeMs : Int) :
    askedFor (getMoreCommand ns id count maxTimeMs) = count := by
  unfold askedFor getMoreCommand
  by_cases hcount : count = 0 <;> by_cases htime : maxTimeMs = 0 <;>
    simp [hcount, htime, Document.lookup]

/-- How a world keeps documents for a cursor. -/
structure Shelf (ω : Type) where
  /-- These documents were not sent yet, the cursor has this id, and its source can be used. -/
  holds : List Value → Int → ω → Prop
  /-- A connection can be used. -/
  opens : Connection → ω → Prop

/-- After a fetch: a batch was sent and the rest is still there. -/
def Shelf.Sent {ω : Type} (shelf : Shelf ω) (count : Int) (rest batch : List Value) (id : Int)
    (connection : Connection) (w : ω) : Prop :=
  ∃ left, Sends count rest batch id left ∧ shelf.holds left id w ∧ shelf.opens connection w

namespace Cursor

open Program (Ensures Interpreter)

/-- What a world does for the cursors of a setup, as long as it keeps documents for them. -/
structure Serves {ω : Type} (s : Setup) (i : Interpreter ω) (shelf : Shelf ω) : Prop where
  log : ∀ {rest id w} level message, shelf.holds rest id w →
    shelf.holds rest id (i.take (.log level message) w)
  logOpens : ∀ {x w} level message, shelf.opens x w →
    shelf.opens x (i.take (.log level message) w)
  /-- A connection of its own is open for the cursor. -/
  given : ∀ {h rest id w}, s.connection = some h → shelf.holds rest id w →
    shelf.opens h.resource w
  lease : ∀ {h rest id w}, s.connection = none → s.source = some h → shelf.holds rest id w →
    ∃ x, (i.answer (.lease h.resource) w).1 = .ok x ∧
      shelf.holds rest id (i.answer (.lease h.resource) w).2 ∧
      shelf.opens x (i.answer (.lease h.resource) w).2
  /-- A leased connection may be given back. -/
  giveBack : ∀ {x rest id w}, s.connection = none → shelf.holds rest id w →
    shelf.holds rest id (i.take (.releaseConnection x) w)
  command : ∀ x command secondaryOk names decode {rest id w},
    shelf.holds rest id w → shelf.opens x w → id ≠ 0 →
    Document.lookup "getMore" command = some (.int id) →
    Document.lookup "collection" command = some (.text s.ns.collection) → 0 ≤ askedFor command →
    ∃ reply batch id', (i.answer (.command x s.ns.database command secondaryOk names decode) w).1
        = decode (.doc reply) ∧ Carries reply batch id' ∧
      shelf.Sent (askedFor command) rest batch id' x
        (i.answer (.command x s.ns.database command secondaryOk names decode) w).2
  getMore : ∀ x count decode {rest id w},
    shelf.holds rest id w → shelf.opens x w → id ≠ 0 → 0 ≤ count →
    ∃ batch id' address, (i.answer (.getMore x s.ns id count decode) w).1
        = (batch.mapM decode).map (fun results => ⟨s.ns, results, id', address⟩) ∧
      shelf.Sent count rest batch id' x (i.answer (.getMore x s.ns id count decode) w).2
  /-- Kills may fail. -/
  kill : ∀ {x ids w e}, (i.answer (.killCursors x s.ns ids) w).1 = .error e → e.isOrdinary

/-- How a world answers the fetches of a namespace: `sends` says which batch may answer a fetch for
    so many documents. -/
structure Fetches {ω : Type} (sends : Int → List Value → List Value → Int → List Value → Prop)
    (ns : Namespace) (i : Interpreter ω) (shelf : Shelf ω) : Prop where
  command : ∀ x command secondaryOk names decode {rest id w},
    shelf.holds rest id w → shelf.opens x w → id ≠ 0 →
    Document.lookup "getMore" command = some (.int id) →
    Document.lookup "collection" command = some (.text ns.collection) → 0 ≤ askedFor command →
    ∃ reply batch id', (i.answer (.command x ns.database command secondaryOk names decode) w).1
        = decode (.doc reply) ∧ Carries reply batch id' ∧ ∃ left,
      sends (askedFor command) rest batch id' left ∧ shelf.holds left id'
        (i.answer (.command x ns.database command secondaryOk names decode) w).2
  getMore : ∀ x count decode {rest id w},
    shelf.holds rest id w → shelf.opens x w → id ≠ 0 → 0 ≤ count →
    ∃ batch id' address, (i.answer (.getMore x ns id count decode) w).1
        = (batch.mapM decode).map (fun results => ⟨ns, results, id', address⟩) ∧ ∃ left,
      sends count rest batch id' left ∧
        shelf.holds left id' (i.answer (.getMore x ns id count decode) w).2

/-- What of a world the cursors of a setup depend on while it keeps documents for them. -/
structure Supplies {ω : Type} (s : Setup) (i : Interpreter ω) (shelf : Shelf ω) : Prop where
  log : ∀ {rest id w} level message, shelf.holds rest id w →
    shelf.holds rest id (i.take (.log level message) w)
  logOpens : ∀ {x w} level message, shelf.opens x w →
    shelf.opens x (i.take (.log level message) w)
  given : ∀ {h rest id w}, s.connection = some h → shelf.holds rest id w →
    shelf.opens h.resource w
  lease : ∀ {h rest id w}, s.connection = none → s.source = some h → shelf.holds rest id w →
    ∃ x, (i.answer (.lease h.resource) w).1 = .ok x ∧
      shelf.holds rest id (i.answer (.lease h.resource) w).2 ∧
      shelf.opens x (i.answer (.lease h.resource) w).2
  giveBack : ∀ {x rest id w}, s.connection = none → shelf.holds rest id w →
    shelf.holds rest id (i.take (.releaseConnection x) w)
  fetched : ∀ {c : Cursor} {x target rest w} {f : Value → Value}, c.setup = s →
    shelf.holds rest target.id w → shelf.opens x w → 0 ≤ c.batchSize →
    limitReached c.limit c.progress.delivered = false → (∀ d ∈ rest, c.decode d = .ok (f d)) →
    ∃ result batch left, Cursor.fetched target (fetchExchange c x target)
        (i.answer (fetchExchange c x target) w).1 = .ok result ∧ result.results = batch.map f ∧
      Provides c.limit c.progress.delivered rest batch result.cursorId left ∧
      shelf.holds left result.cursorId (i.answer (fetchExchange c x target) w).2
  /-- Kills may fail; without a limit there are none. -/
  kill : s.limit ≠ 0 → ∀ {x ids w e},
    (i.answer (.killCursors x s.ns ids) w).1 = .error e → e.isOrdinary

section
variable {ω : Type} {i : Interpreter ω} {shelf : Shelf ω}

theorem fetched_of_command {target : ServerCursor} {x : Connection} {database : String}
    {command : Document} {secondaryOk : Bool} {names : FieldRule} {decode : Decoder}
    {answer o : Outcome Value} {result : QueryResult} (hanswer : answer = o)
    (ho : o.bind (QueryResult.ofGetMoreReply · x.server.address) = .ok result) :
    Cursor.fetched target (.command x database command secondaryOk names decode) answer
      = .ok result := by
  subst hanswer
  rw [fetched_command]
  rcases answer with e | reply
  · simp [Except.bind] at ho
  · exact ho

/-- A fetch brings a batch, by command or by message. -/
theorem Fetches.fetched {sends : Int → List Value → List Value → Int → List Value → Prop}
    {c : Cursor} (hi : Fetches sends c.ns i shelf)
    (horder : ∀ {count rest batch id left}, sends count rest batch id left → rest = batch ++ left)
    {x : Connection} {target : ServerCursor} {rest : List Value} {w : ω}
    (hw : shelf.holds rest target.id w) (hx : shelf.opens x w) (hcount : 0 ≤ c.numberToReturn)
    {f : Value → Value} (hf : ∀ d ∈ rest, c.decode d = .ok (f d)) :
    ∃ result batch left, Cursor.fetched target (fetchExchange c x target)
        (i.answer (fetchExchange c x target) w).1 = .ok result ∧ result.results = batch.map f ∧
      sends c.numberToReturn rest batch result.cursorId left ∧
      shelf.holds left result.cursorId (i.answer (fetchExchange c x target) w).2 := by
  have hmem : ∀ {count batch id left}, sends count rest batch id left →
      ∀ d ∈ batch, c.decode d = .ok (f d) := by
    intro count batch id left hsends d hd
    refine hf d ?_
    rw [horder hsends]
    exact List.mem_append_left left hd
  have hcommand : askedFor (c.getMoreCommand target) = c.numberToReturn := by
    rw [Cursor.getMoreCommand, askedFor_getMoreCommand, requestedCount]
    exact Int.natAbs_of_nonneg hcount
  generalize hq : fetchExchange c x target = q
  unfold fetchExchange at hq
  split at hq
  · obtain rfl := hq
    obtain ⟨reply, batch, id, hanswer, hcarries, left, hsends, hleft⟩ :=
      hi.command x (c.getMoreCommand target) false .any (Decoder.ofResults c.decode nextBatchField)
        hw hx target.id_ne_zero rfl rfl (hcommand ▸ hcount)
    rw [hcommand] at hsends
    obtain ⟨ns, hread⟩ := hcarries.read (hmem hsends) x.server.address
    refine ⟨⟨ns, batch.map f, id, x.server.address⟩, batch, left, ?_, rfl, hsends, hleft⟩
    exact fetched_of_command hanswer hread
  · obtain rfl := hq
    obtain ⟨batch, id, address, hanswer, left, hsends, hleft⟩ :=
      hi.getMore x _ c.decode hw hx target.id_ne_zero hcount
    refine ⟨⟨c.ns, batch.map f, id, address⟩, batch, left, ?_, rfl, hsends, hleft⟩
    rw [mapM_of_decodes (hmem hsends)] at hanswer
    exact hanswer

/-- What serves a cursor supplies it. -/
theorem Serves.supplies {s : Setup} (hi : Serves s i shelf) (hlimit : 0 ≤ s.limit) :
    Supplies s i shelf where
  log := hi.log
  logOpens := hi.logOpens
  given := hi.given
  lease := hi.lease
  giveBack := hi.giveBack
  fetched := by
    rintro c x target rest w f rfl hw hx hsize hopen hf
    have hfetches : Fetches Sends c.ns i shelf := by
      refine ⟨fun x command secondaryOk names decode rest id w hw hx hid hmore hcoll hasked => ?_,
        fun x count decode rest id w hw hx hid hcount => ?_⟩
      · obtain ⟨reply, batch, id', hanswer, hcarries, left, hsends, hleft, -⟩ :=
          hi.command x command secondaryOk names decode hw hx hid hmore hcoll hasked
        exact ⟨reply, batch, id', hanswer, hcarries, left, hsends, hleft⟩
      · obtain ⟨batch, id', address, hanswer, left, hsends, hleft, -⟩ :=
          hi.getMore x count decode hw hx hid hcount
        exact ⟨batch, id', address, hanswer, left, hsends, hleft⟩
    obtain ⟨result, batch, left, hfetched, hresults, hsends, hleft⟩ :=
      hfetches.fetched (fun h => h.order) hw hx (numberToReturn_bounds hlimit hsize hopen).1 hf
    exact ⟨result, batch, left, hfetched, hresults, hsends.provides hlimit hsize hopen, hleft⟩
  kill _ := hi.kill

end

end Cursor

end DocumentClient
