/-
  The documents that are decoded, and those that are read.

  A reply becomes a query result in two steps that do not know of each other.  The decoder of
  the reply finds a batch, in the cursor document or else in the reply itself, and decodes it;
  the conversion reads an array, in the cursor document or in the reply, as the command has
  asked for a cursor or not.  `Conversion` is either of the aggregation and the fetch.

  `faithful_iff`: a reply gives its documents decoded, each once, whatever the decoder, unless it
  is `Shadowed`: it was to come without a cursor, and yet has a cursor document in which the
  decoder finds a batch of that name.  Then the documents are read as they were sent.
-/
import DocumentClient.Proofs.Cursor.Life
import DocumentClient.Proofs.Reply.Legible
import Mathlib.Data.List.Forall2

namespace DocumentClient

/-! ## Decoding a list -/

/-- An outcome of decoding all of a list is that of each of its elements, in order. -/
theorem mapM_ok_iff {α β : Type} {f : α → Outcome β} {xs : List α} {ys : List β} :
    xs.mapM f = .ok ys ↔ List.Forall₂ (fun x y => f x = .ok y) xs ys := by
  induction xs generalizing ys with
  | nil => cases ys <;> simp [pure, Except.pure]
  | cons x xs ih =>
    rw [List.mapM_cons, List.forall₂_cons_left_iff]
    rcases hx : f x with e | y
    · simp [bind, Except.bind]
    rcases hxs : xs.mapM f with e | rest
    · simp [bind, Except.bind, ← ih, hxs]
    · simp [bind, Except.bind, pure, Except.pure, ← ih, hxs, eq_comm]

namespace Decoder

/-- Of a list the elements are decoded. -/
theorem decodeBatch_list (decode : Decoder) (raw : List Value) :
    decodeBatch decode (.list raw) = (raw.mapM decode).map .list := by
  rcases raw with _ | ⟨x, raw⟩
  · rfl
  have htruthy : (Value.list (x :: raw)).truthy = true := rfl
  unfold decodeBatch
  rw [if_pos htruthy]
  change ((x :: raw).mapM decode >>= fun decoded => pure (Value.list decoded)) = _
  rcases (x :: raw).mapM decode with e | decoded <;> rfl

end Decoder

/-! ## Reading the array -/

namespace QueryResult

/-- The id and the namespace of a cursor document. -/
def readIdentity (document : Value) : Outcome (Int × Namespace) := do
  let id ← document.field "id"
  let id ← id.wholeNumber
  let name ← document.field "ns"
  let ns ← name.namespaceOf
  return (id, ns)

variable {document : Value} {address : Address} {batchField : String} {result : QueryResult}

/-- Of a cursor document its identity is read, and then its batch. -/
theorem readCursorDocument_eq : readCursorDocument document address batchField = (do
    let identity ← readIdentity document
    let batch ← document.field batchField
    let results ← batch.items
    return ⟨identity.2, results, identity.1, address⟩) := by
  unfold readCursorDocument readIdentity
  rcases document.field "id" with e | id
  · rfl
  change (id.wholeNumber >>= _) = (id.wholeNumber >>= _) >>= _
  rcases id.wholeNumber with e | n
  · rfl
  change (document.field "ns" >>= _) = (document.field "ns" >>= _) >>= _
  rcases document.field "ns" with e | name
  · rfl
  change (name.namespaceOf >>= _) = (name.namespaceOf >>= _) >>= _
  rcases name.namespaceOf with e | ns <;> rfl

/-- The handler makes no query result. -/
theorem ofCursorDocument_ok_iff : ofCursorDocument document address batchField = .ok result ↔
    readCursorDocument document address batchField = .ok result := by
  rw [ofCursorDocument]
  rcases readCursorDocument document address batchField with e | r
  · cases e <;> simp
  · rfl

/-- A cursor document whose batch is a list comes to that list and its identity. -/
theorem ofCursorDocument_list {cursor : Document} {raw : List Value}
    (hbatch : Document.lookup batchField cursor = some (.list raw)) :
    ofCursorDocument (.doc cursor) address batchField = .ok result ↔
      ∃ identity, readIdentity (.doc cursor) = .ok identity ∧
        result = ⟨identity.2, raw, identity.1, address⟩ := by
  have hfield : (Value.doc cursor).field batchField = .ok (.list raw) := by
    simp [Value.field, hbatch]
  rw [ofCursorDocument_ok_iff, readCursorDocument_eq, hfield]
  rcases readIdentity (.doc cursor) with e | identity
  · simp [bind, Except.bind]
  · simp [bind, Except.bind, pure, Except.pure, Value.items, Value.parts?, eq_comm]

end QueryResult

/-! ## Places of the batch -/

section
variable {batchField : String} {reply cursor : Document} {batch : Value}

/-- Without a batch in the cursor document the decoder looks in the reply. -/
theorem places_of_none (h : ∀ cursor, Document.get cursorField reply = .doc cursor →
    Document.lookup batchField cursor = none) :
    batchOf batchField reply = Document.lookup batchField reply ∧
      ∀ batch, withBatch batchField batch reply = Document.put batchField batch reply := by
  unfold batchOf withBatch
  split
  · rename_i cursor hdoc
    simp [Document.has, h cursor hdoc]
  · exact ⟨rfl, fun _ => rfl⟩

/-- A batch in the cursor document is replaced there. -/
theorem withBatch_of_lookup (hdoc : Document.get cursorField reply = .doc cursor)
    (hlookup : Document.lookup batchField cursor = some batch) (decoded : Value) :
    withBatch batchField decoded reply
      = Document.put cursorField (.doc (Document.put batchField decoded cursor)) reply := by
  have hhas : Document.has batchField cursor = true := by simp [Document.has, hlookup]
  rw [withBatch, hdoc]
  exact if_pos hhas

end

/-! ## Conversions -/

/-- What becomes of the replies to a command that brings documents. -/
inductive Conversion where
  /-- An aggregation on a server: its results come by cursor, or all at once. -/
  | aggregation (a : Aggregation) (server : Server)
  /-- A fetch from the server at an address. -/
  | fetch (address : Address)

namespace Conversion

/-- The decoder of the reply, with a decoder of the documents. -/
def decode (d : Decoder) : Conversion → Decoder
  | aggregation a server => (({ a with decode := d } : Aggregation).call server).decode
  | fetch _ => d.ofResults nextBatchField

/-- The query result of a reply that is decoded. -/
def convert : Conversion → Value → Outcome QueryResult
  | aggregation a server => (a.call server).transform
  | fetch address => (QueryResult.ofGetMoreReply · address)

/-- What comes of a reply. -/
def outcome (v : Conversion) (d : Decoder) (reply : Document) : Outcome QueryResult :=
  v.decode d (.doc reply) >>= v.convert

/-- Whether the documents come by cursor. -/
def byCursor : Conversion → Bool
  | aggregation a server => a.usesCursor server
  | fetch _ => true

/-- The field of the batch. -/
def batchField : Conversion → String
  | aggregation a server => a.resultsField server
  | fetch _ => nextBatchField

/-- The address of the server. -/
def address : Conversion → Address
  | aggregation _ server => server.address
  | fetch address => address

/-- The array that is read, as it stands in the reply. -/
def array (v : Conversion) (reply : Document) : Option Value :=
  if v.byCursor then (Document.get cursorField reply).doc?.bind (Document.lookup v.batchField)
  else Document.lookup v.batchField reply

/-- **The documents of a reply come decoded.** If a query result comes of the reply, and the array
    that is read is a list in the reply, then the results are the elements of that list, each
    decoded once, and the id and the namespace are those of the reply as it was sent. -/
def Faithful (v : Conversion) (d : Decoder) (reply : Document) : Prop :=
  ∀ result raw, v.outcome d reply = .ok result → v.array reply = some (.list raw) →
    List.Forall₂ (fun x y => d x = .ok y) raw result.results ∧
      ∃ undecoded, v.convert (.doc reply) = .ok undecoded ∧
        result.cursorId = undecoded.cursorId ∧ result.ns = undecoded.ns

/-- A reply that was to come without a cursor, and has a cursor document with a batch: that is what
    the decoder finds, and it is not what is read. -/
structure Overlooked (v : Conversion) (reply : Document) (batch : Value) : Prop where
  inReply : v.byCursor = false
  found : ∃ cursor, Document.get cursorField reply = .doc cursor ∧
    Document.lookup v.batchField cursor = some batch

/-- Documents are read, while the decoder is busy with a batch that is overlooked. -/
structure Shadowed (v : Conversion) (reply : Document) : Prop where
  overlooked : ∃ batch, v.Overlooked reply batch ∧ batch.Listable
  read : ∃ x raw, v.array reply = some (.list (x :: raw))

variable {v : Conversion} {d : Decoder} {reply : Document} {raw : List Value}
  {result : QueryResult}

theorem decode_eq : v.decode d = d.ofResults v.batchField := by
  cases v <;> rfl

/-- The batch has a name of its own. -/
theorem isBatchField_batchField (v : Conversion) : IsBatchField v.batchField := by
  cases v with
  | fetch _ => exact isBatchField_next
  | aggregation a server =>
    change IsBatchField (if a.usesCursor server then firstBatchField else inlineResultField)
    split
    · exact isBatchField_first
    · exact ⟨by decide, by decide, by decide⟩

/-- What comes of a reply is that of the reply with its batch decoded. -/
theorem outcome_eq : v.outcome d reply =
    (batchOf v.batchField reply).elim (v.convert (.doc reply)) fun batch =>
      Decoder.decodeBatch d batch >>= fun decoded =>
        v.convert (.doc (withBatch v.batchField decoded reply)) := by
  rw [outcome, decode_eq, Decoder.ofResults_eq]
  rcases batchOf v.batchField reply with _ | batch
  · rfl
  · rw [Option.elim_some, Option.elim_some]
    rcases Decoder.decodeBatch d batch with e | decoded <;> rfl

/-! ## By cursor -/

section
variable (hcursor : v.byCursor = true)
include hcursor

theorem convert_of_byCursor (document : Document) : v.convert (.doc document) =
    QueryResult.ofCursorDocument (Document.get cursorField document) v.address v.batchField := by
  cases v with
  | fetch _ => rfl
  | aggregation a server =>
    have hfield : (aggregation a server).batchField = firstBatchField := if_pos hcursor
    rw [hfield]
    exact if_pos hcursor

/-- Where the array stands. -/
theorem exists_of_array (harray : v.array reply = some (.list raw)) :
    ∃ cursor, Document.get cursorField reply = .doc cursor ∧
      Document.lookup v.batchField cursor = some (.list raw) := by
  rw [array, if_pos hcursor] at harray
  obtain ⟨cursor, hdoc, hlookup⟩ := Option.bind_eq_some_iff.1 harray
  refine ⟨cursor, ?_, hlookup⟩
  generalize Document.get cursorField reply = value at hdoc
  cases value <;> cases hdoc
  rfl

/-- What is read is decoded. -/
theorem outcome_of_byCursor (harray : v.array reply = some (.list raw)) :
    v.outcome d reply = .ok result ↔ ∃ decoded undecoded, raw.mapM d = .ok decoded ∧
      v.convert (.doc reply) = .ok undecoded ∧ result = { undecoded with results := decoded } := by
  obtain ⟨cursor, hdoc, hlookup⟩ := exists_of_array hcursor harray
  have hbatch : batchOf v.batchField reply = some (.list raw) := by
    simp [batchOf, hdoc, hlookup]
  rw [outcome_eq, hbatch, Option.elim_some, Decoder.decodeBatch_list]
  rcases raw.mapM d with e | decoded
  · simp [Except.map, bind, Except.bind]
  -- the cursor document holds the decoded batch, and what else it held before
  have hafter : Document.get cursorField (withBatch v.batchField (.list decoded) reply)
      = .doc (Document.put v.batchField (.list decoded) cursor) := by
    rw [withBatch_of_lookup hdoc hlookup, Document.get, Document.lookup_put, if_pos rfl]
    rfl
  have hidentity : QueryResult.readIdentity
      (.doc (Document.put v.batchField (.list decoded) cursor))
        = QueryResult.readIdentity (.doc cursor) := by
    have hfield := v.isBatchField_batchField
    simp [QueryResult.readIdentity, Value.field, Document.lookup_put, hfield.id, hfield.ns]
  change v.convert (.doc (withBatch v.batchField (.list decoded) reply)) = .ok result ↔ _
  have hlist : Document.lookup v.batchField (Document.put v.batchField (.list decoded) cursor)
      = some (.list decoded) := by
    rw [Document.lookup_put, if_pos rfl]
  rw [convert_of_byCursor hcursor, hafter, QueryResult.ofCursorDocument_list hlist, hidentity]
  constructor
  · rintro ⟨identity, hread, rfl⟩
    refine ⟨decoded, ⟨identity.2, raw, identity.1, v.address⟩, rfl, ?_, rfl⟩
    rw [convert_of_byCursor hcursor, hdoc]
    exact (QueryResult.ofCursorDocument_list hlookup).2 ⟨identity, hread, rfl⟩
  · rintro ⟨_, undecoded, ⟨⟩, hconvert, rfl⟩
    rw [convert_of_byCursor hcursor, hdoc, QueryResult.ofCursorDocument_list hlookup] at hconvert
    obtain ⟨identity, hread, rfl⟩ := hconvert
    exact ⟨identity, hread, rfl⟩

end

/-! ## In the reply -/

section
variable (hreply : v.byCursor = false)
include hreply

theorem array_of_inReply : v.array reply = Document.lookup v.batchField reply :=
  if_neg (by simp [hreply])

/-- A list in the reply is taken as it is. -/
theorem exists_convert : ∃ ns, ∀ document raw,
    Document.lookup v.batchField document = some (.list raw) →
      v.convert (.doc document) = .ok ⟨ns, raw, 0, v.address⟩ := by
  cases v with
  | fetch _ => cases hreply
  | aggregation a server =>
    have hcursor : ¬ a.usesCursor server = true := by simpa [byCursor] using hreply
    have hfield : (aggregation a server).batchField = inlineResultField := if_neg hcursor
    refine ⟨a.ns, fun document raw hlookup => ?_⟩
    rw [hfield] at hlookup
    change (if a.usesCursor server then _ else _) = _
    rw [if_neg hcursor]
    have hget : (Value.doc document).fieldOrNull inlineResultField = .ok (.list raw) := by
      simp [Value.fieldOrNull, Document.get, hlookup]
    rw [hget]
    cases raw <;> rfl

/-- What is read is decoded, if the decoder finds it. -/
theorem outcome_of_inReply (harray : v.array reply = some (.list raw))
    (hnone : ¬ ∃ batch, v.Overlooked reply batch) :
    v.outcome d reply = .ok result ↔ ∃ decoded undecoded, raw.mapM d = .ok decoded ∧
      v.convert (.doc reply) = .ok undecoded ∧ result = { undecoded with results := decoded } := by
  obtain ⟨ns, hconvert⟩ := exists_convert hreply
  rw [array_of_inReply hreply] at harray
  have hbeside : ∀ cursor, Document.get cursorField reply = .doc cursor →
      Document.lookup v.batchField cursor = none := by
    intro cursor hdoc
    by_contra hsome
    obtain ⟨batch, hlookup⟩ := Option.ne_none_iff_exists'.1 hsome
    exact hnone ⟨batch, hreply, cursor, hdoc, hlookup⟩
  obtain ⟨hbatch, hafter⟩ := places_of_none hbeside
  rw [outcome_eq, hbatch, harray, Option.elim_some, Decoder.decodeBatch_list, hconvert _ _ harray]
  rcases raw.mapM d with e | decoded
  · simp [Except.map, bind, Except.bind]
  · change v.convert (.doc (withBatch v.batchField (.list decoded) reply)) = .ok result ↔ _
    rw [hafter, hconvert _ decoded (by simp [Document.lookup_put])]
    simp [eq_comm]

/-- What is overlooked is decoded for nothing. -/
theorem outcome_of_overlooked {batch : Value} (h : v.Overlooked reply batch)
    (harray : v.array reply = some (.list raw)) :
    v.outcome d reply = Decoder.decodeBatch d batch >>= fun _ => v.convert (.doc reply) := by
  obtain ⟨ns, hconvert⟩ := exists_convert hreply
  obtain ⟨cursor, hdoc, hlookup⟩ := h.found
  rw [array_of_inReply hreply] at harray
  have hbatch : batchOf v.batchField reply = some batch := by
    simp [batchOf, hdoc, hlookup]
  rw [outcome_eq, hbatch, Option.elim_some]
  rcases Decoder.decodeBatch d batch with e | decoded
  · rfl
  · change v.convert (.doc (withBatch v.batchField decoded reply)) = v.convert (.doc reply)
    have hkept : Document.lookup v.batchField (withBatch v.batchField decoded reply)
        = some (.list raw) := by
      rw [withBatch_of_lookup hdoc hlookup, Document.lookup_put,
        if_neg v.isBatchField_batchField.cursor.symm, harray]
    rw [hconvert _ _ hkept, hconvert _ _ harray]

end

/-! ## The same array -/

theorem exists_ne (x : Value) : ∃ y, y ≠ x := by
  by_cases hx : x = .null
  · exact ⟨.bool true, by simp [hx]⟩
  · exact ⟨.null, Ne.symm hx⟩

/-- What comes of a reply whose documents the decoder finds. -/
theorem outcome_iff (hnone : ¬ ∃ batch, v.Overlooked reply batch)
    (harray : v.array reply = some (.list raw)) :
    v.outcome d reply = .ok result ↔ ∃ decoded undecoded, raw.mapM d = .ok decoded ∧
      v.convert (.doc reply) = .ok undecoded ∧ result = { undecoded with results := decoded } := by
  rcases hcursor : v.byCursor with _ | _
  · exact outcome_of_inReply hcursor harray hnone
  · exact outcome_of_byCursor hcursor harray

/-- Where documents are shadowed they come as they were sent. -/
theorem not_faithful_of_shadowed (h : v.Shadowed reply) : ∃ d, ¬ v.Faithful d reply := by
  obtain ⟨⟨batch, hover, hlistable⟩, x, raw, harray⟩ := h
  obtain ⟨y, hy⟩ := exists_ne x
  obtain ⟨ns, hconvert⟩ := exists_convert hover.inReply
  let constant : Decoder := fun _ => .ok y
  have hconstant : ∀ v, ∃ w, constant v = .ok w := fun _ => ⟨y, rfl⟩
  obtain ⟨decoded, hdecoded⟩ := Decoder.decodeBatch_of_listable hconstant hlistable
  have hread := hconvert reply _ ((array_of_inReply hover.inReply).symm.trans harray)
  have hresult : v.outcome constant reply = .ok ⟨ns, x :: raw, 0, v.address⟩ := by
    rw [outcome_of_overlooked hover.inReply hover harray, hdecoded, hread]
    rfl
  refine ⟨constant, fun hfaithful => hy ?_⟩
  obtain ⟨hall, -⟩ := hfaithful _ _ hresult harray
  exact Except.ok.inj (List.forall₂_cons.1 hall).1

/-- Elsewhere they come decoded. -/
theorem faithful_of_not_shadowed (h : ¬ v.Shadowed reply) (d : Decoder) : v.Faithful d reply := by
  intro result raw hresult harray
  by_cases hover : ∃ batch, v.Overlooked reply batch
  · obtain ⟨batch, hover⟩ := hover
    rw [outcome_of_overlooked hover.inReply hover harray] at hresult
    by_cases hlistable : batch.Listable
    · -- nothing is read, so nothing is shadowed
      rcases raw with _ | ⟨x, raw⟩
      · obtain ⟨ns, hconvert⟩ := exists_convert hover.inReply
        have hread := hconvert reply _ ((array_of_inReply hover.inReply).symm.trans harray)
        rcases hdecoded : Decoder.decodeBatch d batch with e | decoded
        · rw [hdecoded] at hresult
          cases hresult
        · rw [hdecoded] at hresult
          change v.convert (.doc reply) = .ok result at hresult
          refine ⟨?_, result, hresult, rfl, rfl⟩
          rw [hread] at hresult
          obtain rfl := Except.ok.inj hresult
          exact .nil
      · exact absurd ⟨⟨batch, hover, hlistable⟩, x, raw, harray⟩ h
    · obtain ⟨text, htext⟩ := Decoder.decodeBatch_of_not_listable d hlistable
      rw [htext] at hresult
      cases hresult
  · obtain ⟨decoded, undecoded, hdecoded, hconvert, rfl⟩ := (outcome_iff hover harray).1 hresult
    exact ⟨mapM_ok_iff.1 hdecoded, undecoded, hconvert, rfl, rfl⟩

/-- **The documents that are decoded are those that are read**, in the replies to aggregations, by
    cursor or all at once, and to fetches, with whatever decoder and whatever else the reply holds:
    exactly unless they are shadowed.  And where no batch is overlooked, documents that can be
    decoded do come. -/
theorem faithful_iff (v : Conversion) (reply : Document) :
    ((∀ d, v.Faithful d reply) ↔ ¬ v.Shadowed reply) ∧
      ((¬ ∃ batch, v.Overlooked reply batch) → ∀ d raw decoded undecoded,
        v.array reply = some (.list raw) → List.Forall₂ (fun x y => d x = .ok y) raw decoded →
          v.convert (.doc reply) = .ok undecoded →
            v.outcome d reply = .ok { undecoded with results := decoded }) := by
  refine ⟨⟨fun h hshadowed => ?_, faithful_of_not_shadowed⟩, ?_⟩
  · obtain ⟨d, hd⟩ := not_faithful_of_shadowed hshadowed
    exact hd (h d)
  · intro hnone d raw decoded undecoded harray hdecoded hconvert
    exact (outcome_iff hnone harray).2
      ⟨decoded, undecoded, mapM_ok_iff.2 hdecoded, hconvert, rfl⟩

/-! ## A reply with a document -/

/-- A document of the sample collection. -/
def ulysses : Value := .doc [("title", .text "Ulysses")]

/-- The reply to a fetch that brings it. -/
def ulyssesFetched : Document := fetchReply (.int 7) (.text "library.books") (.list [ulysses])

/-- Fetched, it comes decoded. -/
theorem faithful_ulyssesFetched : (fetch {}).Faithful Decoder.count ulyssesFetched ∧
    (fetch {}).outcome Decoder.count ulyssesFetched
      = .ok ⟨(Cursor.Plan.sample 0).first.ns, [.int 1], 7, {}⟩ := by
  obtain ⟨hfaithful, hcomes⟩ := faithful_iff (fetch {}) ulyssesFetched
  have hnone : ¬ ∃ batch, (fetch {}).Overlooked ulyssesFetched batch := by
    rintro ⟨batch, hreply, -⟩
    cases hreply
  refine ⟨hfaithful.2 (fun h => hnone (h.overlooked.imp fun _ => And.left)) _, ?_⟩
  exact hcomes hnone Decoder.count [ulysses] [.int 1]
    ⟨(Cursor.Plan.sample 0).first.ns, [ulysses], 7, {}⟩ rfl (.cons rfl .nil) rfl

/-- The sample aggregation, on a server from before there were cursors. -/
def inlineSample : Conversion :=
  aggregation { ns := (Cursor.Plan.sample 0).first.ns, pipeline := [] }
    { address := {}, version := [2, 4] }

/-- The reply to an aggregation that brings it, and a cursor document beside it. -/
def ulyssesShadowed : Document :=
  [("ok", .int 1), (inlineResultField, .list [ulysses]),
    (cursorField, .doc [(inlineResultField, .list [])])]

/-- Beside a cursor document with a batch it comes as it was sent. -/
theorem not_faithful_ulyssesShadowed :
    ¬ inlineSample.Faithful Decoder.count ulyssesShadowed := by
  intro h
  have hresult : inlineSample.outcome Decoder.count ulyssesShadowed
      = .ok ⟨(Cursor.Plan.sample 0).first.ns, [ulysses], 0, {}⟩ := rfl
  obtain ⟨hall, -⟩ := h _ [ulysses] hresult rfl
  cases (List.forall₂_cons.1 hall).1

end Conversion

end DocumentClient
