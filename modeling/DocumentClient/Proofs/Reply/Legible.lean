/-
  Malformed cursor documents.

  What a reply with a cursor comes to is settled in two steps.  The decoder of the reply lists
  the batch, wherever that stands, and the reading of the cursor document then takes the id, the
  namespace and the batch out of it.  Only the reading has a handler: a missing part, a part of
  the wrong kind and an invalid one make the document unusable, and that is reported.

  `reported_iff_legible`: a query result or that report comes of a reply exactly if the reply is
  `Legible`.  Three things pass the handler by: a batch that cannot be listed fails in the
  decoder already, an infinite id is no case the handler knows, and no more is a namespace that
  looks like a name with a dot and is none.
-/
import DocumentClient.Aggregation

namespace DocumentClient

/-! ## Values -/

theorem Double.isInfinite_iff {x : Double} :
    x.isInfinite = true ↔ x.truncate = none ∧ x.isNaN = false := by
  unfold truncate isFinite isInfinite isNaN
  by_cases hbits : x.exponentBits = 2047
  · simp [hbits]
  · simp [hbits]

namespace Value

/-- A value that passes for a name with a dot, and cannot be split. -/
def Misleads : Value → Prop
  | .list items => .text "." ∈ items
  | .doc fields => Document.has "." fields
  | _ => False

/-- Infinity, as a value. -/
def IsInfinite (v : Value) : Prop := ∃ x : Double, v = .double x ∧ x.isInfinite

end Value

/-! ## Failures that are reported -/

/-- The failures that come out of the handler as the report of an unusable cursor document. -/
inductive Failure.IsHandled (batchField : String) : Failure → Prop
  | missingField (name : String) : IsHandled batchField (.missingField name)
  | wrongKind (text : String) : IsHandled batchField (.wrongKind text)
  | invalid (reason : Invalid) : IsHandled batchField (.invalid reason)
  /-- The report itself passes. -/
  | unusable (document : Value) :
      IsHandled batchField (.unusable (.cursorDocument batchField) document)

/-- Every failure of an outcome is handled. -/
def Outcome.IsHandled {α : Type} (batchField : String) (o : Outcome α) : Prop :=
  ∀ e, o = .error e → e.IsHandled batchField

namespace Outcome

variable {α β : Type} {batchField : String}

theorem isHandled_ok (a : α) : IsHandled batchField (.ok a : Outcome α) := fun _ => nofun

theorem isHandled_error {e : Failure} :
    IsHandled batchField (.error e : Outcome α) ↔ e.IsHandled batchField := by
  constructor
  · exact fun h => h e rfl
  · rintro h _ ⟨⟩
    exact h

theorem isHandled_bind {o : Outcome α} {f : α → Outcome β} :
    IsHandled batchField (o >>= f) ↔
      o.IsHandled batchField ∧ ∀ a, o = .ok a → (f a).IsHandled batchField := by
  rcases o with e | a
  · change IsHandled batchField (.error e : Outcome β) ↔ _
    simp [isHandled_error]
  · change (f a).IsHandled batchField ↔ _
    simp [isHandled_ok]

theorem isHandled_ofValid (v : Except Invalid α) : (ofValid v).IsHandled batchField := by
  rcases v with reason | a
  · exact isHandled_error.2 (.invalid reason)
  · exact isHandled_ok a

end Outcome

namespace Value

open Outcome

variable {batchField : String}

theorem isHandled_field (name : String) (v : Value) : (v.field name).IsHandled batchField := by
  cases v with
  | doc fields =>
    rw [field]
    rcases Document.lookup name fields with _ | v
    · exact isHandled_error.2 (.missingField name)
    · exact isHandled_ok v
  | _ => exact isHandled_error.2 (.wrongKind _)

theorem isHandled_items (v : Value) : v.items.IsHandled batchField := by
  rw [items]
  rcases v.parts? with _ | parts
  · exact isHandled_error.2 (.wrongKind _)
  · exact isHandled_ok parts

theorem isHandled_wholeNumber {v : Value} :
    v.wholeNumber.IsHandled batchField ↔ ¬ v.IsInfinite := by
  cases v with
  | double x =>
    have hinfinite : (Value.double x).IsInfinite ↔ x.truncate = none ∧ x.isNaN = false := by
      simp [IsInfinite, Double.isInfinite_iff]
    rw [wholeNumber, hinfinite]
    rcases x.truncate with _ | n
    · rcases x.isNaN with _ | _
      · simp [isHandled_error]
        exact nofun
      · simp [isHandled_error, Failure.IsHandled.invalid]
    · simp [isHandled_ok]
  | text s => simp [wholeNumber, isHandled_ofValid, IsInfinite]
  | int n => simp [wholeNumber, isHandled_ok, IsInfinite]
  | bool b => simp [wholeNumber, isHandled_ok, IsInfinite]
  | null | list _ | doc _ =>
    simp [wholeNumber, isHandled_error, IsInfinite, Failure.IsHandled.wrongKind]

theorem isHandled_namespaceOf {v : Value} :
    v.namespaceOf.IsHandled batchField ↔ ¬ v.Misleads := by
  cases v with
  | text name => simp [namespaceOf, isHandled_ofValid, Misleads]
  | list items =>
    rw [namespaceOf, Misleads]
    by_cases hdot : .text "." ∈ items
    · simp [hdot, isHandled_error]
      exact nofun
    · simp [hdot, isHandled_error, Failure.IsHandled.invalid]
  | doc fields =>
    rw [namespaceOf, Misleads]
    by_cases hdot : Document.has "." fields
    · simp [hdot, isHandled_error]
      exact nofun
    · simp [hdot, isHandled_error, Failure.IsHandled.invalid]
  | null | bool _ | int _ | double _ =>
    simp [namespaceOf, isHandled_error, Misleads, Failure.IsHandled.wrongKind]

end Value

/-! ## Reading a cursor document -/

/-- An outcome is a query result, or the report that the cursor document is unusable. -/
def Reported (batchField : String) (o : Outcome QueryResult) : Prop :=
  (∃ result, o = .ok result) ∨
    ∃ document, o = .error (.unusable (.cursorDocument batchField) document)

/-- A cursor document whose id and namespace fail in no way that is not handled. -/
structure Readable (document : Value) : Prop where
  id : ∀ id, document.field "id" = .ok id → ¬ id.IsInfinite
  /-- The namespace is looked at only after the id. -/
  name : ∀ id n name, document.field "id" = .ok id → id.wholeNumber = .ok n →
    document.field "ns" = .ok name → ¬ name.Misleads

namespace QueryResult

variable {document : Value} {address : Address} {batchField : String}

theorem reported_ofCursorDocument :
    Reported batchField (ofCursorDocument document address batchField) ↔
      (readCursorDocument document address batchField).IsHandled batchField := by
  rw [ofCursorDocument]
  rcases readCursorDocument document address batchField with e | result
  · rw [Outcome.isHandled_error]
    constructor
    · intro h
      cases e with
      | missingField name => exact .missingField name
      | wrongKind text => exact .wrongKind text
      | invalid reason => exact .invalid reason
      | unusable reason other =>
        obtain ⟨_, ⟨⟩⟩ | ⟨_, ⟨⟩⟩ := h
        exact .unusable other
      | _ => obtain ⟨_, ⟨⟩⟩ | ⟨_, ⟨⟩⟩ := h
    · intro h
      cases h <;> exact .inr ⟨_, rfl⟩
  · exact iff_of_true (.inl ⟨result, rfl⟩) (Outcome.isHandled_ok result)

theorem isHandled_readCursorDocument :
    (readCursorDocument document address batchField).IsHandled batchField ↔
      Readable document := by
  simp only [readCursorDocument, Outcome.isHandled_bind, Value.isHandled_field,
    Value.isHandled_items, Value.isHandled_wholeNumber, Value.isHandled_namespaceOf, true_and]
  constructor
  · intro h
    refine ⟨fun id hid => (h id hid).1, ?_⟩
    intro id n name hid hn hname
    exact ((h id hid).2 n hn name hname).1
  · intro h id hid
    refine ⟨h.id id hid, fun n hn name hname => ⟨h.name id n name hid hn hname, ?_⟩⟩
    exact fun _ _ _ _ _ _ => Outcome.isHandled_ok _

end QueryResult

theorem Readable.congr {document other : Value}
    (hid : other.field "id" = document.field "id") (hname : other.field "ns" = document.field "ns")
    (h : Readable document) : Readable other :=
  ⟨hid ▸ h.id, hid ▸ hname ▸ h.name⟩

/-! ## Decoding a reply -/

/-- A value that can be listed, or counts as nothing. -/
def Value.Listable (v : Value) : Prop := v.truthy → ∃ parts, v.parts? = some parts

/-- The batch of a reply stands in the cursor document if that has it, else in the reply. -/
def batchOf (batchField : String) (reply : Document) : Option Value :=
  match Document.get cursorField reply with
  | .doc cursor => (Document.lookup batchField cursor).or (Document.lookup batchField reply)
  | _ => Document.lookup batchField reply

/-- A reply with another batch in the place of its own. -/
def withBatch (batchField : String) (batch : Value) (reply : Document) : Document :=
  match Document.get cursorField reply with
  | .doc cursor =>
    if Document.has batchField cursor then
      Document.put cursorField (.doc (Document.put batchField batch cursor)) reply
    else Document.put batchField batch reply
  | _ => Document.put batchField batch reply

/-- A reply whose batch can be listed and whose cursor document can be read. -/
structure Legible (batchField : String) (reply : Document) : Prop where
  batch : ∀ batch, batchOf batchField reply = some batch → batch.Listable
  cursor : Readable (Document.get cursorField reply)

namespace Decoder

variable {decode : Decoder} {batchField : String} {reply : Document} {batch : Value}

theorem exists_mapM_ok (hdecode : ∀ v, ∃ w, decode v = .ok w) (vs : List Value) :
    ∃ ws, vs.mapM decode = .ok ws := by
  induction vs with
  | nil => exact ⟨[], rfl⟩
  | cons v vs ih =>
    obtain ⟨w, hw⟩ := hdecode v
    obtain ⟨ws, hws⟩ := ih
    refine ⟨w :: ws, ?_⟩
    rw [List.mapM_cons, hw, hws]
    rfl

theorem decodeBatch_of_listable (hdecode : ∀ v, ∃ w, decode v = .ok w) (h : batch.Listable) :
    ∃ decoded, decodeBatch decode batch = .ok decoded := by
  unfold decodeBatch
  by_cases htruthy : batch.truthy
  · obtain ⟨parts, hparts⟩ := h htruthy
    obtain ⟨decoded, hdecoded⟩ := exists_mapM_ok hdecode parts
    refine ⟨.list decoded, ?_⟩
    rw [if_pos htruthy, Value.items, hparts]
    change (parts.mapM decode >>= fun decoded => pure (Value.list decoded)) = _
    rw [hdecoded]
    rfl
  · refine ⟨.list [], ?_⟩
    rw [if_neg htruthy]
    rfl

theorem decodeBatch_of_not_listable (decode : Decoder) (h : ¬ batch.Listable) :
    ∃ text, decodeBatch decode batch = .error (.wrongKind text) := by
  obtain ⟨htruthy, hparts⟩ : batch.truthy ∧ ¬ ∃ parts, batch.parts? = some parts := by
    simpa [Value.Listable] using h
  have hnone : batch.parts? = none := by
    simpa [Option.eq_none_iff_forall_ne_some] using hparts
  unfold decodeBatch
  rw [if_pos htruthy, Value.items, hnone]
  exact ⟨_, rfl⟩

theorem inReply_eq : ofResults.inReply decode batchField reply
    = (Document.lookup batchField reply).elim (.ok (.doc reply)) fun batch =>
        (decodeBatch decode batch).map fun decoded =>
          .doc (Document.put batchField decoded reply) := by
  unfold ofResults.inReply
  rcases Document.lookup batchField reply with _ | batch
  · rfl
  · rcases decodeBatch decode batch with e | decoded <;> rfl

/-- The decoder of a reply decodes its batch, in the place of that, and nothing else. -/
theorem ofResults_eq : ofResults decode batchField (.doc reply)
    = (batchOf batchField reply).elim (.ok (.doc reply)) fun batch =>
        (decodeBatch decode batch).map fun decoded =>
          .doc (withBatch batchField decoded reply) := by
  rw [ofResults, batchOf]
  simp only [withBatch]
  cases Document.get cursorField reply with
  | doc cursor =>
    rcases hinside : Document.lookup batchField cursor with _ | batch
    · simp only [hinside, Document.has, Option.isSome_none, Bool.false_eq_true, if_false,
        Option.none_or]
      exact inReply_eq
    · simp only [hinside, Document.has, Option.isSome_some, if_true, Option.some_or,
        Option.elim_some]
      rcases decodeBatch decode batch with e | decoded <;> rfl
  | _ => exact inReply_eq

/-- Decoding the batch leaves the other fields of the cursor document as they are. -/
theorem field_withBatch (reply : Document) {name : String} (hname : batchField ≠ name)
    (hcursor : batchField ≠ cursorField) (decoded : Value) :
    (Document.get cursorField (withBatch batchField decoded reply)).field name
      = (Document.get cursorField reply).field name := by
  have hbeside : Document.get cursorField (Document.put batchField decoded reply)
      = Document.get cursorField reply := by
    rw [Document.get, Document.lookup_put, if_neg hcursor, Document.get]
  unfold withBatch
  split
  · rename_i cursor hdoc
    split
    · rw [hdoc, Document.get, Document.lookup_put, if_pos rfl, Option.getD_some, Value.field,
        Document.lookup_put, if_neg hname, Value.field]
    · rw [hbeside]
  · rw [hbeside]

end Decoder

/-! ## Replies -/

/-- What comes of a reply: its batch is decoded, and its cursor document is read. -/
def resultOf (decode : Decoder) (address : Address) (batchField : String) (reply : Document) :
    Outcome QueryResult := do
  let decoded ← decode.ofResults batchField (.doc reply)
  let document ← decoded.fieldOrNull cursorField
  QueryResult.ofCursorDocument document address batchField

section
variable {decode : Decoder} {reply : Document} {address : Address} {batchField : String}

/-- The names that are read have nothing to do with the batch. -/
structure IsBatchField (batchField : String) : Prop where
  cursor : batchField ≠ cursorField
  id : batchField ≠ "id"
  ns : batchField ≠ "ns"

theorem isBatchField_first : IsBatchField firstBatchField := ⟨by decide, by decide, by decide⟩

theorem isBatchField_next : IsBatchField nextBatchField := ⟨by decide, by decide, by decide⟩

theorem reported_resultOf (hfield : IsBatchField batchField)
    (hdecode : ∀ v, ∃ w, decode v = .ok w) :
    Reported batchField (resultOf decode address batchField reply) ↔ Legible batchField reply := by
  have hread : ∀ read : Document, Reported batchField
      (QueryResult.ofCursorDocument (Document.get cursorField read) address batchField) ↔
        Readable (Document.get cursorField read) := fun read =>
    QueryResult.reported_ofCursorDocument.trans QueryResult.isHandled_readCursorDocument
  rw [resultOf, Decoder.ofResults_eq]
  rcases hbatch : batchOf batchField reply with _ | batch
  · refine (hread reply).trans ⟨fun h => ⟨fun batch h => ?_, h⟩, Legible.cursor⟩
    cases hbatch.symm.trans h
  by_cases hlistable : batch.Listable
  · obtain ⟨decoded, hdecoded⟩ := Decoder.decodeBatch_of_listable hdecode hlistable
    rw [Option.elim_some, hdecoded]
    have hid := Decoder.field_withBatch reply hfield.id hfield.cursor decoded
    have hns := Decoder.field_withBatch reply hfield.ns hfield.cursor decoded
    refine (hread (withBatch batchField decoded reply)).trans ?_
    constructor
    · intro h
      refine ⟨fun other hother => ?_, h.congr hid.symm hns.symm⟩
      obtain rfl := Option.some.inj (hbatch.symm.trans hother)
      exact hlistable
    · exact fun h => h.cursor.congr hid hns
  · obtain ⟨text, htext⟩ := Decoder.decodeBatch_of_not_listable decode hlistable
    rw [Option.elim_some, htext]
    refine iff_of_false ?_ fun h => hlistable (h.batch batch hbatch)
    rintro (⟨_, ⟨⟩⟩ | ⟨_, ⟨⟩⟩)

/-- **A reply with a cursor comes to a query result or to a report exactly if it is legible.**
    With a decoder that never fails, whatever stands in the reply to a fetch, or to an aggregation
    that uses a cursor, the result is made or the cursor document is reported unusable, unless the
    batch can neither be listed nor counts as nothing, the id is infinite, or the id is a number
    and the namespace a list or a document with a part `.`. -/
theorem reported_iff_legible (hdecode : ∀ v, ∃ w, decode v = .ok w) (reply : Document) :
    (∀ address, Reported nextBatchField (decode.ofResults nextBatchField (.doc reply)
        >>= (QueryResult.ofGetMoreReply · address)) ↔ Legible nextBatchField reply) ∧
    ∀ (a : Aggregation) (server : Server), a.decode = decode → a.usesCursor server →
      (Reported firstBatchField ((a.call server).decode (.doc reply) >>= (a.call server).transform)
        ↔ Legible firstBatchField reply) := by
  refine ⟨fun address => reported_resultOf isBatchField_next hdecode, ?_⟩
  rintro a server rfl hcursor
  have hanswer : (a.call server).decode (.doc reply) >>= (a.call server).transform
      = resultOf a.decode server.address firstBatchField reply := by
    have htransform : a.toQueryResult server = fun decoded => decoded.fieldOrNull cursorField
        >>= (QueryResult.ofCursorDocument · server.address firstBatchField) :=
      funext fun decoded => if_pos hcursor
    simp only [Aggregation.call, Aggregation.resultsField, htransform, hcursor, if_true]
    rfl
  rw [hanswer]
  exact reported_resultOf isBatchField_first hdecode

end

/-! ## A reply to a fetch -/

/-- A reply to a fetch. -/
def fetchReply (id ns batch : Value) : Document :=
  [("ok", .int 1), (cursorField, .doc [("id", id), ("ns", ns), (nextBatchField, batch)])]

theorem reported_iff_legible_fetchReply :
    (∀ v, ∃ w, Decoder.document v = .ok w) ∧
    (Reported nextBatchField (Decoder.document.ofResults nextBatchField
        (.doc (fetchReply .null (.int 5) (.list []))) >>= (QueryResult.ofGetMoreReply · {})) ↔
      Legible nextBatchField (fetchReply .null (.int 5) (.list []))) :=
  ⟨fun v => ⟨v, rfl⟩, (reported_iff_legible (fun v => ⟨v, rfl⟩) _).1 {}⟩

/-- A batch that is a number, a namespace that is a list with a dot, and an infinite id are not
    reported. -/
theorem not_reported_fetchReply :
    ¬ Reported nextBatchField (Decoder.document.ofResults nextBatchField
        (.doc (fetchReply (.int 7) (.text "library.books") (.int 5)))
          >>= (QueryResult.ofGetMoreReply · {})) ∧
    ¬ Reported nextBatchField (Decoder.document.ofResults nextBatchField
        (.doc (fetchReply (.int 7) (.list [.text "."]) (.list [])))
          >>= (QueryResult.ofGetMoreReply · {})) ∧
    ¬ Reported nextBatchField (Decoder.document.ofResults nextBatchField
        (.doc (fetchReply (.double (Double.infinity false)) (.text "library.books") (.list [])))
          >>= (QueryResult.ofGetMoreReply · {})) := by
  have hlegible : ∀ reply, Reported nextBatchField (Decoder.document.ofResults nextBatchField
      (.doc reply) >>= (QueryResult.ofGetMoreReply · {})) → Legible nextBatchField reply :=
    fun reply => (reported_resultOf isBatchField_next fun v => ⟨v, rfl⟩).1
  refine ⟨fun h => ?_, fun h => ?_, fun h => ?_⟩
  · obtain ⟨parts, hparts⟩ := (hlegible _ h).batch (.int 5) rfl rfl
    cases hparts
  · exact (hlegible _ h).cursor.name (.int 7) 7 (.list [.text "."]) rfl rfl rfl
      (List.mem_singleton_self _)
  · exact (hlegible _ h).cursor.id _ rfl ⟨Double.infinity false, rfl, by decide +kernel⟩

end DocumentClient
