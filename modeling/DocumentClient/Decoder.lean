/-
  Decoders — from what a server sends to what a caller gets.

  A decoder turns one value into another, or refuses it.  `Decoder.ofResults`
  lifts a decoder of documents to whole replies: it is applied to each document
  of the batch, which stands in the cursor document if that has the batch field,
  else in the reply itself; everything else of the reply is kept.
-/
import DocumentClient.Reply

namespace DocumentClient

/-- Turns a value into what the caller is given. -/
abbrev Decoder := Value → Outcome Value

namespace Decoder

/-- Leaves every value as it is. -/
def document : Decoder := .ok

/-- Takes one field of a document. -/
def ofField (name : String) : Decoder := Value.field name

/-- Counts the fields of a document. -/
def count : Decoder := fun v => do
  let n ← v.size
  return .int n

/-- Refuses documents with a certain field. -/
def rejecting (name : String) : Decoder
  | .doc fields =>
    if Document.has name fields then .error (.invalid (.decoderRejected name)) else .ok (.doc fields)
  | v => .ok v

/-- Decodes the documents of a batch; a batch that does not count as true is
    empty. -/
def decodeBatch (decoder : Decoder) (batch : Value) : Outcome Value := do
  let items ← if batch.truthy then batch.items else .ok []
  let decoded ← items.mapM decoder
  return .list decoded

/-- Decodes the documents of a reply that stand under a batch field. -/
def ofResults (decoder : Decoder) (batchField : String := firstBatchField) : Decoder
  | .doc reply =>
    match Document.get cursorField reply with
    | .doc cursor =>
      match Document.lookup batchField cursor with
      | some batch => do
        let decoded ← decodeBatch decoder batch
        return .doc (Document.put cursorField (.doc (Document.put batchField decoded cursor)) reply)
      | none => inReply reply
    | _ => inReply reply
  | v => do
    let _ ← v.asDocument
    v.fieldOrNull cursorField
where
  /-- Decodes the documents that stand in the reply itself. -/
  inReply (reply : Document) : Outcome Value :=
    match Document.lookup batchField reply with
    | some batch => do
      let decoded ← decodeBatch decoder batch
      return .doc (Document.put batchField decoded reply)
    | none => .ok (.doc reply)

/-- Decodes the documents of a reply without cursor. -/
def ofInlineResults (decoder : Decoder) : Decoder := ofResults decoder inlineResultField

end Decoder

end DocumentClient
