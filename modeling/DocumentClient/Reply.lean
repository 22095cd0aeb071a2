/-
  Replies — reading the parts of a reply.

  `Value.field` takes a field out of a value, `wholeNumber` makes a value whole,
  `Value.items` lists what a value consists of; each fails on a value of a kind
  that does not admit it.  `QueryResult.ofCursorDocument` turns the cursor
  document of a reply, `{id, ns, firstBatch | nextBatch}`, into a query result: a
  missing part and a part of the wrong kind make the document unusable.
-/
import DocumentClient.Failure

namespace DocumentClient

/-- The field that holds the first batch of a cursor. -/
def firstBatchField : String := "firstBatch"

/-- The field that holds a batch fetched later. -/
def nextBatchField : String := "nextBatch"

/-- The field that holds all results of a reply without cursor. -/
def inlineResultField : String := "result"

/-- The field that holds the cursor document. -/
def cursorField : String := "cursor"

namespace Value

/-- The value of a field. -/
def field (name : String) : Value → Outcome Value
  | .doc fields =>
    match Document.lookup name fields with
    | some v => .ok v
    | none => .error (.missingField name)
  | .list _ => .error (.wrongKind "list indices must be integers or slices, not str")
  | .text _ => .error (.wrongKind "string indices must be integers, not 'str'")
  | v => .error (.wrongKind s!"'{v.kind}' object is not subscriptable")

/-- The number of a whole number, a truth value, a double (toward zero) or a
    numeral. -/
def wholeNumber : Value → Outcome Int
  | .int n => .ok n
  | .bool b => .ok (if b then 1 else 0)
  | .double x =>
    match x.truncate with
    | some n => .ok n
    | none => .error (if x.isNaN then .invalid .wholePartOfNaN else .overflow .infinite)
  | .text s => Outcome.ofValid (readWhole s)
  | v => .error (.wrongKind
      s!"int() argument must be a string, a bytes-like object or a real number, not '{v.kind}'")

/-- What a value consists of. -/
def items (v : Value) : Outcome (List Value) :=
  match v.parts? with
  | some vs => .ok vs
  | none => .error (.wrongKind s!"'{v.kind}' object is not iterable")

/-- The number of parts of a value. -/
def size (v : Value) : Outcome Int :=
  match v.parts? with
  | some vs => .ok vs.length
  | none => .error (.wrongKind s!"object of type '{v.kind}' has no len()")

/-- A field that a document may lack; null then. -/
def fieldOrNull (name : String) : Value → Outcome Value
  | .doc fields => .ok (Document.get name fields)
  | v => .error (.noOperation s!"'{v.kind}' object has no attribute 'get'")

/-! ## Values as documents -/

/-- What a value counts as that names a field: a truth value and a whole double are the
    number of the same size. -/
def keyForm : Value → Value
  | .bool b => .int (if b then 1 else 0)
  | .double x =>
    match x.truncate with
    | some n => if Double.ofInt n = x ∨ x.isZero then .int n else .double x
    | none => .double x
  | v => v

/-- The field name a value is written as. -/
def fieldName : Value → Outcome String
  | .text s => .ok s
  | .null => .ok "null"
  | .bool b => .ok (if b then "true" else "false")
  | .int n => .ok (toString n)
  | .double x => .ok x.shown
  | v => .error (.wrongKind s!"unhashable type: '{v.kind}'")

/-- The two parts of the item at a place, the name and the value of a field. -/
def pairAt (place : Nat) (v : Value) : Outcome (Value × Value) :=
  match v.parts? with
  | some [name, value] => .ok (name, value)
  | some parts => .error (.invalid (.notPair place parts.length))
  | none =>
    .error (.wrongKind s!"cannot convert dictionary update sequence element #{place} to a sequence")

/-- Puts a field among others, each with the form its name counts as. -/
def putKey (form : Value) (name : String) (value : Value) :
    List (Value × String × Value) → List (Value × String × Value)
  | [] => [(form, name, value)]
  | (f, n, v) :: rest =>
    if f = form then (f, n, value) :: rest else (f, n, v) :: putKey form name value rest

/-- The document of pairs, after the fields read so far. -/
def fieldsOfPairs (place : Nat) (fields : List (Value × String × Value)) :
    List Value → Outcome Document
  | [] => .ok (Document.ofFields (fields.map Prod.snd))
  | v :: rest => do
    let (key, value) ← pairAt place v
    let name ← key.fieldName
    fieldsOfPairs (place + 1) (putKey key.keyForm name value fields) rest

/-- The document a value stands for: a list of pairs of a name and a value stands for one. -/
def asDocument : Value → Outcome Document
  | .doc fields => .ok fields
  | v => do
    let parts ← v.items
    fieldsOfPairs 0 [] parts

/-- The namespace a value names.  A list or a document with a part `.` passes for
    a name with a dot, but cannot be split. -/
def namespaceOf : Value → Outcome Namespace
  | .text name => Outcome.ofValid (Namespace.parse name)
  | .list items =>
    if items.contains (.text ".") then .error (.noOperation "'list' object has no attribute 'split'")
    else .error (.invalid (.noCollection (Value.list items).plain))
  | .doc fields =>
    if Document.has "." fields then
      .error (.noOperation "'dict' object has no attribute 'split'")
    else .error (.invalid (.noCollection (Value.doc fields).plain))
  | v => .error (.wrongKind s!"argument of type '{v.kind}' is not iterable")

end Value

namespace QueryResult

/-- The query result of a cursor document all of whose parts are right. -/
def readCursorDocument (document : Value) (address : Address) (batchField : String) :
    Outcome QueryResult := do
  let id ← document.field "id"
  let id ← id.wholeNumber
  let name ← document.field "ns"
  let ns ← name.namespaceOf
  let batch ← document.field batchField
  let results ← batch.items
  return ⟨ns, results, id, address⟩

/-- The query result of a cursor document. -/
def ofCursorDocument (document : Value) (address : Address) (batchField : String) :
    Outcome QueryResult :=
  match readCursorDocument document address batchField with
  | .error (.missingField _) | .error (.wrongKind _) | .error (.invalid _) =>
    .error (.unusable (.cursorDocument batchField) document)
  | outcome => outcome

/-- The query result of the reply to a fetch. -/
def ofGetMoreReply (reply : Value) (address : Address) : Outcome QueryResult := do
  let document ← reply.fieldOrNull cursorField
  ofCursorDocument document address nextBatchField

end QueryResult

/-! ## Command failures -/

/-- The failure an error reply reports. -/
def CommandFailure.ofReply (reply : Document) (address : Option Address) :
    Outcome CommandFailure := do
  let code ← match Document.get "code" reply with
    | .int n => .ok n
    | .bool b => (Value.bool b).wholeNumber
    | .double x => (Value.double x).wholeNumber
    | _ => .ok (-1)
  let reason := Document.get "errmsg" reply
  return { code := code
           reason := if reason.truthy then reason.plain else ""
           codeName := Document.get "codeName" reply
           reply := reply
           address := address }

/-- Whether a reply reports an error: its `ok` is there and does not count as
    true. -/
def reportsError (reply : Document) : Bool :=
  match Document.lookup "ok" reply with
  | some ok => !ok.truthy
  | none => false

/-- Fails with the error a reply reports, if it does. -/
def checkReply (reply : Document) (address : Option Address) : Outcome Document :=
  if reportsError reply then do
    let failure ← CommandFailure.ofReply reply address
    .error (.command failure)
  else .ok reply

/-- What a command failure means for the fetch it answers: the cursor is gone, or
    the query has failed. -/
def CommandFailure.ofFetch (failure : CommandFailure) (id : Int) (address : Address) : Failure :=
  if failure.code = cursorMissingCode then .cursorMissing id address
  else .query ⟨failure.code, failure.reason, failure.address.getD address⟩

/-- Puts a default in the place of a missing namespace. -/
def CommandFailure.orDefault {α : Type} (failure : CommandFailure) (default : α) : Outcome α :=
  if failure.namespaceMissing then .ok default else .error (.command failure)

end DocumentClient
