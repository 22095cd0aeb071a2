/-
  Query results — one batch, and the cursor left behind.

  A server cursor is an id other than zero at an address.  A query result holds
  the documents of one fetch and the id of the cursor the server keeps open; id
  zero means that it keeps none.
-/
import DocumentClient.Address
import DocumentClient.Namespace

namespace DocumentClient

/-- A live cursor on a server. -/
structure ServerCursor where
  id : Int
  address : Address
  id_ne_zero : id ≠ 0
  deriving DecidableEq

namespace ServerCursor

/-- The cursor of an id, if that is not zero. -/
def of (id : Int) (address : Address) : Except Invalid ServerCursor :=
  if h : id = 0 then .error .zeroCursorId else .ok ⟨id, address, h⟩

end ServerCursor

/-- The outcome of a query or of a fetch. -/
structure QueryResult where
  ns : Namespace
  results : List Value
  cursorId : Int
  address : Address

namespace QueryResult

/-- The cursor the server keeps open. -/
def cursor (r : QueryResult) : Option ServerCursor :=
  if h : r.cursorId = 0 then none else some ⟨r.cursorId, r.address, h⟩

/-- A query result inside a message. -/
def shown (r : QueryResult) : String :=
  s!"QueryResult({r.ns.fullName}, results=<{r.results.length} documents>, "
    ++ s!"cursor_id={r.cursorId}, server_address={r.address.text})"

end QueryResult

end DocumentClient
