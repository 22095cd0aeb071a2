/-
  Namespaces — a collection of a database.

  Neither name is empty.  The full name reads `database.collection`, and
  `Namespace.parse` takes everything up to the first dot for the database.
-/
import DocumentClient.Invalid
import DocumentClient.Text.Split

namespace DocumentClient

/-- A database and one of its collections. -/
structure Namespace where
  database : String
  collection : String
  database_nonempty : database ≠ ""
  collection_nonempty : collection ≠ ""
  deriving DecidableEq

namespace Namespace

/-- The namespace of two names, if neither is empty. -/
def of (database collection : String) : Except Invalid Namespace :=
  if hd : database = "" then .error .emptyDatabase
  else if hc : collection = "" then .error .emptyCollection
  else .ok ⟨database, collection, hd, hc⟩

/-- The name `database.collection`. -/
def fullName (ns : Namespace) : String := ns.database ++ "." ++ ns.collection

/-- Reads a full name. -/
def parse (name : String) : Except Invalid Namespace :=
  match Text.splitFirst '.' name.toList with
  | none => .error (.noCollection name)
  | some (database, collection) => of (String.ofList database) (String.ofList collection)

end Namespace

end DocumentClient
