/-
  Field rules — which field names a command may hold.

  A rule admits or rejects a name and says which rule holds for what stands in
  the field of that name.  `FieldRule.check` walks a document in order, a field
  before its contents, and fails at the first name rejected.
-/
import DocumentClient.Invalid

namespace DocumentClient

/-- Which field names are admitted. -/
inductive FieldRule where
  /-- Every name, at any depth. -/
  | any
  /-- Names of stored fields: no leading `$`, no dot. -/
  | storable
  /-- The names the default rule admits; the fields named have rules of their own
      for their contents. -/
  | mapped (default : FieldRule) (special : List (String × FieldRule))

namespace FieldRule

/-- Whether a rule admits a name. -/
def admits : FieldRule → String → Bool
  | any, _ => true
  | storable, name => !(name.toList.head? == some '$') && !name.toList.contains '.'
  | mapped default _, name => default.admits name

/-- The rule of a name in a list of rules. -/
def find (name : String) : List (String × FieldRule) → Option FieldRule
  | [] => none
  | (n, rule) :: rest => if n = name then some rule else find name rest

/-- The rule for the contents of a field. -/
def inside : FieldRule → String → FieldRule
  | any, _ => any
  | storable, _ => storable
  | mapped default special, name => (find name special).getD (default.inside name)

mutual

/-- The first name a rule rejects in a value. -/
def rejected (rule : FieldRule) : Value → Option String
  | .doc fields => rejectedField rule fields
  | .list items => rejectedItem rule items
  | _ => none
termination_by structural v => v

/-- The first name a rule rejects in a list of values. -/
def rejectedItem (rule : FieldRule) : List Value → Option String
  | [] => none
  | v :: rest => (rejected rule v).or (rejectedItem rule rest)
termination_by structural vs => vs

/-- The first name a rule rejects in the fields of a document. -/
def rejectedField (rule : FieldRule) : List (String × Value) → Option String
  | [] => none
  | (name, v) :: rest =>
    if rule.admits name then (rejected (rule.inside name) v).or (rejectedField rule rest)
    else some name
termination_by structural fs => fs

end

/-- Checks the field names of a document. -/
def check (rule : FieldRule) (document : Document) : Except Invalid Unit :=
  match rejectedField rule document with
  | some name => .error (.fieldName name)
  | none => .ok ()

/-- A rule inside a message. -/
def shown : FieldRule → String
  | any => "NoOpFieldNameValidator()"
  | storable => "CollectibleDocumentFieldNameValidator()"
  | mapped default special =>
    let names := (special.map Prod.fst).mergeSort fun a b => decide (a ≤ b)
    s!"MappedFieldNameValidator({default.shown}, fields={shownTexts names})"

end FieldRule

end DocumentClient
