/-
  Enumerations with names.

  The members of such an enumeration have a name and the text that stands for
  them on the wire.  `Named.coerce` finds a member by either, whatever the case
  of the letters.
-/
import DocumentClient.Invalid
import DocumentClient.Text.Case

namespace DocumentClient

/-- An enumeration whose members have names and wire texts. -/
class Named (α : Type) where
  enumeration : String
  members : List α
  name : α → String
  wire : α → String

namespace Named

variable {α : Type} [Named α]

/-- The first member with a given name or wire text. -/
def find? (text : String) : Option α :=
  (members : List α).find? fun m =>
    Text.upper (name m) == Text.upper text || Text.upper (wire m) == Text.upper text

/-- The member a value names. -/
def coerce (value : Value) : Except Invalid α :=
  let unknown : Except Invalid α :=
    .error (.noMember value (enumeration α) ((members : List α).map wire))
  match value with
  | .text s =>
    match find? s with
    | some m => .ok m
    | none => unknown
  | _ => unknown

end Named

end DocumentClient
