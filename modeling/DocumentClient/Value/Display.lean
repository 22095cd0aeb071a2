/-
  Display — values as they are shown inside messages.

  `shown` writes a value as a literal: texts in quotes, `None`, `True` and
  `False`, doubles by their shortest decimal, lists in brackets, documents in
  braces, with `, ` between items and `: ` after a field name.  `plain` is the
  same, except that a text alone stands for itself.
-/
import DocumentClient.Value
import DocumentClient.Decimal.Shortest
import DocumentClient.Text.Quoted

namespace DocumentClient

/-- The text of a double inside a message. -/
def Double.shown (x : Double) : String :=
  if x.isNaN then "nan"
  else if x.isInfinite then (if x.negative then "-inf" else "inf")
  else x.finiteText

/-- The word for a truth value. -/
def shownBool (b : Bool) : String := if b then "True" else "False"

/-- Texts as a bracketed list of quoted texts. -/
def shownTexts (texts : List String) : String :=
  "[" ++ String.intercalate ", " (texts.map Text.quoted) ++ "]"

namespace Value

mutual

/-- A value as a literal. -/
def shown : Value → String
  | .null => "None"
  | .bool b => shownBool b
  | .int n => toString n
  | .double x => x.shown
  | .text s => Text.quoted s
  | .list items => "[" ++ String.intercalate ", " (shownItems items) ++ "]"
  | .doc fields => "\x7b" ++ String.intercalate ", " (shownFields fields) ++ "\x7d"
termination_by structural v => v

/-- The literals of a list of values. -/
def shownItems : List Value → List String
  | [] => []
  | v :: rest => shown v :: shownItems rest
termination_by structural vs => vs

/-- The literals of the fields of a document. -/
def shownFields : List (String × Value) → List String
  | [] => []
  | (name, v) :: rest => (Text.quoted name ++ ": " ++ shown v) :: shownFields rest
termination_by structural fs => fs

end

/-- A value as part of a sentence: a text stands for itself. -/
def plain : Value → String
  | .text s => s
  | v => v.shown

/-- The name of the kind of a value. -/
def kind : Value → String
  | .null => "NoneType"
  | .bool _ => "bool"
  | .int _ => "int"
  | .double _ => "float"
  | .text _ => "str"
  | .list _ => "list"
  | .doc _ => "dict"

/-- The values a value consists of, one after the other: the items of a list,
    the field names of a document, the characters of a text. -/
def parts? : Value → Option (List Value)
  | .list items => some items
  | .doc fields => some (fields.map fun field => .text field.1)
  | .text s => some (s.toList.map fun c => .text c.toString)
  | _ => none

end Value

end DocumentClient
