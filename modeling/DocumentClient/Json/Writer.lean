/-
  JSON text of values.

  The text is ASCII: every character outside `' '` to `'~'` is written as one or
  two `\uXXXX` units.  A `Layout` says what stands between items and after a
  field name, and whether doubles that are not finite are admitted (JSON has no
  words for them).
-/
import DocumentClient.Value
import DocumentClient.Decimal.Shortest
import DocumentClient.Text.Quoted

namespace DocumentClient.Json

/-- How a value is laid out. -/
structure Layout where
  betweenItems : String
  afterName : String
  admitsAll : Bool

/-- No blanks, finite doubles only: what is sent. -/
def Layout.wire : Layout := ⟨",", ":", false⟩

/-- No blanks, every double. -/
def Layout.compact : Layout := ⟨",", ":", true⟩

/-- A blank after each comma and colon, every double. -/
def Layout.spaced : Layout := ⟨", ", ": ", true⟩

/-- A `\uXXXX` unit. -/
def unit (n : Nat) : List Char := '\\' :: 'u' :: Text.hex 4 n

/-- A character inside a JSON string. -/
def escape (c : Char) : List Char :=
  match c with
  | '"' => ['\\', '"']
  | '\\' => ['\\', '\\']
  | '\n' => ['\\', 'n']
  | '\r' => ['\\', 'r']
  | '\t' => ['\\', 't']
  | '\x08' => ['\\', 'b']
  | '\x0c' => ['\\', 'f']
  | c =>
    let n := c.toNat
    if 0x20 ≤ n ∧ n ≤ 0x7e then [c]
    else if n < 0x10000 then unit n
    else unit (0xd800 + (n - 0x10000) / 0x400) ++ unit (0xdc00 + (n - 0x10000) % 0x400)

/-- A JSON string. -/
def string (s : String) : String :=
  String.ofList ('"' :: s.toList.flatMap escape ++ ['"'])

/-- A double, if the layout admits it. -/
def double (layout : Layout) (x : Double) : Option String :=
  if x.isFinite then some x.finiteText
  else if !layout.admitsAll then none
  else if x.isNaN then some "NaN"
  else some (if x.negative then "-Infinity" else "Infinity")

mutual

/-- The JSON text of a value; none if it holds a double that is not admitted. -/
def write (layout : Layout) : Value → Option String
  | .null => some "null"
  | .bool b => some (if b then "true" else "false")
  | .int n => some (toString n)
  | .double x => double layout x
  | .text s => some (string s)
  | .list items => do
    let parts ← writeItems layout items
    return "[" ++ String.intercalate layout.betweenItems parts ++ "]"
  | .doc fields => do
    let parts ← writeFields layout fields
    return "\x7b" ++ String.intercalate layout.betweenItems parts ++ "\x7d"
termination_by structural v => v

/-- The JSON texts of a list of values. -/
def writeItems (layout : Layout) : List Value → Option (List String)
  | [] => some []
  | v :: rest => do
    let part ← write layout v
    let parts ← writeItems layout rest
    return part :: parts
termination_by structural vs => vs

/-- The JSON texts of the fields of a document. -/
def writeFields (layout : Layout) : List (String × Value) → Option (List String)
  | [] => some []
  | (name, v) :: rest => do
    let part ← write layout v
    let parts ← writeFields layout rest
    return (string name ++ layout.afterName ++ part) :: parts
termination_by structural fs => fs

end

end DocumentClient.Json
