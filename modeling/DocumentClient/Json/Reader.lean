/-
  Reading JSON text.

  `parse` reads one value with blanks around it.  A number with a point or an
  exponent is a double, one without is whole; `NaN`, `Infinity` and `-Infinity`
  are doubles too.  Strings hold no bare control characters.  Of two fields of
  one name the later value counts, in the place of the earlier.  A surrogate that
  is not half of a pair is read as U+FFFD.
-/
import DocumentClient.Text.Hex
import DocumentClient.Text.Numeral
import DocumentClient.Value

namespace DocumentClient.Json

def isBlank (c : Char) : Bool := c == ' ' || c == '\t' || c == '\n' || c == '\r'

def skipBlanks (cs : List Char) : List Char := cs.dropWhile isBlank

/-- The characters after a given word. -/
def word : List Char → List Char → Option (List Char)
  | [], cs => some cs
  | w :: ws, c :: cs => if w = c then word ws cs else none
  | _ :: _, [] => none

/-! ## Strings -/

/-- Four hexadecimal digits. -/
def hexUnit : List Char → Option (Nat × List Char)
  | a :: b :: c :: d :: rest => do
    let a ← Text.hexValue? a
    let b ← Text.hexValue? b
    let c ← Text.hexValue? c
    let d ← Text.hexValue? d
    return (((a * 16 + b) * 16 + c) * 16 + d, rest)
  | _ => none

/-- The character a `\u` stands for; the second half of a pair is read too. -/
def unicodeEscape (cs : List Char) : Option (Char × List Char) := do
  let (first, rest) ← hexUnit cs
  if 0xd800 ≤ first ∧ first ≤ 0xdbff then
    match rest with
    | '\\' :: 'u' :: more =>
      match hexUnit more with
      | some (second, after) =>
        if 0xdc00 ≤ second ∧ second ≤ 0xdfff then
          return (Char.ofNat (0x10000 + (first - 0xd800) * 0x400 + (second - 0xdc00)), after)
        else return ('\ufffd', rest)
      | none => return ('\ufffd', rest)
    | _ => return ('\ufffd', rest)
  else if 0xdc00 ≤ first ∧ first ≤ 0xdfff then return ('\ufffd', rest)
  else return (Char.ofNat first, rest)

/-- The character after a backslash. -/
def escaped : List Char → Option (Char × List Char)
  | '"' :: rest => some ('"', rest)
  | '\\' :: rest => some ('\\', rest)
  | '/' :: rest => some ('/', rest)
  | 'b' :: rest => some ('\x08', rest)
  | 'f' :: rest => some ('\x0c', rest)
  | 'n' :: rest => some ('\n', rest)
  | 'r' :: rest => some ('\r', rest)
  | 't' :: rest => some ('\t', rest)
  | 'u' :: rest => unicodeEscape rest
  | _ => none

/-- The rest of a string after its opening quote. -/
def stringTail (acc : List Char) : Nat → List Char → Option (String × List Char)
  | 0, _ => none
  | _, [] => none
  | _ + 1, '"' :: rest => some (String.ofList acc.reverse, rest)
  | fuel + 1, '\\' :: rest => do
    let (c, rest) ← escaped rest
    stringTail (c :: acc) fuel rest
  | fuel + 1, c :: rest => if c.toNat < 0x20 then none else stringTail (c :: acc) fuel rest

/-! ## Numbers -/

/-- The value of a run of ASCII digits, how many there are, and the rest. -/
def digits (acc count : Nat) : List Char → Nat × Nat × List Char
  | [] => (acc, count, [])
  | c :: rest =>
    if '0' ≤ c ∧ c ≤ '9' then digits (acc * 10 + (c.toNat - '0'.toNat)) (count + 1) rest
    else (acc, count, c :: rest)

/-- The digits after a point: the value of all digits so far and their number. -/
def fractionPart (whole : Nat) : List Char → Option (Nat × Nat × List Char)
  | '.' :: rest =>
    match digits whole 0 rest with
    | (_, 0, _) => none
    | found => some found
  | _ => none

/-- An exponent with its sign. -/
def exponentPart : List Char → Option (Int × List Char)
  | c :: rest =>
    if c = 'e' ∨ c = 'E' then
      let (negative, rest) := match rest with
        | '-' :: rest => (true, rest)
        | '+' :: rest => (false, rest)
        | rest => (false, rest)
      match digits 0 0 rest with
      | (_, 0, _) => none
      | (n, _, rest) => some (if negative then -(n : Int) else n, rest)
    else none
  | [] => none

/-- A number after its sign: one zero, or digits that do not start with zero.  A whole
    number has no more digits than a numeral may have. -/
def number (negative : Bool) (cs : List Char) : Option (Value × List Char) := do
  let (whole, count, rest) ← match cs with
    | '0' :: rest => some (0, 1, rest)
    | cs => match digits 0 0 cs with
      | (_, 0, _) => none
      | found => some found
  let (mantissa, places, isWhole, rest) := match fractionPart whole rest with
    | some (n, places, rest) => (n, places, false, rest)
    | none => (whole, 0, true, rest)
  match exponentPart rest with
  | some (e, rest) => return (.double (.ofDecimal negative mantissa (e - places)), rest)
  | none =>
    if isWhole then
      if Text.longestNumeral < count then none
      else return (.int (if negative then -(whole : Int) else whole), rest)
    else return (.double (.ofDecimal negative mantissa (-(places : Int))), rest)

/-! ## Values -/

mutual

/-- A value that starts at the first character. -/
def value : Nat → List Char → Option (Value × List Char)
  | 0, _ => none
  | fuel + 1, cs =>
    match cs with
    | '"' :: rest => (stringTail [] (rest.length + 1) rest).map fun (s, rest) => (.text s, rest)
    | '\x7b' :: rest =>
      match skipBlanks rest with
      | '\x7d' :: rest => some (.doc [], rest)
      | rest => (fields fuel rest).map fun (fs, rest) => (.doc (Document.ofFields fs), rest)
    | '[' :: rest =>
      match skipBlanks rest with
      | ']' :: rest => some (.list [], rest)
      | rest => (items fuel rest).map fun (vs, rest) => (.list vs, rest)
    | 'n' :: rest => (word "ull".toList rest).map fun rest => (.null, rest)
    | 't' :: rest => (word "rue".toList rest).map fun rest => (.bool true, rest)
    | 'f' :: rest => (word "alse".toList rest).map fun rest => (.bool false, rest)
    | 'N' :: rest => (word "aN".toList rest).map fun rest => (.double .nan, rest)
    | 'I' :: rest => (word "nfinity".toList rest).map fun rest => (.double (.infinity false), rest)
    | '-' :: 'I' :: rest =>
      (word "nfinity".toList rest).map fun rest => (.double (.infinity true), rest)
    | '-' :: rest => number true rest
    | cs => number false cs

/-- The items of a list, up to its closing bracket. -/
def items : Nat → List Char → Option (List Value × List Char)
  | 0, _ => none
  | fuel + 1, cs => do
    let (v, rest) ← value fuel cs
    match skipBlanks rest with
    | ',' :: rest =>
      let (vs, rest) ← items fuel (skipBlanks rest)
      return (v :: vs, rest)
    | ']' :: rest => return ([v], rest)
    | _ => none

/-- The fields of a document, up to its closing brace. -/
def fields : Nat → List Char → Option (List (String × Value) × List Char)
  | 0, _ => none
  | fuel + 1, cs =>
    match cs with
    | '"' :: rest => do
      let (name, rest) ← stringTail [] (rest.length + 1) rest
      match skipBlanks rest with
      | ':' :: rest =>
        let (v, rest) ← value fuel (skipBlanks rest)
        match skipBlanks rest with
        | ',' :: rest =>
          let (fs, rest) ← fields fuel (skipBlanks rest)
          return ((name, v) :: fs, rest)
        | '\x7d' :: rest => return ([(name, v)], rest)
        | _ => none
      | _ => none
    | _ => none

end

/-- The value a text denotes. -/
def parse (text : String) : Option Value :=
  let cs := text.toList
  match value (2 * cs.length + 2) (skipBlanks cs) with
  | some (v, rest) => if (skipBlanks rest).isEmpty then some v else none
  | none => none

end DocumentClient.Json
