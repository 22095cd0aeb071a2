/-
  Numerals — whole numbers in text.

  A numeral is an optional sign and digits of any script, where a single `_` may
  stand between two digits; blanks around it do not count.  `readInt` reads a
  numeral of at most `longestNumeral` digits.  Longer digits are refused for their
  number, whatever follows them; `Int` values are written by `toString` in ASCII.
-/
import DocumentClient.Text.Blank
import DocumentClient.Text.Digit

namespace DocumentClient.Text

/-- Why no number is read from a text. -/
inductive Misreading where
  | notNumeral
  | tooLong (digits : Nat)
  deriving DecidableEq

/-- How many digits are read at most. -/
def longestNumeral : Nat := 4300

/-- Takes the digits off that a text goes on with: the value and the number of all
    digits so far, and what follows them; none if a `_` does not stand between two
    digits. -/
def digitsFrom (value count : Nat) : List Char → Option (Nat × Nat × List Char)
  | [] => some (value, count, [])
  | '_' :: c :: rest =>
    (digit? c).bind fun d => digitsFrom (10 * value + d) (count + 1) rest
  | ['_'] => none
  | c :: rest =>
    match digit? c with
    | some d => digitsFrom (10 * value + d) (count + 1) rest
    | none => some (value, count, c :: rest)

/-- The value of digits that nothing but blanks follows. -/
def readNat : List Char → Except Misreading Nat
  | [] => .error .notNumeral
  | c :: rest =>
    match (digit? c).bind fun d => digitsFrom d 1 rest with
    | none => .error .notNumeral
    | some (value, count, rest) =>
      if longestNumeral < count then .error (.tooLong count)
      else if rest.all isBlank then .ok value
      else .error .notNumeral

/-- The value of a numeral. -/
def readInt (text : String) : Except Misreading Int :=
  match text.toList.dropWhile isBlank with
  | '-' :: rest => (readNat rest).map fun n => -(n : Int)
  | '+' :: rest => (readNat rest).map Int.ofNat
  | rest => (readNat rest).map Int.ofNat

end DocumentClient.Text
