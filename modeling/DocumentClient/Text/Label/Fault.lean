/-
  Faults of host names — why a name in other characters than ASCII is refused.

  A name is a row of labels.  Each constructor is one cause; `Fault.message` holds the
  wording of all of them.
-/
import DocumentClient.Text.Direction
import DocumentClient.Text.Quoted

namespace DocumentClient.Text.Label

/-- Why a name, or a label of it, is refused. -/
inductive Fault where
  | nameTooLong
  | emptyLabel
  | labelTooLong
  /-- Some characters could be joined. -/
  | notComposed
  /-- There are hyphens at the third and the fourth place. -/
  | hyphensInside
  | outerHyphen
  | leadingMark
  /-- Labels do not hold a character. -/
  | character (point position : Nat) (label : List Nat)
  /-- A character stands at a place where it must not. -/
  | misplaced (point position : Nat) (label : List Nat)
  /-- A joiner stands beside a character that it cannot join. -/
  | joiner (point position : Nat) (label : List Nat)
  | direction (fault : DirectionFault) (label : List Nat)
  /-- There is nothing after the mark of the ASCII form. -/
  | emptyAsciiForm
  | asciiFormHyphen
  | asciiForm
  /-- The label has another ASCII form. -/
  | otherAsciiForm
  deriving DecidableEq

/-- A code point as it is cited. -/
def cited (c : Nat) : String := "U+" ++ String.ofList ((hex 4 c).map Char.toUpper)

/-- How a text breaks the rule of directions. -/
def directionMessage (label : List Nat) : DirectionFault → String
  | .unknown position => s!"Unknown directionality in label {quotedPoints label} at position {position}"
  | .start => s!"First codepoint in label {quotedPoints label} must be directionality L, R or AL"
  | .misplaced position rightToLeft =>
    let way := if rightToLeft then "right-to-left" else "left-to-right"
    s!"Invalid direction for codepoint at position {position} in a {way} label"
  | .mixedNumbers => "Can not mix numeral types in a right-to-left label"
  | .ending => "Label ends with illegal codepoint directionality"

/-- The wording of a fault. -/
def Fault.message : Fault → String
  | nameTooLong => "Domain too long"
  | emptyLabel => "Empty Label"
  | labelTooLong => "Label too long"
  | notComposed => "Label must be in Normalization Form C"
  | hyphensInside => "Label has disallowed hyphens in 3rd and 4th position"
  | outerHyphen => "Label must not start or end with a hyphen"
  | leadingMark => "Label begins with an illegal combining character"
  | character point position label =>
    s!"Codepoint {cited point} at position {position} of {quotedPoints label} not allowed"
  | misplaced point position label =>
    s!"Codepoint {cited point} not allowed at position {position} in {quotedPoints label}"
  | joiner point position label =>
    s!"Unknown codepoint adjacent to joiner {cited point} at position {position} "
      ++ s!"in {quotedPoints label}"
  | direction fault label => directionMessage label fault
  | emptyAsciiForm => "Malformed A-label, no Punycode eligible content found"
  | asciiFormHyphen => "A-label must not end with a hyphen"
  | asciiForm => "Invalid A-label"
  | otherAsciiForm => "A-label is not the canonical Punycode encoding of its U-label"

end DocumentClient.Text.Label
