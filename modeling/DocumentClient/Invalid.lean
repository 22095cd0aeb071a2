/-
  Inadmissible values — why a value handed to the client is refused.

  Each constructor is one cause; `Invalid.message` holds the wording of all of
  them.
-/
import DocumentClient.Text.Numeral
import DocumentClient.Value.Display

namespace DocumentClient

/-- Why a value is inadmissible. -/
inductive Invalid where
  /-- The text is no whole number. -/
  | numeral (text : String)
  /-- The whole number has more digits than are read. -/
  | tooManyDigits (count : Nat)
  /-- A double that is not a number has no whole part. -/
  | wholePartOfNaN
  | emptyDatabase
  | emptyCollection
  /-- The full name of a namespace has no dot. -/
  | noCollection (shownName : String)
  /-- A cursor id of zero stands for no cursor. -/
  | zeroCursorId
  /-- The value names no member of an enumeration. -/
  | noMember (value : Value) (enumeration : String) (members : List String)
  | primaryWithTags
  | negativePollInterval
  | negativeRequestTimeout
  /-- A field name that the rules of a command do not admit. -/
  | fieldName (name : String)
  /-- The item at a place, which should be a name and a value, has so many parts. -/
  | notPair (place count : Nat)
  /-- A server cursor was left open, and there is no way to reach it. -/
  | sourceRequired
  | noSource
  | noBatch
  /-- A double that is not finite cannot be sent. -/
  | notFinite
  /-- A decoder that refuses documents with a certain field met one. -/
  | decoderRejected (field : String)
  | transformerFailed
  /-- The URL of a request does not say by which protocol it is reached. -/
  | noProtocol (url : String)

/-- How much of a text is shown that is no whole number. -/
def shownNumeralLength : Nat := 200

/-- The wording of each cause. -/
def Invalid.message : Invalid → String
  | .numeral text =>
    let shown := (Text.quoted text).toList.take shownNumeralLength
    "invalid literal for int() with base 10: " ++ String.ofList shown
  | .tooManyDigits count =>
    s!"Exceeds the limit ({Text.longestNumeral} digits) for integer string conversion: "
      ++ s!"value has {count} digits; use sys.set_int_max_str_digits() to increase the limit"
  | .wholePartOfNaN => "cannot convert float NaN to integer"
  | .emptyDatabase => "The database name of a namespace cannot be empty."
  | .emptyCollection => "The collection name of a namespace cannot be empty."
  | .noCollection name => s!"Invalid namespace '{name}': no collection name."
  | .zeroCursorId => "A server cursor cannot have a zero id."
  | .noMember value enumeration members =>
    s!"Invalid value '{value.plain}' for {enumeration}. Allowed values are: {shownTexts members}"
  | .primaryWithTags => "Read preference 'primary' cannot be combined with tags."
  | .negativePollInterval => "The tailable poll interval cannot be negative."
  | .negativeRequestTimeout => "The request timeout cannot be negative."
  | .fieldName name => s!"Invalid document field name: '{name}'."
  | .notPair place count =>
    s!"dictionary update sequence element #{place} has length {count}; 2 is required"
  | .sourceRequired =>
    "A connection source is required when the first result leaves a server cursor open."
  | .noSource => "No connection source available to the cursor."
  | .noBatch => "No batch to take."
  | .notFinite => "Out of range float values are not JSON compliant"
  | .decoderRejected field => s!"decoder rejected field {field}"
  | .transformerFailed => "transformer failed"
  | .noProtocol url => "unknown url type: " ++ Text.quoted url

/-- Why a text that was misread is inadmissible. -/
def Invalid.ofMisreading (text : String) : Text.Misreading → Invalid
  | .notNumeral => .numeral text
  | .tooLong digits => .tooManyDigits digits

/-- The whole number in a text. -/
def readWhole (text : String) : Except Invalid Int :=
  (Text.readInt text).mapError (Invalid.ofMisreading text)

end DocumentClient
