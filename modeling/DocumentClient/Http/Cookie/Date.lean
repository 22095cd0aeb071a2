/-
  Dates — the end of the life of a cookie, as a header tells it.

  A strict date is written `Wed, 09 Feb 1994 22:23:32 GMT`.  A loose one may lack the
  weekday, the time and the zone, and have other marks between its parts, a month in
  digits and a year of few digits, which is the one nearest to the present year.  Dates are
  counted in seconds from the beginning of 1970; there are none before it.
-/
import DocumentClient.Text.Numeral
import DocumentClient.Text.Space

namespace DocumentClient.Http.Cookie.Date

/-! ## The calendar -/

/-- Whether a year has a day more. -/
def isLeap (year : Nat) : Bool := year % 4 == 0 && (year % 100 != 0 || year % 400 == 0)

/-- The days of the months of a year. -/
def monthLengths (year : Nat) : List Nat :=
  [31, if isLeap year then 29 else 28, 31, 30, 31, 30, 31, 31, 30, 31, 30, 31]

/-- The days before a year, the first of which is year one. -/
def daysBeforeYear (year : Nat) : Nat :=
  let past := year - 1
  365 * past + past / 4 - past / 100 + past / 400

/-- The first year in which there are dates. -/
def firstYear : Nat := 1970

/-- The last year in which there are dates. -/
def lastYear : Nat := 9999

/-- A day and a time of that day. -/
structure Moment where
  year : Nat
  /-- The month, from one on. -/
  month : Nat
  day : Nat
  hour : Nat
  minute : Nat
  second : Nat
  deriving DecidableEq

/-- Whether a moment has its date. -/
def Moment.isDated (m : Moment) : Bool :=
  firstYear ≤ m.year && 1 ≤ m.month && m.month ≤ 12 && 1 ≤ m.day && m.day ≤ 31
    && m.hour ≤ 24 && m.minute ≤ 59 && m.second ≤ 61

/-- The seconds up to a moment; a day beyond its month is counted on. -/
def Moment.seconds (m : Moment) : Int :=
  let months : Nat := ((monthLengths m.year).take (m.month - 1)).foldl (· + ·) 0
  let days : Int := (daysBeforeYear m.year + months + m.day : Nat) - daysBeforeYear firstYear - 1
  ((days * 24 + m.hour) * 60 + m.minute) * 60 + m.second

/-- The seconds up to a moment that has its date. -/
def Moment.seconds? (m : Moment) : Option Int := if m.isDated then some m.seconds else none

/-- The moment at which everything here takes place. -/
def present : Moment := ⟨2026, 1, 1, 0, 0, 0⟩

/-- A year of up to three digits stands for one that ends in them: the nearest to the
    present year within half a century. -/
def fullYear (year : Nat) : Nat :=
  if 1000 ≤ year then year
  else
    let ending := present.year % 100
    let full := present.year - ending + year
    if year + 50 < ending then full + 100
    else if ending + 50 < year then full - 100
    else full

/-! ## Parts -/

/-- The names of the months. -/
def monthNames : List String :=
  ["jan", "feb", "mar", "apr", "may", "jun", "jul", "aug", "sep", "oct", "nov", "dec"]

/-- The month of a name. -/
def monthOf? (name : List Char) : Option Nat :=
  (monthNames.findIdx? (· == (String.ofList name).toLower)).map (· + 1)

/-- The value of digits. -/
def valueOf (digits : List Char) : Nat :=
  digits.foldl (fun n c => 10 * n + (c.toNat - '0'.toNat)) 0

/-- Whether a character is one of a word. -/
def isWordChar (c : Char) : Bool := c.isAlphanum || c == '_'

/-- Whether a character is a gap between parts. -/
def isGap (c : Char) : Bool := c == ' ' || (0x09 ≤ c.toNat && c.toNat ≤ 0x0d)

/-- What follows gaps. -/
def skipGaps (text : List Char) : List Char := text.dropWhile isGap

/-- What follows a mark between two parts: gaps, or one of some characters. -/
def skipMark (marks : List Char) (text : List Char) : Option (List Char) :=
  match text with
  | [] => none
  | c :: rest =>
    if isGap c then some (skipGaps rest) else if marks.contains c then some rest else none

/-- Takes off the characters of a class that a text begins with, if there are at least
    and at most so many. -/
def takeRun (inClass : Char → Bool) (least most : Nat) (text : List Char) :
    Option (List Char × List Char) :=
  let run := text.takeWhile inClass
  if least ≤ run.length && run.length ≤ most then some (run, text.drop run.length) else none

/-- Two digits. -/
def twoDigits (text : List Char) : Option (Nat × List Char) :=
  match text with
  | a :: b :: rest => if a.isDigit && b.isDigit then some (valueOf [a, b], rest) else none
  | _ => none

/-! ## Strict dates -/

/-- Why a text is no date. -/
inductive Unreadable where
  /-- It is none. -/
  | foreign
  /-- It is one but for the name of its month, or for the digits of its year. -/
  | broken
  deriving DecidableEq

/-- Whether a text has the form of a strict date: `0` stands for a digit, `a` for a small
    letter, `W` and `M` for the first letters of weekdays and months, and all else for
    itself. -/
def hasForm : List Char → List Char → Bool
  | [], [] => true
  | form :: forms, c :: rest =>
    (match form with
      | '0' => c.isDigit
      | 'a' => c.isLower
      | 'W' => "SMTWF".toList.contains c
      | 'M' => "JFMASOND".toList.contains c
      | literal => c == literal) && hasForm forms rest
  | _, _ => false

/-- The form of strict dates. -/
def strictForm : List Char := "Waa, 00 Maa 0000 00:00:00 GMT".toList

/-- The part of a text from one place up to another. -/
def between (start stop : Nat) (text : List Char) : List Char := (text.take stop).drop start

/-- Reads a text in the form of strict dates. -/
def readStrict (text : List Char) : Except Unreadable Int :=
  match monthOf? (between 8 11 text) with
  | none => .error .broken
  | some month =>
    let moment : Moment :=
      { year := valueOf (between 12 16 text)
        month := month
        day := valueOf (between 5 7 text)
        hour := valueOf (between 17 19 text)
        minute := valueOf (between 20 22 text)
        second := valueOf (between 23 25 text) }
    match moment.seconds? with
    | some seconds => .ok seconds
    | none => .error .foreign

/-! ## Loose dates -/

/-- The names of the weekdays. -/
def weekdays : List String := ["sun", "mon", "tue", "wed", "thu", "fri", "sat"]

/-- What follows the weekday a text may begin with. -/
def skipWeekday (text : List Char) : List Char :=
  if weekdays.contains (String.ofList (text.take 3)).toLower then
    let rest := (text.drop 3).dropWhile Char.isAlpha
    skipGaps (match rest with
      | ',' :: rest => rest
      | rest => rest)
  else text

/-- The month that a word names, by its name or its number. -/
def looseMonth? (word : List Char) : Option Nat :=
  match monthOf? word with
  | some month => some month
  | none =>
    match Text.readInt (String.ofList word) with
    | .ok n => if 1 ≤ n ∧ n ≤ 12 then some n.toNat else none
    | .error _ => none

/-- The time that a text may go on with, and what follows it. -/
def takeClock (text : List Char) : (Nat × Nat × Nat) × List Char :=
  let clock? : Option ((Nat × Nat × Nat) × List Char) := do
    let rest ← skipMark [':'] text
    let (hour, rest) ← takeRun Char.isDigit 1 2 rest
    let (minute, rest) ← match rest with
      | ':' :: rest => twoDigits rest
      | _ => none
    let (second, rest) := match rest with
      | ':' :: more => (twoDigits more).getD (0, rest)
      | _ => (0, rest)
    return ((valueOf hour, minute, second), rest)
  clock?.getD ((0, 0, 0), text)

/-- The zones that are no hours away. -/
def nearZones : List String := ["gmt", "utc", "ut", "z"]

/-- How many seconds a zone is away, told by its digits: hours, and minutes in the last
    two of more than two digits. -/
def zoneOfDigits (digits : List Char) : Int :=
  let hours := if digits.length ≤ 2 then digits else digits.take (digits.length - 2)
  let minutes := if digits.length ≤ 2 then [] else digits.drop (digits.length - 2)
  3600 * valueOf hours + 60 * valueOf minutes

/-- The zone that a text may go on with, and what follows it.  The zone is none if it is
    not known how far it is away. -/
def takeZone (text : List Char) : Option (Option Int × List Char) :=
  let signed (sign : Int) (text : List Char) : Option (Option Int × List Char) :=
    (takeRun Char.isDigit 2 4 text).map fun (digits, rest) =>
      (some (sign * zoneOfDigits digits), skipGaps rest)
  match text with
  | '+' :: rest => signed 1 rest
  | '-' :: rest => signed (-1) rest
  | c :: _ =>
    if c.isDigit then signed 1 text
    else if c.isAlpha then
      let name := (String.ofList (text.takeWhile Char.isAlpha)).toLower
      let rest := text.dropWhile Char.isAlpha
      if name == "am" || name == "pm" then none
      else some (if nearZones.contains name then some 0 else none, skipGaps rest)
    else some (some 0, text)
  | [] => some (some 0, [])

/-- Whether nothing is left but a word in brackets. -/
def endsWell (text : List Char) : Bool :=
  match text with
  | [] => true
  | '(' :: rest =>
    match takeRun isWordChar 1 rest.length rest with
    | some (_, ')' :: rest) => (skipGaps rest).isEmpty
    | _ => false
  | _ => false

/-- The parts of a loose date: day, month, year, time and zone. -/
def looseParts? (text : List Char) :
    Option (List Char × List Char × List Char × (Nat × Nat × Nat) × Option Int) := do
  let (day, rest) ← takeRun Char.isDigit 1 2 (skipWeekday (text.dropWhile Text.isSpace))
  let rest ← skipMark ['-', '/'] rest
  let (month, rest) ← takeRun isWordChar 1 rest.length rest
  let rest ← skipMark ['-', '/'] rest
  let (year, rest) ← takeRun Char.isDigit 1 rest.length rest
  let (clock, rest) := takeClock rest
  let (zone, rest) ← takeZone (skipGaps rest)
  if endsWell rest then return (day, month, year, clock, zone) else none

/-- Reads a loose date. -/
def readLoose (text : List Char) : Except Unreadable Int :=
  match looseParts? text with
  | none => .error .foreign
  | some (day, month, year, (hour, minute, second), zone) =>
    if Text.longestNumeral < year.length then .error .broken
    else
      let found : Option Int := do
        let year := valueOf year
        if lastYear < year then none
        let month ← looseMonth? month
        let seconds ← Moment.seconds?
          ⟨fullYear year, month, valueOf day, hour, minute, second⟩
        return seconds - (← zone)
      match found with
      | some seconds => .ok seconds
      | none => .error .foreign

/-- The seconds up to a date. -/
def read (text : List Char) : Except Unreadable Int :=
  if hasForm strictForm text then readStrict text else readLoose text

end DocumentClient.Http.Cookie.Date
