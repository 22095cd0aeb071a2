/-
  Labels — the parts of a host name between the dots.

  A label is text in its composed form that begins with no mark, has no hyphen at an
  end nor two at the third and the fourth place, and runs in one direction.  It holds
  letters (`isLetter`), and at certain places a few other characters: joiners after
  a cut off vowel or between letters that join, and some punctuation and digits
  (`fitsHere`).
-/
import DocumentClient.Text.Combining
import DocumentClient.Text.Composed
import DocumentClient.Text.Joining
import DocumentClient.Text.Label.Fault
import DocumentClient.Text.Label.Letters
import DocumentClient.Text.Script

namespace DocumentClient.Text.Label

/-! ## Characters at certain places -/

/-- The joiner that keeps two letters apart. -/
def nonJoiner : Nat := 0x200c

/-- The joiner that draws two letters together. -/
def wideJoiner : Nat := 0x200d

def isJoiner (c : Nat) : Bool := c == nonJoiner || c == wideJoiner

def isArabicDigit (c : Nat) : Bool := 0x660 ≤ c && c ≤ 0x669

def isPersianDigit (c : Nat) : Bool := 0x6f0 ≤ c && c ≤ 0x6f9

def middleDot : Nat := 0xb7

def numeralSign : Nat := 0x375

/-- The two signs that stand after Hebrew letters. -/
def isHebrewSign (c : Nat) : Bool := c == 0x5f3 || c == 0x5f4

def kanaMiddleDot : Nat := 0x30fb

/-- Whether a character needs a certain place. -/
def needsPlace (c : Nat) : Bool :=
  c == middleDot || c == numeralSign || isHebrewSign c || c == kanaMiddleDot
    || isArabicDigit c || isPersianDigit c

/-- Whether a character may stand between two texts, the first one reversed. -/
def fitsHere (before : List Nat) (c : Nat) (after : List Nat) : Bool :=
  if c = middleDot then before.head? == some 'l'.toNat && after.head? == some 'l'.toNat
  else if c = numeralSign then after.head?.any isGreek
  else if isHebrewSign c then before.head?.any isHebrew
  else if c = kanaMiddleDot then
    (before ++ after).any fun d => d != kanaMiddleDot && isJapanese d
  else if isArabicDigit c then !(before ++ after).any isPersianDigit
  else !(before ++ after).any isArabicDigit

/-- Whether a joiner may stand between two texts, the first one reversed. -/
def joinsHere (before : List Nat) (c : Nat) (after : List Nat) : Bool :=
  before.head?.any (combiningClass · == viramaClass)
    || (c == nonJoiner && joinsNext before && joinsPrevious after)

/-! ## Labels -/

/-- Refuses a character between two texts, the first one reversed. -/
def checkCharacter (label before : List Nat) (c : Nat) (after : List Nat) : Except Fault Unit :=
  let position := before.length + 1
  if isLetter c then .ok ()
  else if isJoiner c then
    if joinsHere before c after then .ok () else .error (.joiner c position label)
  else if needsPlace c then
    if fitsHere before c after then .ok () else .error (.misplaced c position label)
  else .error (.character c position label)

/-- Goes through the characters of a label, after those in `before`, the last one first. -/
def checkCharacters (label before : List Nat) : List Nat → Except Fault Unit
  | [] => .ok ()
  | c :: rest => do
    checkCharacter label before c rest
    checkCharacters label (c :: before) rest

/-- How long a name is at most, with a dot at its end. -/
def longestName : Nat := 254

def hyphen : Nat := 0x2d

/-- Refuses a text that is no label. -/
def check (label : List Nat) : Except Fault Unit := do
  if label.isEmpty then .error .emptyLabel
  if longestName < label.length then .error .labelTooLong
  if !isComposed label then .error .notComposed
  if (label.drop 2).take 2 == [hyphen, hyphen] then .error .hyphensInside
  if label.head? == some hyphen || label.getLast? == some hyphen then .error .outerHyphen
  if label.head?.any isMark then .error .leadingMark
  checkCharacters label [] label
  (checkDirections (label.map direction)).mapError fun fault => .direction fault label

end DocumentClient.Text.Label
