/-
  Names — rows of labels, with dots between them.

  A name beyond ASCII is sent label by label in its ASCII form, which a mark begins,
  and shown as it was meant.  `sentName` and `meantName` go the two ways; both refuse
  a name with a label that is none, and a label has only one ASCII form.
-/
import DocumentClient.Text.Label.Check
import DocumentClient.Text.Punycode
import DocumentClient.Text.Split

namespace DocumentClient.Text.Label

/-- What begins a label in its ASCII form. -/
def asciiFormMark : List Char := "xn--".toList

/-- A label of ASCII characters as it was meant. -/
def meant (label : List Char) : Except Fault (List Nat) := do
  let label := label.map Char.toLower
  if asciiFormMark.isPrefixOf label then
    let form := label.drop asciiFormMark.length
    if form.isEmpty then .error .emptyAsciiForm
    if form.getLast? = some '-' then .error .asciiFormHyphen
    match Punycode.decode? form with
    | none => .error .asciiForm
    | some points => do
      check points
      if Punycode.encode points = form then .ok points else .error .otherAsciiForm
  else
    let points := label.map Char.toNat
    check points
    return points

/-- How long a label is at most when it is sent. -/
def longestLabel : Nat := 63

/-- A label in its ASCII form. -/
def sent (label : List Char) : Except Fault (List Char) := do
  let form ← if label.all fun c => c.toNat < Punycode.firstPoint then do
      let _ ← meant label
      pure label
    else do
      let points := label.map Char.toNat
      check points
      pure (asciiFormMark ++ Punycode.encode points)
  if longestLabel < form.length then .error .labelTooLong else .ok form

/-- The characters that separate labels. -/
def isDot (c : Char) : Bool := "\u002e\u3002\uff0e\uff61".toList.contains c

/-- The labels of a name, and whether a dot ends it. -/
def split (name : List Char) : List (List Char) × Bool :=
  let labels := splitAll '.' (name.map fun c => if isDot c then '.' else c)
  if labels.getLast? = some [] then (labels.dropLast, true) else (labels, false)

/-- Refuses a name that is too long. -/
def checkLength (length limit : Nat) : Except Fault Unit :=
  if limit < length then .error .nameTooLong else .ok ()

/-- A name in its ASCII form. -/
def sentName (name : List Char) : Except Fault (List Char) := do
  checkLength name.length longestName
  let (labels, dotted) := split name
  let forms ← labels.mapM sent
  let form := join '.' (if dotted then forms ++ [[]] else forms)
  checkLength form.length (if dotted then longestName else longestName - 1)
  return form

/-- A name of ASCII characters as it was meant. -/
def meantName (name : List Char) : Except Fault (List Char) := do
  checkLength name.length longestName
  let (labels, dotted) := split name
  let labels ← labels.mapM meant
  let labels := labels.map fun label => label.map Char.ofNat
  return join '.' (if dotted then labels ++ [[]] else labels)

end DocumentClient.Text.Label
