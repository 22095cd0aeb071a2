/-
  Hosts — the names and numbers a URL can name a machine by.

  A host is a group of four numbers, an address of eight hexadecimal groups in
  brackets, or a name.  A text that looks like one of the first two must be one;
  a name is written in lower case.  A name beyond ASCII is sent in its ASCII form
  (`readName`), and shown as it was meant if its first label is in that form
  (`showName`).
-/
import DocumentClient.Failure
import DocumentClient.Http.Percent
import DocumentClient.Text.Case
import DocumentClient.Text.Label.Name

namespace DocumentClient.Http

/-! ## Four numbers -/

/-- Whether a text is four runs of digits with dots between them. -/
def looksDotted (text : List Char) : Bool :=
  let parts := Text.splitAll '.' text
  parts.length == 4 && parts.all fun part => !part.isEmpty && part.all Char.isDigit

/-- Whether a text is a number up to 255 without needless zeros. -/
def isOctet (text : List Char) : Bool :=
  !text.isEmpty && text.all Char.isDigit && text.length ≤ 3
    && (text.length == 1 || text.head? != some '0')
    && (text.foldl (fun n c => 10 * n + (c.toNat - '0'.toNat)) 0) ≤ 255

/-- Whether a text is four numbers with dots between them. -/
def isDotted (text : List Char) : Bool :=
  let parts := Text.splitAll '.' text
  parts.length == 4 && parts.all isOctet

/-! ## Hexadecimal groups -/

/-- Whether a text is one to four hexadecimal digits. -/
def isGroup (text : List Char) : Bool :=
  let isHex (c : Char) : Bool := c.isDigit || ('a' ≤ c.toLower && c.toLower ≤ 'f')
  !text.isEmpty && text.all isHex && text.length ≤ 4

/-- The groups of an address: one in dots at the end counts as two. -/
def groupsOf (text : List Char) : Option (List (List Char)) :=
  let parts := Text.splitAll ':' text
  match parts.getLast? with
  | some last =>
    if last.contains '.' then
      if isDotted last then some (parts.dropLast ++ [['0'], ['0']]) else none
    else some parts
  | none => none

/-- Whether the groups on one side of `::` are groups; `outer` is the group at the
    end of the address, which is empty only if it stands alone. -/
def isSide (outer : Option (List Char)) (side : List (List Char)) : Bool :=
  if outer == some [] then side.length == 1 else side.all isGroup

/-- Whether groups make an address: eight of them, or fewer around one gap. -/
def areGroups (groups : List (List Char)) : Bool :=
  let inner := groups.drop 1 |>.dropLast
  match inner.findIdx? List.isEmpty with
  | none => groups.length == 8 && groups.all isGroup
  | some i =>
    let before := groups.take (i + 1)
    let after := groups.drop (i + 2)
    let count (side : List (List Char)) : Nat := (side.filter (!·.isEmpty)).length
    !(inner.drop (i + 1)).any List.isEmpty
      && isSide before.head? before && isSide after.getLast? after
      && count before + count after < 8

/-- Whether a text is an address of hexadecimal groups; a zone may follow it. -/
def isGrouped (text : List Char) : Bool :=
  let (address, zoned) := match Text.splitFirst '%' text with
    | none => (text, true)
    | some (address, zone) => (address, !zone.isEmpty && !zone.contains '%')
  zoned && !address.isEmpty
    && (Text.splitAll ':' address).length ≥ 3
    && match groupsOf address with
      | some groups => groups.length ≤ 9 && areGroups groups
      | none => false

/-! ## Names -/

/-- The name a text stands for. -/
def readName (text : List Char) : Outcome (List Char) :=
  let lowered := Text.lower text
  if text.all fun c => c.toNat < 0x80 then .ok (encode inHost lowered)
  else match Text.Label.sentName lowered with
    | .ok name => .ok name
    | .error _ =>
      .error (.malformedUrl s!"Invalid IDNA hostname: {Text.quoted (String.ofList text)}")

/-- A name as it was meant, if it begins in ASCII form. -/
def showName (name : String) : Outcome String :=
  if Text.Label.asciiFormMark.isPrefixOf name.toList then
    match Text.Label.meantName name.toList with
    | .ok meant => .ok (String.ofList meant)
    | .error fault => .error (.hostName fault)
  else .ok name

/-! ## Hosts -/

/-- Whether a text is enclosed in brackets. -/
def isBracketed (text : List Char) : Bool :=
  2 ≤ text.length && text.head? == some '[' && text.getLast? == some ']'

/-- The host a text stands for. -/
def readHost (text : List Char) : Outcome String :=
  if looksDotted text then
    if isDotted text then .ok (String.ofList text)
    else .error (.malformedUrl s!"Invalid IPv4 address: {Text.quoted (String.ofList text)}")
  else if isBracketed text then
    let inside := (text.drop 1).dropLast
    if isGrouped inside then .ok (String.ofList inside)
    else .error (.malformedUrl s!"Invalid IPv6 address: {Text.quoted (String.ofList text)}")
  else (readName text).map String.ofList

end DocumentClient.Http
