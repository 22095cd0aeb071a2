/-
  Quoted text — a text as it is shown inside a message.

  Single quotes enclose the text, double quotes if it holds a single quote and
  no double one.  The enclosing quote and the backslash are escaped, so are line
  feed, return and tab, and unprintable characters are written by code point with
  two, four or eight hexadecimal digits.
-/
import DocumentClient.Text.Hex
import DocumentClient.Text.Printable

namespace DocumentClient.Text

/-- A character inside quotes. -/
def quoteChar (quote c : Char) : List Char :=
  if c = quote ∨ c = '\\' then ['\\', c]
  else if c = '\n' then ['\\', 'n']
  else if c = '\r' then ['\\', 'r']
  else if c = '\t' then ['\\', 't']
  else if isPrintable c then [c]
  else if c.toNat < 0x100 then '\\' :: 'x' :: hex 2 c.toNat
  else if c.toNat < 0x10000 then '\\' :: 'u' :: hex 4 c.toNat
  else '\\' :: 'U' :: hex 8 c.toNat

/-- The quote a text is enclosed in. -/
def quoteFor (cs : List Char) : Char :=
  if cs.contains '\'' && !cs.contains '"' then '"' else '\''

/-- A text in quotes. -/
def quoted (text : String) : String :=
  let cs := text.toList
  let quote := quoteFor cs
  String.ofList (quote :: cs.flatMap (quoteChar quote) ++ [quote])

/-- A code point inside quotes; one that is no character is written by its number. -/
def quotePoint (quote : Char) (c : Nat) : List Char :=
  if c.isValidChar then quoteChar quote (Char.ofNat c) else '\\' :: 'u' :: hex 4 c

/-- Code points in quotes. -/
def quotedPoints (points : List Nat) : String :=
  let quote := quoteFor (points.map Char.ofNat)
  String.ofList (quote :: points.flatMap (quotePoint quote) ++ [quote])

end DocumentClient.Text
