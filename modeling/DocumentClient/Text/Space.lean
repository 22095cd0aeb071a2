/-
  Space — the characters that stand around the parts of a header.

  These are the blank, the five ASCII controls from tab to return, and the four ASCII
  separators.  `trimSpace` drops them on both sides.
-/

namespace DocumentClient.Text

/-- Whether a character of ASCII is space. -/
def isSpace (c : Char) : Bool :=
  c == ' ' || (0x09 ≤ c.toNat && c.toNat ≤ 0x0d) || (0x1c ≤ c.toNat && c.toNat ≤ 0x1f)

/-- Drops space on both sides. -/
def trimSpace (text : List Char) : List Char :=
  ((text.dropWhile isSpace).reverse.dropWhile isSpace).reverse

end DocumentClient.Text
