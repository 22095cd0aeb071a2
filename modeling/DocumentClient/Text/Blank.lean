/-
  Blanks — the characters skipped around a numeral.

  These are the six ASCII blanks and, above ASCII, all characters with the
  White_Space property.  The ASCII separators U+001C to U+001F are none of them.
-/

namespace DocumentClient.Text

/-- Whether a character is skipped around a numeral. -/
def isBlank (c : Char) : Bool :=
  let n := c.toNat
  n == 0x20 || (0x09 ≤ n && n ≤ 0x0d) || n == 0x85 || n == 0xa0 || n == 0x1680
    || (0x2000 ≤ n && n ≤ 0x200a) || n == 0x2028 || n == 0x2029 || n == 0x202f
    || n == 0x205f || n == 0x3000

end DocumentClient.Text
