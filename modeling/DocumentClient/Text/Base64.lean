/-
  Base 64 — bytes in letters, digits, `+` and `/`.

  Three bytes make four characters of six bits each; one or two bytes left over are
  filled up with zero bits, and with `=` to four characters.
-/

namespace DocumentClient.Text.Base64

/-- The character of six bits. -/
def sextet (n : Nat) : Char :=
  if n < 26 then Char.ofNat (65 + n)
  else if n < 52 then Char.ofNat (97 + (n - 26))
  else if n < 62 then Char.ofNat (48 + (n - 52))
  else if n = 62 then '+'
  else '/'

/-- The first characters of a number of 24 bits. -/
def sextets (count n : Nat) : List Char :=
  [n / 262144, n / 4096 % 64, n / 64 % 64, n % 64].take count |>.map sextet

/-- Bytes as text. -/
def encode : List UInt8 → List Char
  | a :: b :: c :: rest => sextets 4 (65536 * a.toNat + 256 * b.toNat + c.toNat) ++ encode rest
  | [a, b] => sextets 3 (65536 * a.toNat + 256 * b.toNat) ++ ['=']
  | [a] => sextets 2 (65536 * a.toNat) ++ ['=', '=']
  | [] => []

end DocumentClient.Text.Base64
