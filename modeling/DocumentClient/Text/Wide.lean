/-
  Wide text — text in units of two or four bytes.

  `readPairs` reads units of 16 bits, where two halves make one character beyond
  U+FFFF; `readQuads` reads one character from each unit of 32 bits.  Bytes that
  do not fill a unit make the text unreadable; a half without its other half
  is read as U+FFFD.  `pairsLossy` and `quadsLossy` read all bytes, with U+FFFD for
  what is left over at the end too.
-/
import DocumentClient.Text.Utf8

namespace DocumentClient.Text.Wide

/-- The number bytes make up, the first or the last byte being the highest. -/
def number (highFirst : Bool) (bytes : List UInt8) : Nat :=
  (if highFirst then bytes else bytes.reverse).foldl (fun n b => 256 * n + b.toNat) 0

/-- The units of 16 bits in bytes. -/
def pairs (highFirst : Bool) : List UInt8 → Option (List Nat)
  | [] => some []
  | a :: b :: rest => (pairs highFirst rest).map (number highFirst [a, b] :: ·)
  | [_] => none

/-- The units of 32 bits in bytes. -/
def quads (highFirst : Bool) : List UInt8 → Option (List Nat)
  | [] => some []
  | a :: b :: c :: d :: rest => (quads highFirst rest).map (number highFirst [a, b, c, d] :: ·)
  | _ => none

/-- Whether a unit is the first half of a character. -/
def isFirstHalf (n : Nat) : Bool := 0xd800 ≤ n && n ≤ 0xdbff

/-- Whether a unit is the second half of a character. -/
def isSecondHalf (n : Nat) : Bool := 0xdc00 ≤ n && n ≤ 0xdfff

/-- A character that one unit stands for. -/
def single (n : Nat) : Char :=
  if isFirstHalf n || isSecondHalf n then Utf8.replacement else Char.ofNat n

/-- The characters of units of 16 bits; a half at the very end is missing its
    other half for good. -/
def joinHalves : List Nat → Option (List Char)
  | [] => some []
  | [n] => if isFirstHalf n then none else some [single n]
  | a :: b :: rest =>
    if isFirstHalf a && isSecondHalf b then
      (joinHalves rest).map (Char.ofNat (0x10000 + (a - 0xd800) * 0x400 + (b - 0xdc00)) :: ·)
    else (joinHalves (b :: rest)).map (single a :: ·)

/-- The text of bytes in units of 16 bits. -/
def readPairs (highFirst : Bool) (bytes : List UInt8) : Option String := do
  let units ← pairs highFirst bytes
  let chars ← joinHalves units
  return String.ofList chars

/-- The text of bytes in units of 32 bits. -/
def readQuads (highFirst : Bool) (bytes : List UInt8) : Option String := do
  let units ← quads highFirst bytes
  if units.all (· < 0x110000) then return String.ofList (units.map single) else none

/-! ## With replacements -/

/-- The characters of bytes in units of 16 bits, whatever they are: a first half near the
    end is one with what follows it there. -/
def pairsLossy (highFirst : Bool) : List UInt8 → List Char
  | [] => []
  | [_] => [Utf8.replacement]
  | a :: b :: rest =>
    let unit := number highFirst [a, b]
    if !isFirstHalf unit then single unit :: pairsLossy highFirst rest
    else match rest with
      | c :: d :: more =>
        let next := number highFirst [c, d]
        if isSecondHalf next then
          Char.ofNat (0x10000 + (unit - 0xd800) * 0x400 + (next - 0xdc00))
            :: pairsLossy highFirst more
        else Utf8.replacement :: pairsLossy highFirst (c :: d :: more)
      | _ => [Utf8.replacement]

/-- The characters of bytes in units of 32 bits, whatever they are. -/
def quadsLossy (highFirst : Bool) : List UInt8 → List Char
  | [] => []
  | a :: b :: c :: d :: rest =>
    let unit := number highFirst [a, b, c, d]
    (if unit < 0x110000 then single unit else Utf8.replacement) :: quadsLossy highFirst rest
  | _ => [Utf8.replacement]

end DocumentClient.Text.Wide
