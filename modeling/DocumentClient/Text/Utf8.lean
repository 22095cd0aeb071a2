/-
  UTF-8 — text and bytes.

  `decode` reads a sequence of bytes, each ill-formed one as an error: the
  longest start of a character that could still have been completed counts as one
  error, a byte that can start nothing as one.  `decodeLossy` puts U+FFFD in the
  place of each error, `decodeStrict` refuses them; `encode` is the other
  direction.
-/

namespace DocumentClient.Text.Utf8

/-- The character put in the place of what cannot be read. -/
def replacement : Char := '\ufffd'

/-- The bytes that may follow a first byte, each as a range, and the bits the
    first byte contributes; none if the byte can start nothing. -/
def shape (b : Nat) : Option (Nat × List (Nat × Nat)) :=
  let tail := (0x80, 0xbf)
  if b < 0x80 then some (b, [])
  else if b < 0xc2 then none
  else if b < 0xe0 then some (b - 0xc0, [tail])
  else if b = 0xe0 then some (0, [(0xa0, 0xbf), tail])
  else if b = 0xed then some (0xd, [(0x80, 0x9f), tail])
  else if b < 0xf0 then some (b - 0xe0, [tail, tail])
  else if b = 0xf0 then some (0, [(0x90, 0xbf), tail, tail])
  else if b < 0xf4 then some (b - 0xf0, [tail, tail, tail])
  else if b = 0xf4 then some (4, [(0x80, 0x8f), tail, tail])
  else none

/-- Takes the bytes that follow a first byte: the code point, or none if a byte
    does not fit, and how many bytes were taken. -/
def follow (acc taken : Nat) : List (Nat × Nat) → List UInt8 → Option Nat × Nat
  | [], _ => (some acc, taken)
  | (low, high) :: ranges, b :: rest =>
    if low ≤ b.toNat ∧ b.toNat ≤ high then follow (acc * 64 + b.toNat % 64) (taken + 1) ranges rest
    else (none, taken)
  | _ :: _, [] => (none, taken)

/-- Reads bytes; `skip` counts those that belong to the character already read. -/
def decodeFrom (skip : Nat) : List UInt8 → List (Option Char)
  | [] => []
  | b :: rest =>
    match skip with
    | skip + 1 => decodeFrom skip rest
    | 0 =>
      match shape b.toNat with
      | none => none :: decodeFrom 0 rest
      | some (acc, ranges) =>
        let (point, taken) := follow acc 0 ranges rest
        point.map Char.ofNat :: decodeFrom taken rest

/-- The characters of a sequence of bytes, with a gap for each error. -/
def decode (bytes : List UInt8) : List (Option Char) := decodeFrom 0 bytes

/-- The text of a sequence of bytes, each error replaced. -/
def decodeLossy (bytes : List UInt8) : String :=
  String.ofList ((decode bytes).map (·.getD replacement))

/-- The text of a sequence of bytes without errors. -/
def decodeStrict (bytes : List UInt8) : Option String :=
  ((decode bytes).mapM id).map String.ofList

/-- The bytes of a text. -/
def encode (text : String) : List UInt8 := text.toUTF8.toList

end DocumentClient.Text.Utf8
