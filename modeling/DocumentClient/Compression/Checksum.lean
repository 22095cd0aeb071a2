/-
  Checksums of bytes.

  `crc` is the remainder of the bytes, as a polynomial over two elements, modulo the
  polynomial `crcPolynomial` of degree 32, both ends inverted.  `adler` is a sum of the
  bytes and the sum of these sums, each modulo a prime.
-/

namespace DocumentClient.Compression

/-- The divisor, its lowest bit the coefficient of the highest power; that of the
    power 32 itself is left out. -/
def crcPolynomial : UInt32 := 0xedb88320

/-- Takes a bit of the dividend in. -/
def crcBit (remainder : UInt32) : UInt32 :=
  if remainder &&& 1 = 1 then (remainder >>> 1) ^^^ crcPolynomial else remainder >>> 1

/-- Takes so many bits of the dividend in. -/
def crcBits : (bits : Nat) → UInt32 → UInt32
  | 0, remainder => remainder
  | bits + 1, remainder => crcBits bits (crcBit remainder)

/-- Takes a byte of the dividend in. -/
def crcByte (remainder : UInt32) (byte : UInt8) : UInt32 :=
  crcBits 8 (remainder ^^^ byte.toUInt32)

/-- The checksum by division. -/
def crc (bytes : List UInt8) : Nat :=
  (bytes.foldl crcByte 0xffffffff ^^^ 0xffffffff).toNat

/-- The modulus of sums. -/
def adlerModulus : Nat := 65521

/-- The checksum by sums. -/
def adler (bytes : List UInt8) : Nat :=
  let (sum, sums) := bytes.foldl (fun (sum, sums) byte =>
    let sum := (sum + byte.toNat) % adlerModulus
    (sum, (sums + sum) % adlerModulus)) (1, 0)
  65536 * sums + sum

end DocumentClient.Compression
