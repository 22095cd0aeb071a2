/-
  Envelopes — what stands around blocks.

  The larger envelope begins with two fixed bytes, may tell a file name and a comment,
  and ends with a checksum and the length.  The smaller one begins with two bytes that
  make a multiple of 31 and ends with another checksum.  In the larger one numbers
  begin with the low byte, in the smaller one with the high one.  What follows an
  envelope is not looked at.
-/
import DocumentClient.Compression.Checksum
import DocumentClient.Compression.Inflate

namespace DocumentClient.Compression

/-- How a reading of some bytes ends: with what was put out, if there is no fault. -/
def outputOf (reading : Reading Unit) (bytes : List UInt8) : Except Fault (List UInt8) :=
  match reading.run (Tape.of bytes) with
  | .error (.fault fault) _ => .error fault
  | .error .early tape | .ok _ tape => .ok tape.output.toList

/-- The method of compression by blocks. -/
def blockMethod : Nat := 8

/-! ## The larger envelope -/

/-- Skips bytes up to a zero byte. -/
def skipText : (bytes : Nat) → Reading Unit
  | 0 => throw .early
  | bytes + 1 => do
    if (← Reading.number 8) = 0 then return () else skipText bytes

/-- Skips a text that a flag announces. -/
def skipTextIf (flag : Bool) : Reading Unit := do
  if flag then skipText ((← get).bits.length / 8 + 1) else return ()

/-- The beginning of the larger envelope, out of these bytes. -/
def largerHeader (bytes : List UInt8) : Reading Unit := do
  let mark ← Reading.number 16
  Reading.require (mark == 0x8b1f) .header
  let method ← Reading.number 16
  Reading.require (method % 256 == blockMethod) .method
  let flag (place : Nat) : Bool := method.testBit (8 + place)
  Reading.require (!(flag 5 || flag 6 || flag 7)) .headerFlags
  let _ ← Reading.number 48
  if flag 2 then do
    let length ← Reading.number 16
    let _ ← Reading.number (8 * length)
  skipTextIf (flag 3)
  skipTextIf (flag 4)
  if flag 1 then do
    let read := bytes.length - (← get).bits.length / 8
    let checksum ← Reading.number 16
    Reading.require (checksum == crc (bytes.take read) % 65536) .headerChecksum

/-- Bytes in the larger envelope. -/
def openLarger (bytes : List UInt8) : Except Fault (List UInt8) :=
  outputOf (do
    largerHeader bytes
    inflated
    Reading.align
    let output := (← get).output
    let checksum ← Reading.number 32
    Reading.require (checksum == crc output.toList) .checksum
    let length ← Reading.number 32
    Reading.require (length == output.size % Nat.pow 2 32) .length) bytes

/-! ## The smaller envelope -/

/-- A number of four bytes, the highest first. -/
def highFirst : Reading Nat := do
  let a ← Reading.number 8
  let b ← Reading.number 8
  let c ← Reading.number 8
  let d ← Reading.number 8
  return ((a * 256 + b) * 256 + c) * 256 + d

/-- The beginning of the smaller envelope. -/
def smallerHeader : Reading Unit := do
  let first ← Reading.number 8
  let second ← Reading.number 8
  Reading.require ((256 * first + second) % 31 == 0) .header
  Reading.require (first % 16 == blockMethod) .method
  Reading.require (first / 16 ≤ 7) .windowSize
  if second.testBit 5 then do
    let _ ← highFirst
    Reading.refuse .dictionary

/-- Bytes in the smaller envelope. -/
def openSmaller (bytes : List UInt8) : Except Fault (List UInt8) :=
  outputOf (do
    smallerHeader
    inflated
    Reading.align
    let output := (← get).output
    let checksum ← highFirst
    Reading.require (checksum == adler output.toList) .checksum) bytes

/-- Bytes in no envelope. -/
def openBare (bytes : List UInt8) : Except Fault (List UInt8) := outputOf inflated bytes

end DocumentClient.Compression
