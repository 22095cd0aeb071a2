/-
  Bits — compressed bytes as they are read.

  The bits of a byte are read from the lowest to the highest.  A `Reading` takes bits
  and puts bytes out; where the bits end too early it stops, and what was put out until
  then is kept.
-/
import DocumentClient.Compression.Fault

namespace DocumentClient.Compression

/-- What is still to be read, and what was put out. -/
structure Tape where
  bits : List Bool
  output : Array UInt8 := #[]

/-- Why a reading stops before its end. -/
inductive Stop where
  | early
  | fault (fault : Fault)
  deriving DecidableEq

/-- A part of what is read. -/
abbrev Reading := EStateM Stop Tape

/-- The bits of a byte. -/
def bitsOf (byte : UInt8) : List Bool := (List.range 8).map byte.toNat.testBit

/-- The tape of some bytes. -/
def Tape.of (bytes : List UInt8) : Tape := { bits := bytes.flatMap bitsOf }

/-- The number whose bits these are, the lowest first. -/
def numberOf : List Bool → Nat
  | [] => 0
  | bit :: rest => bit.toNat + 2 * numberOf rest

namespace Reading

/-- Stops at a fault. -/
def refuse {α : Type} (fault : Fault) : Reading α := throw (.fault fault)

/-- Stops at a fault unless a condition holds. -/
def require (condition : Bool) (fault : Fault) : Reading Unit :=
  if condition then pure () else refuse fault

/-- A bit. -/
def bit : Reading Bool := do
  let tape ← get
  match tape.bits with
  | [] => throw .early
  | b :: rest => do
    set { tape with bits := rest }
    return b

/-- A number of so many bits, the lowest first. -/
def number (width : Nat) : Reading Nat := do
  let tape ← get
  let taken := tape.bits.take width
  if taken.length < width then throw .early
  else do
    set { tape with bits := tape.bits.drop width }
    return numberOf taken

/-- Puts a byte out. -/
def put (byte : UInt8) : Reading Unit :=
  modify fun tape => { tape with output := tape.output.push byte }

/-- Drops the rest of a byte that was begun. -/
def align : Reading Unit :=
  modify fun tape => { tape with bits := tape.bits.drop (tape.bits.length % 8) }

end Reading

end DocumentClient.Compression
