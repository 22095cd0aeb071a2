/-
  Inflation — bytes out of blocks.

  Bytes are compressed in blocks.  A stored block holds them as they are.  The other
  blocks are rows of symbols: a literal is a byte, and a length together with a distance
  repeats bytes that were put out before.  The codes of the symbols are fixed, or stand at
  the beginning of the block.
-/
import DocumentClient.Compression.Code

namespace DocumentClient.Compression

/-! ## Symbols -/

/-- A range of numbers that a symbol stands for: the first of them, and how many bits
    tell which it is. -/
structure Span where
  first : Nat
  width : Nat

/-- The ranges of widths that follow each other without gap. -/
def spansFrom (first : Nat) : List Nat → List Span
  | [] => []
  | width :: rest => ⟨first, width⟩ :: spansFrom (first + 2 ^ width) rest

/-- The lengths that repetitions have; the longest has a symbol of its own. -/
def lengthSpans : List Span :=
  spansFrom 3 [0, 0, 0, 0, 0, 0, 0, 0, 1, 1, 1, 1, 2, 2, 2, 2, 3, 3, 3, 3, 4, 4, 4, 4, 5, 5, 5, 5]
    ++ [⟨258, 0⟩]

/-- The distances that repetitions reach back. -/
def distanceSpans : List Span :=
  spansFrom 1 [0, 0, 0, 0, 1, 1, 2, 2, 3, 3, 4, 4, 5, 5, 6, 6, 7, 7, 8, 8, 9, 9, 10, 10, 11, 11,
    12, 12, 13, 13]

/-- The symbol that ends a block; those below are literals, those above lengths. -/
def endOfBlock : Nat := 256

/-- The lengths of the fixed rows of literals and lengths. -/
def fixedLiterals : List Nat :=
  List.replicate 144 8 ++ List.replicate 112 9 ++ List.replicate 24 7 ++ List.replicate 8 8

/-- The lengths of the fixed rows of distances. -/
def fixedDistances : List Nat := List.replicate 32 5

/-! ## Repetition -/

/-- A number of a range. -/
def Span.read (s : Span) : Reading Nat := do return s.first + (← Reading.number s.width)

/-- Puts out so many bytes again, from so far back; each may be one just put out. -/
def copyBack (distance : Nat) : (length : Nat) → Reading Unit
  | 0 => return ()
  | length + 1 => do
    let output := (← get).output
    Reading.put (output[output.size - distance]?.getD 0)
    copyBack distance length

/-! ## Blocks -/

/-- Puts out so many bytes as they are. -/
def copyStored : (length : Nat) → Reading Unit
  | 0 => return ()
  | length + 1 => do
    Reading.put (UInt8.ofNat (← Reading.number 8))
    copyStored length

/-- A stored block. -/
def storedBlock : Reading Unit := do
  Reading.align
  let both ← Reading.number 32
  let length := both % 65536
  Reading.require (length + both / 65536 == 65535) .storedLength
  copyStored length

/-- The symbols of a block up to its end, with two codes; each takes at least a bit. -/
def symbols (literals distances : Code) : (bits : Nat) → Reading Unit
  | 0 => throw .early
  | bits + 1 => do
    match ← literals.read with
    | none => Reading.refuse .literalCode
    | some symbol =>
      if symbol < endOfBlock then do
        Reading.put (UInt8.ofNat symbol)
        symbols literals distances bits
      else if symbol = endOfBlock then return ()
      else match lengthSpans[symbol - endOfBlock - 1]? with
        | none => Reading.refuse .literalCode
        | some span => do
          let length ← span.read
          match (← distances.read).bind fun symbol => distanceSpans[symbol]? with
          | none => Reading.refuse .distanceCode
          | some span => do
            let distance ← span.read
            Reading.require (distance ≤ (← get).output.size) .distance
            copyBack distance length
            symbols literals distances bits

/-- The symbols of a block up to its end. -/
def block (literals distances : Code) : Reading Unit := do
  symbols literals distances ((← get).bits.length + 1)

/-! ## Codes of a block -/

/-- The order in which the lengths of the rows of lengths are told. -/
def lengthOrder : List Nat := [16, 17, 18, 0, 8, 7, 9, 6, 10, 5, 11, 4, 12, 3, 13, 2, 14, 1, 15]

/-- The code in which lengths of rows are told. -/
def lengthCode (count : Nat) : Reading Code := do
  let told ← (List.range count).mapM fun _ => Reading.number 3
  let lengthOf (symbol : Nat) : Nat := ((lengthOrder.zip told).lookup symbol).getD 0
  let code := Code.ofLengths ((List.range lengthOrder.length).map lengthOf)
  Reading.require (code.isVoid || code.isFull) .lengthsOfLengths
  return code

/-- So many lengths of rows, after those that are known, the last of these first; each
    symbol takes at least a bit. -/
def rowLengths (code : Code) (count : Nat) : (bits : Nat) → (known : List Nat) →
    Reading (List Nat)
  | 0, _ => throw .early
  | bits + 1, known => do
    if count ≤ known.length then return known.reverse
    -- A code without symbols takes every bit for the length zero.
    let symbol := (← code.read).getD 0
    if symbol < 16 then rowLengths code count bits (symbol :: known)
    else do
      let (again, least, width) ← match symbol with
        | 16 => do
          let more ← Reading.number 2
          match known with
          | [] => Reading.refuse .repetition
          | last :: _ => pure (last, 3, more)
        | 17 => do pure (0, 3, ← Reading.number 3)
        | _ => do pure (0, 11, ← Reading.number 7)
      let times := least + width
      Reading.require (known.length + times ≤ count) .repetition
      rowLengths code count bits (List.replicate times again ++ known)

/-- The codes at the beginning of a block. -/
def codes : Reading (Code × Code) := do
  let literalCount := 257 + (← Reading.number 5)
  let distanceCount := 1 + (← Reading.number 5)
  let lengthCount := 4 + (← Reading.number 4)
  Reading.require (literalCount ≤ 286 && distanceCount ≤ 30) .tooManySymbols
  let code ← lengthCode lengthCount
  let total := literalCount + distanceCount
  let lengths ← rowLengths code total ((← get).bits.length + 1) []
  Reading.require (lengths[endOfBlock]?.getD 0 != 0) .noEndOfBlock
  let literals := Code.ofLengths (lengths.take literalCount)
  Reading.require literals.isUsable .lengthsOfLiterals
  let distances := Code.ofLengths (lengths.drop literalCount)
  Reading.require distances.isUsable .lengthsOfDistances
  return (literals, distances)

/-- Blocks up to the last one; each takes at least a bit. -/
def blocks : (bits : Nat) → Reading Unit
  | 0 => throw .early
  | bits + 1 => do
    let head ← Reading.number 3
    match head / 2 with
    | 0 => storedBlock
    | 1 => block (Code.ofLengths fixedLiterals) (Code.ofLengths fixedDistances)
    | 2 => do
      let (literals, distances) ← codes
      block literals distances
    | _ => Reading.refuse .blockType
    if head % 2 = 1 then return () else blocks bits

/-- All blocks. -/
def inflated : Reading Unit := do blocks ((← get).bits.length + 1)

end DocumentClient.Compression
