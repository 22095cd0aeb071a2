/-
  Codes — symbols by rows of bits, none of which begins another.

  A code is given by the length of the row of each symbol; a symbol of length zero has
  none.  Shorter rows come before longer ones, and rows of one length are in the order
  of their symbols.  `isFull` says that every long enough row of bits begins with the row
  of a symbol, and `isOverfull` that there are too many rows.
-/
import DocumentClient.Compression.Bits

namespace DocumentClient.Compression

/-- A code. -/
structure Code where
  /-- How many symbols have a row of one bit, of two bits, and so on to the longest. -/
  counts : List Nat
  /-- The symbols in the order of their rows. -/
  symbols : Array Nat

namespace Code

/-- The code with rows of these lengths. -/
def ofLengths (lengths : List Nat) : Code :=
  let longest := max 1 (lengths.foldl max 0)
  let sizes := (List.range longest).map (· + 1)
  let symbolsOf (size : Nat) : List Nat :=
    lengths.zipIdx.filterMap fun (length, symbol) => if length = size then some symbol else none
  { counts := sizes.map fun size => (symbolsOf size).length
    symbols := (sizes.flatMap symbolsOf).toArray }

/-- How many rows of the greatest length are left over, from so many rows of the
    length reached; none if there are fewer than none. -/
def left : List Nat → (rows : Nat) → Option Nat
  | [], rows => some rows
  | count :: rest, rows => if 2 * rows < count then none else left rest (2 * rows - count)

/-- Whether there are more symbols than rows. -/
def isOverfull (c : Code) : Bool := (left c.counts 1).isNone

/-- Whether every row belongs to a symbol. -/
def isFull (c : Code) : Bool := left c.counts 1 == some 0

/-- Whether no symbol has a row. -/
def isVoid (c : Code) : Bool := c.symbols.isEmpty

/-- Whether a code serves to tell literals or distances: it leaves no row over, unless
    it has no symbols, or a single one with a row of one bit. -/
def isUsable (c : Code) : Bool :=
  c.isVoid || (!c.isOverfull && (c.isFull || c.counts.length == 1))

/-- The symbol whose row comes next.  The row read so far is `row`, `first` is the first
    row of its length that belongs to a longer or an equal row, and `index` symbols have
    shorter ones. -/
def readFrom (symbols : Array Nat) (row first index : Nat) : List Nat → Reading (Option Nat)
  | [] => return none
  | count :: rest => do
    let row := 2 * row + (← Reading.bit).toNat
    let first := 2 * first
    if row < first + count then return symbols[index + (row - first)]?
    else readFrom symbols row (first + count) (index + count) rest

/-- The symbol whose row comes next; none if it is the row of no symbol. -/
def read (c : Code) : Reading (Option Nat) := readFrom c.symbols 0 0 0 c.counts

end Code

end DocumentClient.Compression
