/-
  Ranges — sets and maps of code points.

  `inRanges` looks a code point up among ranges with their ends.  A row is a range
  of which only every so many code points count; `inRows` looks one up among rows,
  and `rowImage?` maps it by its place in the row it lies in.
-/

namespace DocumentClient.Text

/-- Whether a code point lies in one of the ranges. -/
def inRanges (ranges : List (Nat × Nat)) (c : Nat) : Bool :=
  ranges.any fun (low, high) => low ≤ c && c ≤ high

/-- Whether a code point lies in a row. -/
def inRow (low high step c : Nat) : Bool := low ≤ c && c ≤ high && (c - low) % step == 0

/-- Whether a code point lies in one of the rows. -/
def inRows (rows : List (Nat × Nat × Nat)) (c : Nat) : Bool :=
  rows.any fun (low, high, step) => inRow low high step c

/-- The image of a code point in one of the rows, each of which has the image of its
    first one. -/
def rowImage? (rows : List (Nat × Nat × Nat × Nat)) (c : Nat) : Option Nat :=
  (rows.find? fun (low, high, step, _) => inRow low high step c).map fun (low, _, _, image) =>
    image + (c - low)

/-- The value of a code point that ranges with values give it. -/
def rangeValue? {α : Type} (ranges : List (Nat × Nat × α)) (c : Nat) : Option α :=
  (ranges.find? fun (low, high, _) => low ≤ c && c ≤ high).map fun (_, _, value) => value

end DocumentClient.Text
