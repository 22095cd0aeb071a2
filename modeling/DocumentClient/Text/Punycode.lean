/-
  Punycode — code points in ASCII letters, digits and hyphens.

  The ASCII characters of a text come first, in order, and a hyphen after them.  The
  others follow by code point, each as the number of places passed over since the
  one before: a place for each position in each round of the code points.  The
  numbers are written in digits of base 36 whose weights adapt to the size of the
  numbers (`threshold`, `adapt`).
-/

namespace DocumentClient.Text.Punycode

/-! ## Digits -/

/-- The character of a digit: the letters come before the decimal digits. -/
def digit (d : Nat) : Char := if d < 26 then Char.ofNat (97 + d) else Char.ofNat (48 + (d - 26))

/-- The digit of a character, whatever its case. -/
def value? (c : Char) : Option Nat :=
  if c.isLower then some (c.toNat - 97)
  else if c.isUpper then some (c.toNat - 65)
  else if c.isDigit then some (c.toNat - 48 + 26)
  else none

/-- The first code point that is not ASCII. -/
def firstPoint : Nat := 128

/-- The number of code points. -/
def pointCount : Nat := 0x110000

/-- The bias of the first number. -/
def firstBias : Nat := 72

/-- The least digit that says at a place that a further digit follows. -/
def threshold (place bias : Nat) : Nat := min 26 (max 1 (36 * (place + 1) - bias))

theorem one_le_threshold (place bias : Nat) : 1 ≤ threshold place bias := by
  simp only [threshold]
  omega

/-- The bias after a number has been scaled down place by place. -/
def settle (delta places : Nat) : Nat :=
  if 455 < delta then settle (delta / 35) (places + 1)
  else 36 * places + 36 * delta / (delta + 38)
termination_by delta
decreasing_by omega

/-- The bias of the next number, `count` characters being known by then. -/
def adapt (delta count : Nat) (isFirst : Bool) : Nat :=
  let damped := if isFirst then delta / 700 else delta / 2
  settle (damped + damped / count) 0

/-- A number in digits, from a place on. -/
def digits (bias place n : Nat) : List Char :=
  let t := threshold place bias
  if n < t then [digit n]
  else digit (t + (n - t) % (36 - t)) :: digits bias (place + 1) ((n - t) / (36 - t))
termination_by n
decreasing_by
  have := one_le_threshold place bias
  have := Nat.div_le_self (n - threshold place bias) (36 - threshold place bias)
  omega

/-! ## Writing -/

/-- A code point to put into a text, and the place it gets. -/
structure Insertion where
  point : Nat
  position : Nat

/-- The insertions that make a text out of its ASCII characters, by code point and, for
    equal ones, from left to right.  When a code point is put in, those before it that
    are there already are the ones that are no higher. -/
def insertions (text : List Nat) : List Insertion :=
  let others := text.zipIdx.filter fun (c, _) => firstPoint ≤ c
  (others.mergeSort fun (c, _) (d, _) => decide (c ≤ d)).map fun (c, i) =>
    ⟨c, (text.take i).countP fun d => d ≤ c⟩

/-- Insertions in digits, each as the distance from the one before, which left a text of
    `count` code points and ended at `position` in the round of `point`. -/
def written (isFirst : Bool) (bias point position count : Nat) : List Insertion → List Char
  | [] => []
  | next :: rest =>
    let delta := (next.point - point) * (count + 1) + next.position - position
    digits bias 0 delta
      ++ written false (adapt delta (count + 1) isFirst) next.point (next.position + 1) (count + 1)
        rest

/-- A text in ASCII. -/
def encode (text : List Nat) : List Char :=
  let basic := text.filter fun c => c < firstPoint
  (if basic.isEmpty then [] else basic.map Char.ofNat ++ ['-'])
    ++ written true firstBias firstPoint 0 basic.length (insertions text)

/-! ## Reading -/

/-- Reads a number, from a place of some weight on. -/
def number? (bias : Nat) : (place weight n : Nat) → List Char → Option (Nat × List Char)
  | _, _, _, [] => none
  | place, weight, n, c :: rest => do
    let d ← value? c
    let n := n + d * weight
    let t := threshold place bias
    if d < t then some (n, rest) else number? bias (place + 1) (weight * (36 - t)) n rest

/-- Reads the code points that are not ASCII into a text; `point` and `position` say where
    the last one was put. -/
def insertAll (isFirst : Bool) (bias point position : Nat) (text : List Nat) :
    (fuel : Nat) → List Char → Option (List Nat)
  | _, [] => some text
  | 0, _ :: _ => none
  | fuel + 1, cs => do
    let (delta, rest) ← number? bias 0 1 0 cs
    let place := position + delta
    let count := text.length + 1
    let point := point + place / count
    let position := place % count
    if point < pointCount then
      insertAll false (adapt delta count isFirst) point (position + 1)
        (text.take position ++ point :: text.drop position) fuel rest
    else none

/-- The code points of a text in ASCII. -/
def decode? (cs : List Char) : Option (List Nat) :=
  let extended := (cs.reverse.takeWhile (· != '-')).reverse
  let basic := (cs.take (cs.length - extended.length)).dropLast
  insertAll true firstBias firstPoint 0 (basic.map Char.toNat) extended.length extended

end DocumentClient.Text.Punycode
