/-
  The shortest decimal of a double.

  The reals that round to a double form an interval around it; `shortest` takes
  the first decimal grid (one digit, two digits, …) that has a point in that
  interval, and on it the point nearest to the double.  `Double.finiteText` writes
  these digits: positionally for magnitudes from `10 ^ -4` up to below
  `10 ^ 16`, with an exponent of at least two digits otherwise.
-/
import DocumentClient.Decimal.Double

namespace DocumentClient

/-- The decimal `0.d₁d₂… · 10 ^ point`. -/
structure Decimal where
  digits : List Char
  point : Int
  deriving DecidableEq

namespace Decimal

/-- The number of decimal digits of a positive natural. -/
def width (n : Nat) : Nat := (Nat.toDigits 10 n).length

/-- The `point` for which `10 ^ (point - 1) ≤ num / den < 10 ^ point`. -/
def pointOf (num den : Nat) : Int :=
  if den ≤ num then width (num / den)
  else
    let j := width (den / num) - 1
    if num * Nat.pow 10 j = den then 1 - (j : Int) else -(j : Int)

/-- An interval of positive reals around `value`, all over one denominator. -/
structure Interval where
  low : Nat
  value : Nat
  high : Nat
  den : Nat
  closed : Bool

/-- Whether `n · 10 ^ exponent` lies in the interval. -/
def Interval.holds (i : Interval) (n : Nat) (exponent : Int) : Bool :=
  let x := if 0 ≤ exponent then n * Nat.pow 10 exponent.toNat * i.den else n * i.den
  let unit := if 0 ≤ exponent then 1 else Nat.pow 10 (-exponent).toNat
  if i.closed then i.low * unit ≤ x && x ≤ i.high * unit
  else i.low * unit < x && x < i.high * unit

/-- The nearest point of the grid `10 ^ exponent` that lies in the interval. -/
def Interval.pick (i : Interval) (exponent : Int) : Option Nat :=
  let num := if 0 ≤ exponent then i.value else i.value * Nat.pow 10 (-exponent).toNat
  let den := if 0 ≤ exponent then i.den * Nat.pow 10 exponent.toNat else i.den
  let below := num / den
  let nearerAbove := den < 2 * (num % den) ∨ (2 * (num % den) = den ∧ below % 2 = 1)
  match i.holds below exponent, i.holds (below + 1) exponent with
  | true, true => some (if nearerAbove then below + 1 else below)
  | true, false => some below
  | false, true => some (below + 1)
  | false, false => none

/-- The first grid of at least `count` digits with a point in the interval. -/
def Interval.search (i : Interval) (point : Int) : Nat → Nat → Nat × Int
  | 0, count => (i.value / i.den, point - count)
  | fuel + 1, count =>
    match i.pick (point - count) with
    | some n => (n, point - count)
    | none => search i point fuel (count + 1)

/-- The reals that round to a positive finite double; the end points belong to
    it exactly if the significand is even. -/
def interval (x : Double) : Interval :=
  let m := x.significand
  let narrow := m = Nat.pow 2 52 ∧ 1 < x.exponentBits
  let up : Nat := if 2 ≤ x.scale then Nat.pow 2 (x.scale - 2).toNat else 1
  let den : Nat := if 2 ≤ x.scale then 1 else Nat.pow 2 (2 - x.scale).toNat
  { low := (if narrow then 4 * m - 1 else 4 * m - 2) * up
    value := 4 * m * up
    high := (4 * m + 2) * up
    den := den
    closed := m % 2 = 0 }

/-- Drops the zeros at the end. -/
def trim (digits : List Char) : List Char :=
  (digits.reverse.dropWhile (· = '0')).reverse

/-- The shortest decimal that reads back as a positive finite double, and of
    those the nearest. -/
def shortest (x : Double) : Decimal :=
  let i := interval x
  let (n, exponent) := i.search (pointOf i.value i.den) 17 1
  let digits := Nat.toDigits 10 n
  ⟨trim digits, digits.length + exponent⟩

/-- Positional notation, with a point and at least one digit on either side. -/
def positional (d : Decimal) : String :=
  let length : Int := d.digits.length
  if d.point ≤ 0 then "0." ++ String.ofList (List.replicate (-d.point).toNat '0' ++ d.digits)
  else if length ≤ d.point then
    String.ofList (d.digits ++ List.replicate (d.point - length).toNat '0') ++ ".0"
  else
    String.ofList (d.digits.take d.point.toNat) ++ "." ++ String.ofList (d.digits.drop d.point.toNat)

/-- Notation with an exponent: a sign and at least two digits. -/
def scientific (d : Decimal) : String :=
  let head := String.ofList (d.digits.take 1)
  let tail := d.digits.drop 1
  let exponent := d.point - 1
  let size := toString exponent.natAbs
  head ++ (if tail.isEmpty then "" else "." ++ String.ofList tail) ++ "e"
    ++ (if exponent < 0 then "-" else "+") ++ (if size.length < 2 then "0" ++ size else size)

end Decimal

/-- The text of a finite double: positional from `10 ^ -4` to below `10 ^ 16`. -/
def Double.finiteText (x : Double) : String :=
  (if x.negative then "-" else "") ++
    if x.isZero then "0.0"
    else
      let d := Decimal.shortest x
      if -4 < d.point ∧ d.point ≤ 16 then d.positional else d.scientific

end DocumentClient
