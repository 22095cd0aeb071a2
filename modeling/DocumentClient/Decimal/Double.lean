/-
  Doubles — binary64 numbers by their bits.

  A finite double is `± significand · 2 ^ scale`.  `ofRatio` is the double
  nearest to a quotient of naturals (of two nearest ones the even one), hence
  `ofDecimal` the double a decimal numeral denotes.  `truncate` is the whole
  part, toward zero, and `round` the nearest whole number.
-/

namespace DocumentClient

/-- A binary64 number: one sign bit, eleven exponent bits, 52 fraction bits. -/
structure Double where
  bits : UInt64
  deriving DecidableEq

namespace Double

/-! ## Parts -/

/-- Whether the sign bit is set. -/
def negative (x : Double) : Bool := Nat.pow 2 63 ≤ x.bits.toNat

/-- The eleven exponent bits. -/
def exponentBits (x : Double) : Nat := x.bits.toNat / Nat.pow 2 52 % Nat.pow 2 11

/-- The 52 fraction bits. -/
def fraction (x : Double) : Nat := x.bits.toNat % Nat.pow 2 52

def isNaN (x : Double) : Bool := x.exponentBits == 2047 && x.fraction != 0

def isInfinite (x : Double) : Bool := x.exponentBits == 2047 && x.fraction == 0

def isFinite (x : Double) : Bool := x.exponentBits != 2047

def isZero (x : Double) : Bool := x.exponentBits == 0 && x.fraction == 0

/-- The whole number `m` of `m · 2 ^ scale`, for a finite double. -/
def significand (x : Double) : Nat :=
  if x.exponentBits = 0 then x.fraction else Nat.pow 2 52 + x.fraction

/-- The power of two of the last bit of the significand. -/
def scale (x : Double) : Int :=
  if x.exponentBits = 0 then -1074 else (x.exponentBits : Int) - 1075

/-- The whole part, toward zero; none for a double that is not finite. -/
def truncate (x : Double) : Option Int :=
  if x.isFinite then
    let magnitude : Nat :=
      if 0 ≤ x.scale then x.significand * Nat.pow 2 x.scale.toNat
      else x.significand / Nat.pow 2 (-x.scale).toNat
    some (if x.negative then -(magnitude : Int) else magnitude)
  else none

/-! ## Making doubles -/

/-- The double of a sign and a magnitude given by its low 63 bits. -/
def ofMagnitude (negative : Bool) (magnitude : Nat) : Double :=
  ⟨UInt64.ofNat (magnitude + if negative then Nat.pow 2 63 else 0)⟩

def infinity (negative : Bool) : Double := ofMagnitude negative (2047 * Nat.pow 2 52)

def nan : Double := ofMagnitude false (2047 * Nat.pow 2 52 + Nat.pow 2 51)

def zero (negative : Bool) : Double := ofMagnitude negative 0

/-- The quotient rounded to the nearest whole number, a tie to the even one. -/
def roundDiv (num den : Nat) : Nat :=
  let q := num / den
  let r := num % den
  if den < 2 * r ∨ (2 * r = den ∧ q % 2 = 1) then q + 1 else q

/-- `num / (den · 2 ^ e)` as a fraction of naturals. -/
def scaled (num den : Nat) (e : Int) : Nat × Nat :=
  if 0 ≤ e then (num, den * Nat.pow 2 e.toNat) else (num * Nat.pow 2 (-e).toNat, den)

/-- The double nearest to `± num / den`.  The power of two of the last bit is
    chosen so that the significand has 53 bits, but never below `-1074`. -/
def ofRatio (negative : Bool) (num den : Nat) : Double :=
  if num = 0 ∨ den = 0 then zero negative
  else
    let guess : Int := (num.log2 : Int) - den.log2 - 53
    let low := max (-1074) guess
    let (n, d) := scaled num den low
    let e := if Nat.pow 2 53 ≤ n / d then low + 1 else low
    let (n, d) := scaled num den e
    let magnitude := (e + 1074).toNat * Nat.pow 2 52 + roundDiv n d
    if 2047 * Nat.pow 2 52 ≤ magnitude then infinity negative else ofMagnitude negative magnitude

/-- The double nearest to a whole number. -/
def ofInt (n : Int) : Double := ofRatio (n < 0) n.natAbs 1

/-- The double nearest to `x * num / den`; for a double that is not finite, that one. -/
def mulRatio (x : Double) (num den : Nat) : Double :=
  if !x.isFinite then x
  else if 0 ≤ x.scale then
    ofRatio x.negative (x.significand * Nat.pow 2 x.scale.toNat * num) den
  else ofRatio x.negative (x.significand * num) (Nat.pow 2 (-x.scale).toNat * den)

/-- The whole number nearest to a finite double, of two nearest ones the even one. -/
def round (x : Double) : Int :=
  let magnitude : Nat :=
    if 0 ≤ x.scale then x.significand * Nat.pow 2 x.scale.toNat
    else roundDiv x.significand (Nat.pow 2 (-x.scale).toNat)
  if x.negative then -(magnitude : Int) else magnitude

/-- The double nearest to `± digits · 10 ^ exponent`.  Exponents out of all
    proportion are decided without computing the power. -/
def ofDecimal (negative : Bool) (digits : Nat) (exponent : Int) : Double :=
  if digits = 0 then zero negative
  else if 400 < exponent then infinity negative
  else if exponent + digits.log2 < -400 then zero negative
  else if 0 ≤ exponent then ofRatio negative (digits * Nat.pow 10 exponent.toNat) 1
  else ofRatio negative digits (Nat.pow 10 (-exponent).toNat)

end Double

end DocumentClient
