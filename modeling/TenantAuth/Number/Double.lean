/-!
Binary floating-point numbers of 64 bits, held exactly.

A double is a sign, a significand below 2^53 and a power of two. Every operation is done on exact
fractions and rounded once, to the nearest double and of two equally near ones to the one with the
even significand.
-/

namespace TenantAuth

/-- A finite double: `significand · 2 ^ exponent`, with the sign apart so that zero has two
forms. -/
structure Double where
  isNegative : Bool
  significand : Nat
  exponent : Int
  deriving DecidableEq

namespace Double

/-- The least power of two. -/
def minExponent : Int := -1074

/-- The greatest power of two of a finite double. -/
def maxExponent : Int := 971

/-- The fraction that a non-negative multiple of a power of two is. -/
def fraction (significand : Nat) (exponent : Int) : Nat × Nat :=
  if 0 ≤ exponent then (significand * Nat.pow 2 exponent.toNat, 1)
  else (significand, Nat.pow 2 (-exponent).toNat)

/-- The quotient rounded to a whole number, a half going to the even neighbour. -/
def roundDiv (num den : Nat) : Nat :=
  let q := num / den
  let r := num % den
  if 2 * r < den then q
  else if den < 2 * r then q + 1
  else if q % 2 = 0 then q else q + 1

/-- The power of two that gives the fraction a significand of 53 bits, where the range allows it. -/
def exponentOf (num den : Nat) : Int :=
  let guess : Int := (Nat.log2 num : Int) - (Nat.log2 den : Int) - 52
  let (n, d) := fraction den guess
  max minExponent (if num * d < Nat.pow 2 52 * n then guess - 1 else guess)

/-- The double nearest to a fraction; none when it would be too large. -/
def ofFraction? (isNegative : Bool) (num den : Nat) : Option Double :=
  if num = 0 then some ⟨isNegative, 0, minExponent⟩
  else
    let exponent := exponentOf num den
    let (n, d) := fraction den exponent
    let significand := roundDiv (num * d) n
    let (significand, exponent) :=
      if significand = Nat.pow 2 53 then (Nat.pow 2 52, exponent + 1) else (significand, exponent)
    if maxExponent < exponent then none else some ⟨isNegative, significand, exponent⟩

/-- Whether a double is one of the zeros. -/
def isZero (x : Double) : Bool := x.significand = 0

/-- The size of a double as a fraction. -/
def magnitude (x : Double) : Nat × Nat := fraction x.significand x.exponent

/-- A double with its sign turned. -/
def neg (x : Double) : Double := { x with isNegative := !x.isNegative }

/-- The product with the double nearest to a power of ten; none when either is too large. -/
def scaleUp? (x : Double) (power : Nat) : Option Double := do
  let (tenNum, tenDen) := (← ofFraction? false (Nat.pow 10 power) 1).magnitude
  let (num, den) := x.magnitude
  ofFraction? x.isNegative (num * tenNum) (den * tenDen)

/-- The quotient by the double nearest to a power of ten. -/
def scaleDown? (x : Double) (power : Nat) : Option Double := do
  let (tenNum, tenDen) := (← ofFraction? false (Nat.pow 10 power) 1).magnitude
  let (num, den) := x.magnitude
  ofFraction? x.isNegative (num * tenDen) (den * tenNum)

/-- The largest power of ten that is divided by at once. -/
def maxPower : Nat := 308

/-- Divide by the largest power of ten again and again, until zero is reached. -/
def divideRepeatedly? : Nat → Double → Option Double
  | 0, x => some x
  | count + 1, x =>
    if x.isZero then some x else (x.scaleDown? maxPower).bind (divideRepeatedly? count)

/-- Divide by a power of ten in steps that doubles can express. -/
def divideByPower? (x : Double) (power : Nat) : Option Double :=
  let steps := (power - 1) / maxPower
  (divideRepeatedly? steps x).bind fun y => y.scaleDown? (power - steps * maxPower)

/-- The double that decimal digits and a power of ten stand for: the digits are rounded to a double,
and that is multiplied or divided by the double nearest to the power of ten. -/
def ofDecimal? (isNegative : Bool) (digits : Nat) (power : Int) : Option Double := do
  let x ← ofFraction? isNegative digits 1
  if 0 ≤ power then
    if power.toNat ≤ maxPower then x.scaleUp? power.toNat
    else if x.isZero then some x else none
  else divideByPower? x (-power).toNat

end Double

end TenantAuth
