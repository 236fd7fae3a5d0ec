import TenantAuth.Number.Double

/-!
The shortest decimal that reads back as a double.

The reals that round to a double form an interval, whose ends belong to it exactly when the
significand is even. For one, two, … digits the two neighbours of the double on the decimal grid of
that many digits are tried; the first grid with a hit gives the digits. Of two hits the nearer is
taken, and of two equally near ones the even one.
-/

namespace TenantAuth.Double

/-- A positive decimal: its digits as a number, and the power of ten of the first digit. -/
structure Decimal where
  digits : Nat
  count : Nat
  exponent : Int
  deriving DecidableEq

/-- The power of ten of the first digit of a positive fraction. -/
def decimalExponent (num den : Nat) : Int :=
  if den ≤ num then ((Nat.toDigits 10 (num / den)).length : Int) - 1
  else -((Nat.toDigits 10 ((den - 1) / num)).length : Int)

/-- The ends of the interval that rounds to a double, over the double's own denominator times
four. -/
def interval (x : Double) : Nat × Nat × Nat :=
  let (num, den) := fraction (4 * x.significand) x.exponent
  let (step, _) := fraction 1 x.exponent
  let below := if x.significand = Nat.pow 2 52 ∧ minExponent < x.exponent then step else 2 * step
  (num - below, num + 2 * step, 4 * den)

/-- Whether the fraction lies in the interval that rounds to a double. -/
def roundsTo (x : Double) (num den : Nat) : Bool :=
  let (low, high, unit) := x.interval
  if x.significand % 2 = 0 then low * den ≤ num * unit && num * unit ≤ high * den
  else low * den < num * unit && num * unit < high * den

/-- The distance of two fractions over a common denominator. -/
def distance (a b : Nat) : Nat := (a - b) + (b - a)

/-- The decimal of `count` digits that reads back as the double, if there is one. -/
def decimalOf? (x : Double) (count : Nat) : Option Decimal :=
  let (num, den) := x.magnitude
  let exponent := decimalExponent num den
  let grid := exponent - (count : Int) + 1
  let (gridNum, gridDen) :=
    if 0 ≤ grid then (Nat.pow 10 grid.toNat, 1) else (1, Nat.pow 10 (-grid).toNat)
  let low := num * gridDen / (den * gridNum)
  let fits (c : Nat) : Bool := x.roundsTo (c * gridNum) gridDen
  let gap (c : Nat) : Nat := distance (c * gridNum * den) (num * gridDen)
  let lowIsNearer : Bool := gap low < gap (low + 1) || (gap low = gap (low + 1) && low % 2 = 0)
  let pick : Option Nat :=
    if fits low && (!fits (low + 1) || lowIsNearer) then some low
    else if fits (low + 1) then some (low + 1)
    else none
  pick.map fun c =>
    if c = Nat.pow 10 count then ⟨c / 10, count, exponent + 1⟩ else ⟨c, count, exponent⟩

/-- The shortest decimal of a positive double; seventeen digits always suffice. -/
def shortest (x : Double) : Decimal :=
  ((List.range 17).findSome? fun k => x.decimalOf? (k + 1)).getD ⟨0, 1, 0⟩

end TenantAuth.Double
