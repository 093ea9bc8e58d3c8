import EventAlgebra.Json.Binary64

/-!
# Shortest decimals

`shortestDecimal` finds the decimal with the fewest digits among those that round to a given
double, and of these the one nearest to it. Decimals `k * 10 ^ p` are tried from coarse grids to
fine ones; on each grid only the two neighbours of the double can round to it.
-/

set_option autoImplicit false

namespace EventAlgebra.Json

/-- A decimal `digits * 10 ^ power`. -/
structure Decimal where
  digits : Nat
  power : Int
deriving DecidableEq, Repr

/-- The quotient `quarters * 2 ^ (exponent - 2) / 10 ^ power`, as a pair of natural numbers. Bounds
of the reals that round to a double are whole quarters of its last place. -/
def quartersOnGrid (quarters : Nat) (exponent power : Int) : Nat × Nat :=
  let binary := scaleDown quarters 1 (2 - exponent)
  (binary.1 * Nat.pow 10 (-power).toNat, binary.2 * Nat.pow 10 power.toNat)

/-- Quarters of the last place from zero to the lower bound of the reals that round to a double.
Below a power of two the doubles lie closer together. -/
def lowerQuarters (value : Magnitude) : Nat :=
  if value.significand = 0x10000000000000 && leastExponent < value.exponent then
    4 * value.significand - 1
  else 4 * value.significand - 2

/-- Quarters of the last place from zero to the upper bound of the reals that round to a double. -/
def upperQuarters (value : Magnitude) : Nat :=
  4 * value.significand + 2

/-- Whether a decimal rounds to a double. The bounds themselves do when the significand is even. -/
def roundsTo (value : Magnitude) (decimal : Decimal) : Bool :=
  let lower := quartersOnGrid (lowerQuarters value) value.exponent decimal.power
  let upper := quartersOnGrid (upperQuarters value) value.exponent decimal.power
  if value.significand % 2 = 0 then
    lower.1 ≤ decimal.digits * lower.2 && decimal.digits * upper.2 ≤ upper.1
  else
    lower.1 < decimal.digits * lower.2 && decimal.digits * upper.2 < upper.1

/-- The decimal on the grid of `10 ^ power` that rounds to a double and lies nearest to it, a tie
going to the even digits, if there is one. -/
def onGrid? (value : Magnitude) (power : Int) : Option Decimal :=
  let exact := quartersOnGrid (4 * value.significand) value.exponent power
  let below : Decimal := ⟨exact.1 / exact.2, power⟩
  let above : Decimal := ⟨exact.1 / exact.2 + 1, power⟩
  let nearest := if roundDiv exact.1 exact.2 = below.digits then below else above
  match roundsTo value below, roundsTo value above with
  | true, true => some nearest
  | true, false => some below
  | false, true => some above
  | false, false => none

/-- The decimal with the fewest digits that rounds to a double, and of these the nearest. No double
reaches `10 ^ 309`, and seventeen digits suffice for the smallest. -/
def shortestDecimal (value : Magnitude) : Decimal :=
  ((List.range 655).findSome? fun (step : Nat) => onGrid? value (309 - (step : Int))).getD ⟨0, 0⟩

end EventAlgebra.Json
