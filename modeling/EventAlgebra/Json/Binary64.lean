/-!
# Binary floating point in exact arithmetic

A finite double is a significand below `2 ^ 53` times a power of two. `Magnitude.round?` rounds a
quotient of natural numbers to the nearest one, a tie to the even significand, and products and
quotients are rounded the same way. Nothing here uses machine floating point, so every step can
be computed and reasoned about.
-/

set_option autoImplicit false

namespace EventAlgebra.Json

/-- The magnitude of a finite double: `significand * 2 ^ exponent`. -/
structure Magnitude where
  significand : Nat
  exponent : Int
deriving DecidableEq, Repr

/-- The exponent of the smallest doubles. -/
def leastExponent : Int := -1074

/-- The exponent of the largest doubles. -/
def greatestExponent : Int := 971

/-- The quotient rounded to the nearest natural number, a tie to the even one. -/
def roundDiv (num den : Nat) : Nat :=
  let quotient := num / den
  let twice := 2 * (num % den)
  if twice < den || (twice == den && quotient % 2 == 0) then quotient else quotient + 1

/-- The quotient `num / den` divided by `2 ^ exponent`, again as a quotient. -/
def scaleDown (num den : Nat) (exponent : Int) : Nat × Nat :=
  (num * Nat.pow 2 (-exponent).toNat, den * Nat.pow 2 exponent.toNat)

namespace Magnitude

/-- Zero. -/
def zero : Magnitude := ⟨0, leastExponent⟩

/-- The double nearest to a quotient, unless it is too large for a double. -/
def round? (num den : Nat) : Option Magnitude :=
  if num = 0 then some zero
  else
    let estimate : Int := max ((num.log2 : Int) - den.log2 - 53) leastExponent
    let scaled := scaleDown num den estimate
    let exponent := if 0x20000000000000 ≤ scaled.1 / scaled.2 then estimate + 1 else estimate
    let scaled := scaleDown num den exponent
    let significand := roundDiv scaled.1 scaled.2
    let rounded : Magnitude :=
      if significand = 0x20000000000000 then ⟨0x10000000000000, exponent + 1⟩
      else ⟨significand, exponent⟩
    if rounded.exponent ≤ greatestExponent then some rounded else none

/-- The product of two doubles, rounded. -/
def mul? (a b : Magnitude) : Option Magnitude :=
  let scaled := scaleDown (a.significand * b.significand) 1 (-(a.exponent + b.exponent))
  round? scaled.1 scaled.2

/-- The quotient of two doubles, rounded. -/
def div? (a b : Magnitude) : Option Magnitude :=
  let scaled := scaleDown a.significand b.significand (b.exponent - a.exponent)
  round? scaled.1 scaled.2

/-- The power of ten nearest to `10 ^ n` among the doubles. -/
def powerOfTen? (n : Nat) : Option Magnitude :=
  round? (Nat.pow 10 n) 1

end Magnitude

/-! ## Reading decimals -/

/-- Multiply a double by a power of ten that is itself below the largest double. -/
def scaleInRange? (value : Magnitude) (power : Int) : Option Magnitude :=
  (Magnitude.powerOfTen? power.natAbs).bind fun factor =>
    if 0 ≤ power then value.mul? factor else value.div? factor

/-- Multiply a double by a power of ten in as few rounded steps as the range of powers, up to
`10 ^ 308` either way, allows. There is no result beyond the largest double. -/
def scaleByPowerOfTen (value : Magnitude) (power : Int) : Option Magnitude :=
  if power.natAbs ≤ 308 then scaleInRange? value power
  else if value.significand = 0 then some value
  else if 0 ≤ power then none
  else
    (scaleInRange? value (-308)).bind fun smaller => scaleByPowerOfTen smaller (power + 308)
termination_by power.natAbs
decreasing_by omega

/-- The double for `significand * 10 ^ power`: the significand is rounded first and then scaled. -/
def decimalMagnitude? (significand : Nat) (power : Int) : Option Magnitude :=
  (Magnitude.round? significand 1).bind fun value => scaleByPowerOfTen value power

end EventAlgebra.Json
