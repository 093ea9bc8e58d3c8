import EventAlgebra.Json.Shortest
import EventAlgebra.Text.Integer

/-!
# Numbers

A number is an integer of 64 bits or a double. `NumberLiteral` holds the parts of a number as
they are written and `NumberLiteral.value?` gives the number they denote: digits are taken into
the significand while it fits in 64 bits, and the digits left out of a whole part count only by
their number. A literal beyond the largest double denotes nothing.
-/

set_option autoImplicit false

namespace EventAlgebra.Json

open Text

/-- An integer of 64 bits, signed or not, or a double. -/
inductive Number where
  | integer (value : Int)
  | real (negative : Bool) (magnitude : Magnitude)
deriving DecidableEq, Repr

/-! ## Denotation -/

/-- The parts of a written number. -/
structure NumberLiteral where
  negative : Bool
  whole : List Char
  /-- The digits after the point, none if there is no point. -/
  fraction : List Char
  /-- Whether the exponent is negative, and its digits. -/
  exponent : Option (Bool × List Char)
deriving DecidableEq, Repr

/-- Take digits into a significand while it fits in 64 bits; the digits left over come second. -/
def absorbDigits (significand : Nat) : List Char → Nat × List Char
  | [] => (significand, [])
  | digit :: rest =>
    let next := 10 * significand + (digit.toNat - '0'.toNat)
    if next ≤ largestNat64 then absorbDigits next rest else (significand, digit :: rest)

/-- The number of an integer literal. There is no integer `-0`, and integers that do not fit in 64
bits become doubles. -/
def integerNumber? (negative : Bool) (value : Nat) : Option Number :=
  if negative then
    if value = 0 || 0x8000000000000000 < value then (Magnitude.round? value 1).map (.real true)
    else some (.integer (-(value : Int)))
  else some (.integer value)

/-- An exponent beyond 32 bits: only zero stays, and what shrinks away. -/
def hugeExponentNumber? (negative : Bool) (significand : Nat) (shrinking : Bool) : Option Number :=
  if significand ≠ 0 && !shrinking then none else some (.real negative .zero)

namespace NumberLiteral

/-- The significand of a literal and its power of ten, before the exponent is applied. -/
def parts (literal : NumberLiteral) : Nat × Int :=
  let whole := absorbDigits 0 literal.whole
  let all := absorbDigits whole.1 literal.fraction
  (all.1, (whole.2.length : Int) - (literal.fraction.length - all.2.length : Nat))

/-- Whether a literal is an integer whose digits all fit in 64 bits. -/
def isInteger (literal : NumberLiteral) : Bool :=
  literal.fraction.isEmpty && literal.exponent.isNone &&
    (absorbDigits 0 literal.whole).2.isEmpty

/-- The number that a literal denotes, if there is one. -/
def value? (literal : NumberLiteral) : Option Number :=
  let (significand, power) := literal.parts
  if literal.isInteger then integerNumber? literal.negative significand
  else
    match literal.exponent with
    | none => (decimalMagnitude? significand power).map (.real literal.negative)
    | some (shrinking, digits) =>
      let exponent := digitRunValue digits
      if 0x80000000 ≤ exponent then hugeExponentNumber? literal.negative significand shrinking
      else
        let power := if shrinking then power - exponent else power + exponent
        (decimalMagnitude? significand power).map (.real literal.negative)

end NumberLiteral

/-! ## Writing -/

/-- Decimal exponents from -5 to 15 are written in plain notation. -/
def isPlainExponent (exponent : Int) : Bool :=
  -5 ≤ exponent && exponent ≤ 15

/-- Digits in plain notation, the first one standing for `10 ^ exponent`. A whole number keeps a
zero after the point. -/
def plainNotation (digits : List Char) (exponent : Int) : List Char :=
  if exponent < 0 then
    '0' :: '.' :: (List.replicate ((-exponent).toNat - 1) '0' ++ digits)
  else
    let wholeLength := exponent.toNat + 1
    if digits.length ≤ wholeLength then
      digits ++ List.replicate (wholeLength - digits.length) '0' ++ ['.', '0']
    else digits.take wholeLength ++ '.' :: digits.drop wholeLength

/-- Digits in scientific notation, the sign of the exponent always written. -/
def scientificNotation (digits : List Char) (exponent : Int) : List Char :=
  let mark := if exponent < 0 then ['e', '-'] else ['e', '+']
  digits.take 1 ++ (if digits.length ≤ 1 then [] else '.' :: digits.drop 1) ++ mark ++
    Nat.toDigits 10 exponent.natAbs

/-- The magnitude of a double in its fewest digits. -/
def renderMagnitude (magnitude : Magnitude) : List Char :=
  if magnitude.significand = 0 then ['0', '.', '0']
  else
    let decimal := shortestDecimal magnitude
    let digits := Nat.toDigits 10 decimal.digits
    let exponent := decimal.power + digits.length - 1
    if isPlainExponent exponent then plainNotation digits exponent
    else scientificNotation digits exponent

/-- The text of a number. -/
def Number.render : Number → String
  | integer value => toString value
  | real negative magnitude =>
    String.ofList ((if negative then ['-'] else []) ++ renderMagnitude magnitude)

end EventAlgebra.Json
