/-!
# Timestamps

The text of a moment of universal time: date and time of day with as many digits of a fraction as
the moment needs (none, three, six or nine), and the offset from universal time, which is zero.
-/

set_option autoImplicit false

namespace EventAlgebra.Timestamp

/-- A number in at least `width` digits, with zeros in front. -/
def padded (width value : Nat) : String :=
  let digits := Nat.toDigits 10 value
  String.ofList (List.replicate (width - digits.length) '0' ++ digits)

/-- The date of a day, counted from the first of January 1970: year, month and day. Years are taken
to begin in March, so that the day added in a leap year is the last one. -/
def dateOf (day : Nat) : Nat × Nat × Nat :=
  let shifted := day + 719468
  let era := shifted / 146097
  let dayOfEra := shifted % 146097
  let yearOfEra := (dayOfEra - dayOfEra / 1460 + dayOfEra / 36524 - dayOfEra / 146096) / 365
  let dayOfYear := dayOfEra - (365 * yearOfEra + yearOfEra / 4 - yearOfEra / 100)
  let marchMonth := (5 * dayOfYear + 2) / 153
  let dayOfMonth := dayOfYear - (153 * marchMonth + 2) / 5 + 1
  let month := if marchMonth < 10 then marchMonth + 3 else marchMonth - 9
  let year := yearOfEra + era * 400 + (if month ≤ 2 then 1 else 0)
  (year, month, dayOfMonth)

/-- The fraction of a second, if there is one. -/
def fraction (nanoseconds : Nat) : String :=
  if nanoseconds = 0 then ""
  else if nanoseconds % 1000000 = 0 then "." ++ padded 3 (nanoseconds / 1000000)
  else if nanoseconds % 1000 = 0 then "." ++ padded 6 (nanoseconds / 1000)
  else "." ++ padded 9 nanoseconds

/-- The text of a moment, given in nanoseconds from the start of 1970. -/
def render (nanoseconds : Nat) : String :=
  let seconds := nanoseconds / 1000000000
  let (year, month, day) := dateOf (seconds / 86400)
  let time := seconds % 86400
  padded 4 year ++ "-" ++ padded 2 month ++ "-" ++ padded 2 day ++ "T" ++
    padded 2 (time / 3600) ++ ":" ++ padded 2 (time / 60 % 60) ++ ":" ++ padded 2 (time % 60) ++
    fraction (nanoseconds % 1000000000) ++ "+00:00"

example : render 0 = "1970-01-01T00:00:00+00:00" := by decide +kernel
example : render 951827696789000000 = "2000-02-29T12:34:56.789+00:00" := by decide +kernel

end EventAlgebra.Timestamp
