/-!
# Reading integers

Integers are written with ASCII digits. A natural number is a non-empty run of digits; a signed
integer may have one sign in front. Both are read only when they fit in 64 bits.
-/

set_option autoImplicit false

namespace EventAlgebra.Text

/-- The largest natural number of 64 bits. -/
def largestNat64 : Nat := 0xFFFFFFFFFFFFFFFF

/-- A non-empty run of ASCII digits. -/
def isDigitRun (cs : List Char) : Bool :=
  !cs.isEmpty && cs.all Char.isDigit

/-- The value of a run of ASCII digits. -/
def digitRunValue (digits : List Char) : Nat :=
  Nat.ofDigitChars 10 digits 0

/-- Read a natural number of 64 bits. -/
def readNat64? (cs : List Char) : Option Nat :=
  if isDigitRun cs && digitRunValue cs ≤ largestNat64 then some (digitRunValue cs) else none

/-- Read a signed integer of 64 bits, with or without its sign. -/
def readInt64? (cs : List Char) : Option Int :=
  match cs with
  | '-' :: digits =>
    if isDigitRun digits && digitRunValue digits ≤ 0x8000000000000000 then
      some (-(digitRunValue digits : Int))
    else none
  | '+' :: digits =>
    if isDigitRun digits && digitRunValue digits < 0x8000000000000000 then
      some (digitRunValue digits)
    else none
  | digits =>
    if isDigitRun digits && digitRunValue digits < 0x8000000000000000 then
      some (digitRunValue digits)
    else none

/-- A number written in decimal is a run of digits. -/
theorem isDigitRun_toDigits (n : Nat) : isDigitRun (Nat.toDigits 10 n) = true := by
  have hne : Nat.toDigits 10 n ≠ [] := Nat.toDigits_ne_nil
  simp only [isDigitRun, Bool.and_eq_true, Bool.not_eq_true', List.isEmpty_eq_false_iff]
  exact ⟨hne, List.all_eq_true.2 fun c hc => Nat.isDigit_of_mem_toDigits (by decide) (by decide) hc⟩

theorem digitRunValue_toDigits (n : Nat) : digitRunValue (Nat.toDigits 10 n) = n :=
  Nat.ofDigitChars_toDigits (by decide) (by decide)

/-- A number is told by its decimal text. -/
theorem toString_nat_inj {n m : Nat} : toString n = toString m ↔ n = m := by
  constructor
  · intro h
    have hvalue := congrArg (fun text => digitRunValue text.toList) h
    simpa [digitRunValue_toDigits] using hvalue
  · exact congrArg toString

/-- A number of 64 bits written in decimal is read back. -/
theorem readNat64?_toDigits {n : Nat} (h : n ≤ largestNat64) :
    readNat64? (Nat.toDigits 10 n) = some n := by
  simp [readNat64?, isDigitRun_toDigits, digitRunValue_toDigits, h]

end EventAlgebra.Text
