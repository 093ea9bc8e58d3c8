import EventAlgebra.Leaf.Token
import EventAlgebra.Text.Integer

/-!
# Leaf indices and renumbering

`leafIndices` lists the indices of the leaves of a text in order, `maxLeaf?` is the largest of
them, and `shift` adds a number to every index. Indices are natural numbers of 64 bits. Digits
that denote no such number (too many of them, or digits of another script) count as the largest
index, and renumbering leaves them as they are, as it does an index that would grow too large.
-/

set_option autoImplicit false

namespace EventAlgebra

open Text

/-- The largest leaf index that stored algebra may use. -/
def leafLimit : Nat := 0x100000

/-- The leaf with an index. -/
def leafName (index : Nat) : String :=
  "M" ++ toString index

namespace Token

/-- The index of a leaf token, the largest index standing for digits that denote none. -/
def leafIndex? : Token → Option Nat
  | leaf digits => some ((readNat64? digits).getD largestNat64)
  | _ => none

/-- Add `amount` to the index of a leaf. Other tokens stay, and so does a leaf whose index is not
a number or would no longer fit. -/
def shift (amount : Nat) : Token → Token
  | leaf digits =>
    match readNat64? digits with
    | some index =>
      if index + amount ≤ largestNat64 then leaf (Nat.toDigits 10 (index + amount)) else leaf digits
    | none => leaf digits
  | token => token

end Token

/-- The indices of the leaves of a text, in order. -/
def leafIndices (text : String) : List Nat :=
  (scan text).filterMap Token.leafIndex?

/-- The largest leaf index of a text, if it has a leaf. -/
def maxLeaf? (text : String) : Option Nat :=
  (leafIndices text).max?

/-- Add `amount` to every leaf index of a text. Adding nothing leaves the text as it is, leading
zeros included. -/
def shift (text : String) (amount : Nat) : String :=
  if amount = 0 then text
  else String.ofList (Token.concat ((scan text).map (Token.shift amount)))

@[simp] theorem shift_zero (text : String) : shift text 0 = text := by
  simp [shift]

end EventAlgebra
