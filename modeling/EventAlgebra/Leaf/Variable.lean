import EventAlgebra.Leaf.Renumber

/-!
# Variables of clauses

Constraints and projections speak of their two operands as `M1` and `M2`, alone or followed by a
dot and a field. `remap` moves such a variable to the leaf where its operand starts; every other
text stays as it is.
-/

set_option autoImplicit false

namespace EventAlgebra

/-- The leaf indices at which the two operands of an expression start. -/
structure Starts where
  first : Nat
  second : Nat
deriving DecidableEq, Repr

/-- Move a variable to the start of the operand that its root names. The root is the part up to
the first dot. -/
def remap (starts : Starts) (term : String) : String :=
  let root := term.toList.takeWhile (· != '.')
  let field := term.toList.dropWhile (· != '.')
  if root = ['M', '1'] then leafName starts.first ++ String.ofList field
  else if root = ['M', '2'] then leafName starts.second ++ String.ofList field
  else term

end EventAlgebra
