import EventAlgebra.Constraint
import EventAlgebra.Operand
import EventAlgebra.Projection
import EventAlgebra.Relation
import EventAlgebra.Text.Digit
import EventAlgebra.Text.Letter

/-!
# Requests

A request defines an event by two operands, the relation between them, constraints and a
projection. With exclusion set, the second operand is taken away from the first and the relation
plays no part. Event names are identifiers.
-/

set_option autoImplicit false

namespace EventAlgebra

open Text

/-- A definition of an event, ready to be compiled. -/
structure Request where
  name : String
  first : Operand
  second : Operand
  relation : Relation
  constraints : List Constraint
  exclusion : Bool
  projection : Projection
deriving DecidableEq, Repr

/-- A request without constraints that projects the boundaries only. -/
def Request.plain (name : String) (first second : Operand) (relation : Relation) : Request where
  name := name
  first := first
  second := second
  relation := relation
  constraints := []
  exclusion := false
  projection := .boundariesOnly

/-- Identifiers: a letter or an underscore, then letters, numerals and underscores. -/
def isIdentifier (name : String) : Bool :=
  match name.toList with
  | [] => false
  | first :: rest =>
    (isLetter first || first == '_') && rest.all fun c => isLetter c || isNumeral c || c == '_'

end EventAlgebra
