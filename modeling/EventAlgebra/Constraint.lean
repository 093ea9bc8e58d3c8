import EventAlgebra.Text.Blank
import EventAlgebra.Text.Integer
import EventAlgebra.Text.Join
import EventAlgebra.Leaf.Variable

/-!
# Constraints

A constraint compares two variables, the right one with an optional integer offset. Constraints
of an expression are joined into one predicate; without constraints the predicate is `True`.
-/

set_option autoImplicit false

namespace EventAlgebra

open Text

/-- A comparison operator. -/
inductive Comparison where
  | eq
  | ne
  | lt
  | gt
  | le
  | ge
deriving DecidableEq, Repr

namespace Comparison

/-- Read an operator, in its ASCII or its mathematical spelling. -/
def read? (input : String) : Option Comparison :=
  match trim input with
  | "=" => some eq
  | "!=" => some ne
  | "≠" => some ne
  | "<" => some lt
  | ">" => some gt
  | "<=" => some le
  | "≤" => some le
  | ">=" => some ge
  | "≥" => some ge
  | _ => none

/-- The ASCII spelling of an operator. -/
def render : Comparison → String
  | eq => "="
  | ne => "!="
  | lt => "<"
  | gt => ">"
  | le => "<="
  | ge => ">="

end Comparison

/-- A comparison of two variables with an optional offset on the right. -/
structure Constraint where
  left : String
  comparison : Comparison
  right : String
  offset : Option Int
deriving DecidableEq, Repr

/-- An integer with its sign, also when it is positive. -/
def signed (value : Int) : String :=
  if value < 0 then toString value else "+" ++ toString value

namespace Constraint

/-- The text of a constraint. An offset of zero is not written. -/
def render (c : Constraint) : String :=
  let compared := c.left ++ " " ++ c.comparison.render ++ " " ++ c.right
  match c.offset with
  | none => compared
  | some offset => if offset = 0 then compared else compared ++ " " ++ signed offset

/-- Move both variables to the starts of their operands. -/
def remap (starts : Starts) (c : Constraint) : Constraint :=
  { c with left := EventAlgebra.remap starts c.left, right := EventAlgebra.remap starts c.right }

/-- The predicate that demands all of the constraints. -/
def predicate (constraints : List Constraint) : String :=
  if constraints.isEmpty then "True" else joinWith " ∧ " (constraints.map render)

end Constraint

end EventAlgebra
