import EventAlgebra.Text.Quoted

/-!
# Faults of a request

Everything that can be wrong with a filled-in request form, and the wording shown for it. Slots
are the operands as the form names them; positions count from one.
-/

set_option autoImplicit false

namespace EventAlgebra

open Text

/-- A reason for which a request form is refused. -/
inductive Fault where
  /-- The event has no name. -/
  | nameMissing
  /-- The event name is not an identifier. -/
  | nameMalformed (name : String)
  /-- An operand selects nothing. -/
  | predicateMissing (slot : String)
  /-- An operand selects a saved event without naming it. -/
  | referenceUnnamed (slot : String)
  /-- No kind of temporal relation is selected. -/
  | relationMissing
  /-- There is no such kind of temporal relation. -/
  | relationUnknown (text : String)
  /-- There is no such order of two events. -/
  | orderUnknown (text : String)
  /-- There is no such kind of overlap. -/
  | overlapUnknown (text : String)
  /-- A bound is not a number. -/
  | boundMalformed (text : String)
  /-- A constraint lacks one of its sides. -/
  | variableMissing (position : Nat)
  /-- A constraint compares by an unknown operator. -/
  | operatorUnknown (position : Nat) (text : String)
  /-- The offset of a constraint is not an integer. -/
  | offsetMalformed (position : Nat) (text : String)
  /-- An output column has no source. -/
  | sourceMissing (position : Nat)
deriving DecidableEq, Repr

/-- The wording of a fault. -/
def Fault.describe : Fault → String
  | nameMissing => "event name is required"
  | nameMalformed name =>
    "event name " ++ quoted name ++ " must be a plain identifier (letters, digits, '_')"
  | predicateMissing slot => slot ++ " has no predicate selected"
  | referenceUnnamed slot => slot ++ " selects a saved event but names none"
  | relationMissing => "no temporal relation type selected"
  | relationUnknown text => "unknown relation type " ++ quoted text
  | orderUnknown text => "unknown sequential order " ++ quoted text
  | overlapUnknown text => "unknown overlap type " ++ quoted text
  | boundMalformed text => "bound must be a number, got " ++ quoted text
  | variableMissing position => "constraint " ++ toString position ++ " is missing a variable"
  | operatorUnknown position text =>
    "constraint " ++ toString position ++ " has unknown operator " ++ quoted text
  | offsetMalformed position text =>
    "constraint " ++ toString position ++ " has non-numeric modifier " ++ quoted text
  | sourceMissing position => "projection field " ++ toString position ++ " has no source"

end EventAlgebra
