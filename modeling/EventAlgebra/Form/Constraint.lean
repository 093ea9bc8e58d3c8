import EventAlgebra.Constraint
import EventAlgebra.Fault
import EventAlgebra.Json.Record

/-!
# Constraint forms

One row of the constraints of a request form. An offset may be blank; one plus sign in front of it
is dropped before the integer is read.
-/

set_option autoImplicit false

namespace EventAlgebra

open Text

/-- A constraint as it was filled in. -/
structure ConstraintForm where
  left : String
  operator : String
  right : String
  offset : String
deriving DecidableEq, Repr

namespace ConstraintForm

/-- A text without one plus sign in front. -/
def dropPlus : List Char → List Char
  | '+' :: rest => rest
  | cs => cs

/-- Read the offset of the constraint at a position. -/
def readOffset (position : Nat) (input : String) : Except Fault (Option Int) :=
  let text := trim input
  if text = "" then .ok none
  else
    match readInt64? (trim (String.ofList (dropPlus text.toList))).toList with
    | some value => .ok (some value)
    | none => .error (.offsetMalformed position text)

/-- The constraint that a row describes. -/
def validate (position : Nat) (form : ConstraintForm) : Except Fault Constraint :=
  let left := trim form.left
  let right := trim form.right
  if left = "" ∨ right = "" then .error (.variableMissing position)
  else
    match Comparison.read? form.operator with
    | none => .error (.operatorUnknown position form.operator)
    | some comparison =>
      (readOffset position form.offset).map fun offset => ⟨left, comparison, right, offset⟩

/-- Read a row. -/
def ofJson? (value : Json) : Option ConstraintForm := do
  let fields ← value.fields? ["op1", "operator", "op2", "mod"]
  match fields with
  | [left, operator, right, offset] =>
    return { left := ← Json.textField left
             operator := ← Json.textField operator
             right := ← Json.textField right
             offset := ← Json.textField offset }
  | _ => none

/-- Write a row. -/
def toJson (form : ConstraintForm) : Json :=
  .object [
    ("op1", .string form.left),
    ("operator", .string form.operator),
    ("op2", .string form.right),
    ("mod", .string form.offset)]

end ConstraintForm

end EventAlgebra
