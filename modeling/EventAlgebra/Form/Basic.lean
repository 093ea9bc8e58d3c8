import EventAlgebra.Form.Constraint
import EventAlgebra.Form.Operand
import EventAlgebra.Form.Projection
import EventAlgebra.Form.Relation
import EventAlgebra.Request

/-!
# Request forms

A request form holds a definition as it was filled in: every input is a text, and an empty text is
an input left open. `Form.validate` checks the parts in order, the name first, and gives the
request or the first fault. A form is read from a JSON document and written as one; an empty name
is left out.
-/

set_option autoImplicit false

namespace EventAlgebra

open Text

/-- A request as it was filled in. -/
structure Form where
  name : String
  first : OperandForm
  second : OperandForm
  relation : RelationForm
  constraints : List ConstraintForm
  exclusion : Bool
  projection : ProjectionForm
deriving DecidableEq, Repr

namespace Form

/-- The name of an event. -/
def validateName (input : String) : Except Fault String :=
  let name := trim input
  if name = "" then .error .nameMissing
  else if isIdentifier name then .ok name
  else .error (.nameMalformed name)

/-- The constraints from a position on. -/
def validateConstraints (position : Nat) : List ConstraintForm → Except Fault (List Constraint)
  | [] => .ok []
  | form :: rest => do
    let constraint ← form.validate position
    let constraints ← validateConstraints (position + 1) rest
    return constraint :: constraints

/-- The request that a form describes, or the first fault. -/
def validate (form : Form) : Except Fault Request := do
  let name ← validateName form.name
  let first ← form.first.validate "op1"
  let second ← form.second.validate "op2"
  let relation ← form.relation.validate
  let constraints ← validateConstraints 1 form.constraints
  let projection ← form.projection.validate
  return { name, first, second, relation, constraints, exclusion := form.exclusion, projection }

/-- Read a form. -/
def ofJson? (value : Json) : Option Form := do
  let fields ← value.fields?
    ["name", "op1", "op2", "relation", "constraints", "exclusion", "projection"]
  match fields with
  | [name, first, second, relation, constraints, exclusion, projection] =>
    return { name := ← Json.textField name
             first := ← Json.fieldOr .blank OperandForm.ofJson? first
             second := ← Json.fieldOr .blank OperandForm.ofJson? second
             relation := ← Json.fieldOr .blank RelationForm.ofJson? relation
             constraints := ← Json.listField ConstraintForm.ofJson? constraints
             exclusion := ← Json.fieldOr false Json.bool? exclusion
             projection := ← Json.fieldOr .blank ProjectionForm.ofJson? projection }
  | _ => none

/-- Write a form. -/
def toJson (form : Form) : Json :=
  .object
    ((if form.name = "" then [] else [("name", .string form.name)]) ++ [
      ("op1", form.first.toJson),
      ("op2", form.second.toJson),
      ("relation", form.relation.toJson),
      ("constraints", .array (form.constraints.map ConstraintForm.toJson)),
      ("exclusion", .bool form.exclusion),
      ("projection", form.projection.toJson)])

end Form

end EventAlgebra
