import EventAlgebra.Fault
import EventAlgebra.Json.Record
import EventAlgebra.Projection
import EventAlgebra.Text.Blank

/-!
# Projection forms

The projection block of a request form. A blank alias is no alias, and a blank boundary is the
default one.
-/

set_option autoImplicit false

namespace EventAlgebra

open Text

/-- An output column as it was filled in. -/
structure FieldForm where
  source : String
  /-- The alias, blank if none was chosen. -/
  chosen : String
deriving DecidableEq, Repr

/-- The projection block as it was filled in. -/
structure ProjectionForm where
  start : String
  finish : String
  fields : List FieldForm
deriving DecidableEq, Repr

namespace FieldForm

/-- The output column at a position. -/
def validate (position : Nat) (form : FieldForm) : Except Fault ProjectionField :=
  let source := trim form.source
  let name := trim form.chosen
  if source = "" then .error (.sourceMissing position)
  else .ok ⟨source, if name = "" then none else some name⟩

/-- Read a column. -/
def ofJson? (value : Json) : Option FieldForm := do
  let fields ← value.fields? ["source", "alias"]
  match fields with
  | [source, chosen] =>
    return { source := ← Json.textField source, chosen := ← Json.textField chosen }
  | _ => none

/-- Write a column. -/
def toJson (form : FieldForm) : Json :=
  .object [("source", .string form.source), ("alias", .string form.chosen)]

end FieldForm

namespace ProjectionForm

/-- A block left empty. -/
def blank : ProjectionForm := ⟨"", "", []⟩

/-- A boundary, or the default one if it is blank. -/
def boundary (default input : String) : String :=
  if trim input = "" then default else trim input

/-- The output columns from a position on. -/
def validateFields (position : Nat) : List FieldForm → Except Fault (List ProjectionField)
  | [] => .ok []
  | form :: rest => do
    let field ← form.validate position
    let fields ← validateFields (position + 1) rest
    return field :: fields

/-- The projection that a block describes. -/
def validate (form : ProjectionForm) : Except Fault Projection := do
  let fields ← validateFields 1 form.fields
  return { fields := fields
           start := boundary Projection.defaultStart form.start
           finish := boundary Projection.defaultFinish form.finish }

/-- Read a block. -/
def ofJson? (value : Json) : Option ProjectionForm := do
  let fields ← value.fields? ["start", "end", "fields"]
  match fields with
  | [start, finish, columns] =>
    return { start := ← Json.textField start
             finish := ← Json.textField finish
             fields := ← Json.listField FieldForm.ofJson? columns }
  | _ => none

/-- Write a block. -/
def toJson (form : ProjectionForm) : Json :=
  .object [
    ("start", .string form.start),
    ("end", .string form.finish),
    ("fields", .array (form.fields.map FieldForm.toJson))]

end ProjectionForm

end EventAlgebra
