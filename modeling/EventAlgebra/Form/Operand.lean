import EventAlgebra.Fault
import EventAlgebra.Json.Record
import EventAlgebra.Operand
import EventAlgebra.Text.Blank

/-!
# Operand forms

One operand slot of a request form. The predicate `EXISTING` selects a saved event, which is then
named in a field of its own. Filters keep the order in which they were written, and a filter with
a blank value is no filter.
-/

set_option autoImplicit false

namespace EventAlgebra

open Text

/-- An operand slot as it was filled in. -/
structure OperandForm where
  predicate : String
  savedName : String
  filters : List Filter
deriving DecidableEq, Repr

namespace OperandForm

/-- A slot left empty. -/
def blank : OperandForm := ⟨"", "", []⟩

/-- The predicate that selects a saved event. -/
def savedMarker : String := "EXISTING"

/-- What a filled-in slot ranges over. -/
def target (slot : String) (form : OperandForm) : Except Fault Target :=
  let predicate := trim form.predicate
  if predicate = "" then .error (.predicateMissing slot)
  else if predicate = savedMarker then
    let name := trim form.savedName
    if name = "" then .error (.referenceUnnamed slot) else .ok (.saved name)
  else .ok (.atomic predicate)

/-- The operand that a slot describes. -/
def validate (slot : String) (form : OperandForm) : Except Fault Operand :=
  (form.target slot).map fun target => ⟨target, form.filters.filter (trim ·.value ≠ "")⟩

/-- Filters from the members of an object, repeated fields included. -/
def filtersOfJson? (value : Json) : Option (List Filter) :=
  value.object?.bind fun members =>
    members.mapM fun member => member.2.string?.map (Filter.mk member.1)

/-- Read a slot. -/
def ofJson? (value : Json) : Option OperandForm := do
  let fields ← value.fields? ["pred", "existName", "args"]
  match fields with
  | [predicate, savedName, filters] =>
    return { predicate := ← Json.textField predicate
             savedName := ← Json.textField savedName
             filters := ← Json.fieldOr [] filtersOfJson? filters }
  | _ => none

/-- Write a slot. -/
def toJson (form : OperandForm) : Json :=
  .object [
    ("pred", .string form.predicate),
    ("existName", .string form.savedName),
    ("args", .object (form.filters.map fun filter => (filter.field, .string filter.value)))]

end OperandForm

end EventAlgebra
