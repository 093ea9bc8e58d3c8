import EventAlgebra.Json.Basic

/-!
# Records in JSON

A record with named fields is written as an object, in which unknown members are ignored and no
field may be repeated, or as an array of its fields in order, of which some at the end may be
missing. `fields?` finds the value given for each field; the readers below it say which values a
field of some type accepts, an absent field taking its default.
-/

set_option autoImplicit false

namespace EventAlgebra.Json

/-- Whether no member with this key is repeated. -/
def occursOnce {α : Type} (members : List (String × α)) (key : String) : Bool :=
  members.countP (·.1 == key) ≤ 1

/-- The values given for the fields of a record, in the order of the names. -/
def fields? (names : List String) : Json → Option (List (Option Json))
  | array items =>
    if items.length ≤ names.length then
      some (items.map some ++ List.replicate (names.length - items.length) none)
    else none
  | object members =>
    if names.all (occursOnce members) then
      some (names.map fun name => List.lookup name members)
    else none
  | _ => none

/-- A field with a default. -/
def fieldOr {α : Type} (default : α) (read : Json → Option α) : Option Json → Option α
  | none => some default
  | some value => read value

/-- A text field, empty by default. -/
def textField : Option Json → Option String :=
  fieldOr "" string?

/-- A list field, empty by default. -/
def listField {α : Type} (read : Json → Option α) : Option Json → Option (List α) :=
  fieldOr [] fun value => value.array?.bind fun items => items.mapM read

/-- An optional field; `null` is the same as no value. -/
def optionalField {α : Type} (read : Json → Option α) : Option Json → Option (Option α)
  | none => some none
  | some null => some none
  | some value => (read value).map some

/-- A field that must be given. -/
def requiredField {α : Type} (read : Json → Option α) (given : Option Json) : Option α :=
  given.bind read

end EventAlgebra.Json
