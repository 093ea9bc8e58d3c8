import EventAlgebra.Json.Number

/-!
# JSON values

A JSON text is a tree of values. Objects keep their members in the order written, repeated keys
included. Text of the right form can denote no value: a string with an unpaired surrogate, a
number beyond the largest double. It becomes `unreadable`, which no typed field accepts but which
does no harm where a value is ignored.
-/

set_option autoImplicit false

namespace EventAlgebra

/-- A JSON value. -/
inductive Json where
  | null
  | bool (value : Bool)
  | number (value : Json.Number)
  | string (value : String)
  | array (items : List Json)
  | object (members : List (String × Json))
  /-- A value of the right form that denotes nothing. -/
  | unreadable

namespace Json

/-- The text of a string value. -/
def string? : Json → Option String
  | string value => some value
  | _ => none

/-- The truth value of a boolean. -/
def bool? : Json → Option Bool
  | bool value => some value
  | _ => none

/-- The items of an array. -/
def array? : Json → Option (List Json)
  | array items => some items
  | _ => none

/-- The members of an object, in order. -/
def object? : Json → Option (List (String × Json))
  | object members => some members
  | _ => none

end Json

end EventAlgebra
