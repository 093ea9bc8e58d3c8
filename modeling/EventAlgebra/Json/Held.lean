import EventAlgebra.Json.Basic

/-!
# Held values

A value that is kept, rather than read into a record, is kept in normal form: the members of its
objects are sorted by key and only the last member of each key stays. Values nested too deeply,
and values that contain something unreadable, are not kept.
-/

set_option autoImplicit false

namespace EventAlgebra.Json

/-- Put a member among members sorted by key, in place of one with the same key. Keys are ordered
by their code points. -/
def insertMember {α : Type} (key : String) (value : α) : List (String × α) → List (String × α)
  | [] => [(key, value)]
  | (other, held) :: rest =>
    if key < other then (key, value) :: (other, held) :: rest
    else if key = other then (key, value) :: rest
    else (other, held) :: insertMember key value rest

/-- Members sorted by key, the last of each key. -/
def sortMembers {α : Type} (members : List (String × α)) : List (String × α) :=
  members.foldl (fun sorted member => insertMember member.1 member.2 sorted) []

mutual

/-- The normal form of a value. -/
def normal : Json → Json
  | array items => array (normalItems items)
  | object members => object (sortMembers (normalMembers members))
  | value => value

/-- The normal forms of the items of an array. -/
def normalItems : List Json → List Json
  | [] => []
  | item :: rest => normal item :: normalItems rest

/-- The members of an object with their values in normal form. -/
def normalMembers : List (String × Json) → List (String × Json)
  | [] => []
  | (key, value) :: rest => (key, normal value) :: normalMembers rest

end

mutual

/-- Whether a value is readable throughout and opens at most `depth` containers inside each
other. -/
def fits : Nat → Json → Bool
  | _, unreadable => false
  | 0, array _ => false
  | 0, object _ => false
  | depth + 1, array items => fitsItems depth items
  | depth + 1, object members => fitsMembers depth members
  | _, _ => true

/-- Whether all items of an array fit. -/
def fitsItems : Nat → List Json → Bool
  | _, [] => true
  | depth, item :: rest => fits depth item && fitsItems depth rest

/-- Whether the values of all members of an object fit. -/
def fitsMembers : Nat → List (String × Json) → Bool
  | _, [] => true
  | depth, (_, value) :: rest => fits depth value && fitsMembers depth rest

end

/-- The containers that may be open inside each other in a text with a held value. -/
def depthLimit : Nat := 127

/-- The normal form of a value inside `outer` containers, if it can be held. -/
def held? (outer : Nat) (value : Json) : Option Json :=
  if fits (depthLimit - outer) value then some (normal value) else none

end EventAlgebra.Json
