import EventAlgebra.Json.Basic
import EventAlgebra.Json.StringLiteral
import EventAlgebra.Text.Join

/-!
# Writing JSON text

`compact` writes a value without blanks. `pretty` sets every item and member on a line of its own,
indented by two spaces a level; empty containers stay on one line. Members are written in the
order the object holds them.
-/

set_option autoImplicit false

namespace EventAlgebra.Json

open Text

mutual

/-- A value without blanks. -/
def compact : Json → String
  | null => "null"
  | bool true => "true"
  | bool false => "false"
  | number value => value.render
  | string value => quote value
  | array items => "[" ++ joinWith "," (compactItems items) ++ "]"
  | object members => "\x7b" ++ joinWith "," (compactMembers members) ++ "\x7d"
  | unreadable => "null"

/-- The items of an array without blanks. -/
def compactItems : List Json → List String
  | [] => []
  | item :: rest => compact item :: compactItems rest

/-- The members of an object without blanks. -/
def compactMembers : List (String × Json) → List String
  | [] => []
  | (key, value) :: rest => (quote key ++ ":" ++ compact value) :: compactMembers rest

end

/-- The start of a line at a level of nesting. -/
def lineStart (level : Nat) : String :=
  String.ofList ('\n' :: List.replicate (2 * level) ' ')

/-- The parts of a container on lines of their own, between its brackets. -/
def block (level : Nat) (opening closing : String) (parts : List String) : String :=
  if parts.isEmpty then opening ++ closing
  else
    opening ++ lineStart (level + 1) ++ joinWith ("," ++ lineStart (level + 1)) parts ++
      lineStart level ++ closing

mutual

/-- A value on indented lines, inside as many containers as the level says. -/
def prettyAt (level : Nat) : Json → String
  | null => "null"
  | bool true => "true"
  | bool false => "false"
  | number value => value.render
  | string value => quote value
  | array items => block level "[" "]" (prettyItems (level + 1) items)
  | object members => block level "\x7b" "\x7d" (prettyMembers (level + 1) members)
  | unreadable => "null"

/-- The items of an array at a level. -/
def prettyItems (level : Nat) : List Json → List String
  | [] => []
  | item :: rest => prettyAt level item :: prettyItems level rest

/-- The members of an object at a level. -/
def prettyMembers (level : Nat) : List (String × Json) → List String
  | [] => []
  | (key, value) :: rest =>
    (quote key ++ ": " ++ prettyAt level value) :: prettyMembers level rest

end

/-- A value on indented lines. -/
def pretty (value : Json) : String :=
  prettyAt 0 value

end EventAlgebra.Json
