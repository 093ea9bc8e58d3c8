import EventAlgebra.Json.Basic
import EventAlgebra.Json.Lexeme

/-!
# Reading JSON text

A text is read lexeme by lexeme, with the containers that are still open kept on a stack, so that
nesting of any depth is read in constant space beside the stack itself. `Json.parse?` gives the
value of a text that holds one value and nothing else but blanks.
-/

set_option autoImplicit false

namespace EventAlgebra.Json

/-- A container that is still open, with what has been read of it, last first. An object in which
some key denotes nothing has no members. -/
inductive Frame where
  | array (items : List Json)
  | object (members : Option (List (String × Json))) (key : Option String)

/-- What may come next. -/
inductive Phase where
  | value
  | itemOrClose
  | keyOrClose
  | key
  | colon
  | separator
  | done (value : Json)

/-- The open containers, innermost first, and what may come next. -/
structure ReadState where
  phase : Phase
  stack : List Frame

/-- Nothing read yet. -/
def ReadState.start : ReadState := ⟨.value, []⟩

/-- An array of items kept last first. -/
def closeArray (items : List Json) : Json :=
  array items.reverse

/-- An object of members kept last first. -/
def closeObject : Option (List (String × Json)) → Json
  | some members => object members.reverse
  | none => unreadable

/-- Put a complete value where it belongs. -/
def deliver (value : Json) : List Frame → ReadState
  | [] => ⟨.done value, []⟩
  | .array items :: outer => ⟨.separator, .array (value :: items) :: outer⟩
  | .object members key :: outer =>
    let members := members.bind fun members => key.map fun key => (key, value) :: members
    ⟨.separator, .object members none :: outer⟩

/-- The value of a number lexeme. -/
def numberValue : Option Number → Json
  | some value => number value
  | none => unreadable

/-- The value of a string lexeme. -/
def textValue : Option String → Json
  | some value => string value
  | none => unreadable

/-- Start or complete a value. -/
def beginValue (stack : List Frame) : Lexeme → Option ReadState
  | .null => some (deliver null stack)
  | .bool value => some (deliver (bool value) stack)
  | .number value => some (deliver (numberValue value) stack)
  | .text value => some (deliver (textValue value) stack)
  | .openArray => some ⟨.itemOrClose, .array [] :: stack⟩
  | .openObject => some ⟨.keyOrClose, .object (some []) none :: stack⟩
  | _ => none

/-- Read one lexeme. -/
def ReadState.step : ReadState → Lexeme → Option ReadState
  | ⟨.value, stack⟩, lexeme => beginValue stack lexeme
  | ⟨.itemOrClose, .array items :: outer⟩, .closeArray =>
    some (deliver (Json.closeArray items) outer)
  | ⟨.itemOrClose, stack⟩, lexeme => beginValue stack lexeme
  | ⟨.keyOrClose, .object members _ :: outer⟩, .closeObject =>
    some (deliver (Json.closeObject members) outer)
  | ⟨.keyOrClose, .object members _ :: outer⟩, .text key =>
    some ⟨.colon, .object members key :: outer⟩
  | ⟨.key, .object members _ :: outer⟩, .text key => some ⟨.colon, .object members key :: outer⟩
  | ⟨.colon, stack⟩, .colon => some ⟨.value, stack⟩
  | ⟨.separator, .array items :: outer⟩, .comma => some ⟨.value, .array items :: outer⟩
  | ⟨.separator, .array items :: outer⟩, .closeArray => some (deliver (Json.closeArray items) outer)
  | ⟨.separator, .object members key :: outer⟩, .comma => some ⟨.key, .object members key :: outer⟩
  | ⟨.separator, .object members _ :: outer⟩, .closeObject =>
    some (deliver (Json.closeObject members) outer)
  | _, _ => none

/-- The value read, once it is complete. -/
def ReadState.result? : ReadState → Option Json
  | ⟨.done value, _⟩ => some value
  | _ => none

/-- Read a text to its end. -/
def ReadState.run (state : ReadState) (cs : List Char) : Option Json :=
  if (skipGap cs).isEmpty then state.result?
  else
    match _hnext : nextLexeme? (skipGap cs) with
    | none => none
    | some found =>
      match state.step found.1 with
      | none => none
      | some next => next.run found.2
termination_by cs.length
decreasing_by
  exact Nat.lt_of_lt_of_le (length_nextLexeme_lt _hnext) (length_dropWhile_le isGap cs)

/-- The value of a JSON text. -/
def parse? (text : String) : Option Json :=
  ReadState.start.run text.toList

end EventAlgebra.Json
