import EventAlgebra.Fault

/-!
# Errors

Everything for which a command is given up, by cause. `Error.message` is the wording, with the
name of the program in front. Recovered conditions are not errors; see the issues of an operand.
-/

set_option autoImplicit false

namespace EventAlgebra

/-- A message of the program, marked as such. -/
def announce (text : String) : String :=
  "iseql: " ++ text

/-- What an error is about. -/
inductive ErrorKind where
  /-- A text that should hold JSON of some shape does not. -/
  | malformedText
  /-- A file cannot be read or written. -/
  | fileAccess
  /-- A demand of the program itself is not met. -/
  | refused
deriving DecidableEq, Repr

/-- A reason for which a command is given up. -/
inductive Error where
  /-- The request form has a fault. -/
  | faulty (fault : Fault)
  /-- The request document cannot be read. -/
  | requestMalformed
  /-- An event to be imported cannot be read. -/
  | importMalformed
  /-- An event to be imported has no name. -/
  | importUnnamed
  /-- An event to be imported has no algebra. -/
  | importWithoutAlgebra (name : String)
  /-- There is no saved event of this name. -/
  | eventUnknown (name : String)
  /-- The form kept with a saved event cannot be read. -/
  | formMalformed (name : String)
  /-- No form is kept with a saved event. -/
  | formMissing (name : String)
  /-- A library file cannot be read. -/
  | libraryUnreadable (path : String)
  /-- A library file holds no library. -/
  | libraryMalformed (path : String)
  /-- The temporary file of a library cannot be written. -/
  | libraryUnwritable (path : String)
  /-- A library file cannot be replaced. -/
  | libraryIrreplaceable (path : String)
  /-- A request file cannot be read. -/
  | requestUnreadable (path : String)
  /-- A file with an exported event cannot be read. -/
  | eventUnreadable (path : String)
  /-- An output file cannot be written. -/
  | outputUnwritable (path : String)
deriving DecidableEq, Repr

namespace Error

/-- What an error is about. -/
def kind : Error → ErrorKind
  | faulty _ => .refused
  | requestMalformed => .malformedText
  | importMalformed => .malformedText
  | importUnnamed => .refused
  | importWithoutAlgebra _ => .refused
  | eventUnknown _ => .refused
  | formMalformed _ => .malformedText
  | formMissing _ => .refused
  | libraryUnreadable _ => .fileAccess
  | libraryMalformed _ => .malformedText
  | libraryUnwritable _ => .fileAccess
  | libraryIrreplaceable _ => .fileAccess
  | requestUnreadable _ => .fileAccess
  | eventUnreadable _ => .fileAccess
  | outputUnwritable _ => .fileAccess

/-- The wording of an error. -/
def describe : Error → String
  | faulty fault => fault.describe
  | requestMalformed => "request document is not valid JSON"
  | importMalformed => "imported event is not valid JSON"
  | importUnnamed => "imported event has no name"
  | importWithoutAlgebra name => "imported event '" ++ name ++ "' has no logicDefinition"
  | eventUnknown name => "no saved event named '" ++ name ++ "'"
  | formMalformed name => "saved event '" ++ name ++ "' has an unreadable uiState"
  | formMissing name => "'" ++ name ++ "' was saved without its request and cannot be recompiled"
  | libraryUnreadable path => "read event library " ++ path
  | libraryMalformed path => "event library " ++ path ++ " is not a JSON array of events"
  | libraryUnwritable path => "write event library " ++ path
  | libraryIrreplaceable path => "replace event library " ++ path
  | requestUnreadable path => "read request file " ++ path
  | eventUnreadable path => "read event file " ++ path
  | outputUnwritable path => "write " ++ path

/-- The message shown for an error. -/
def message (error : Error) : String :=
  announce error.describe

end Error

end EventAlgebra
