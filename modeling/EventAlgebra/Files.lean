/-!
# Access to files

What a program needs of the files around it: to read a text, to write one, and to move a file over
another. Programs are written for any monad with these operations.
-/

set_option autoImplicit false

namespace EventAlgebra

/-- What reading a file gives. -/
inductive Reading where
  /-- There is no such file. -/
  | missing
  /-- There is something, but no text can be read from it. -/
  | unreadable
  | text (content : String)
deriving DecidableEq, Repr

/-- The text that was read, if any. -/
def Reading.text? : Reading → Option String
  | text content => some content
  | _ => none

/-- The operations on files. Writing and moving tell whether they succeeded. -/
class Files (m : Type → Type) where
  read : (path : String) → m Reading
  write : (path content : String) → m Bool
  move : (source target : String) → m Bool

end EventAlgebra
