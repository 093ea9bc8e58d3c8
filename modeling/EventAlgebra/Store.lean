import EventAlgebra.Compilation
import EventAlgebra.Files

/-!
# Stores

A store is a library in memory and the file, if there is one, that keeps it. Every change is made
in memory first. Then the whole library is written to a temporary file beside the library file and
moved over it, so that a reader finds the old library or the new one. A change stays in memory
also when the file cannot be replaced.
-/

set_option autoImplicit false

namespace EventAlgebra

open Text

namespace Library

/-- The text in which an event is exported. -/
def exportEvent (library : Library) (name : String) : Except Error String :=
  match library.get? name with
  | none => .error (.eventUnknown name)
  | some event => .ok event.toExport

/-- Compile a form, naming columns by position if the event is going to be saved. -/
def compileForm (library : Library) (save : Bool) (form : Form) : Except Error Compiled :=
  match form.validate with
  | .error fault => .error (.faulty fault)
  | .ok request => .ok (library.compile (if save then .positional else .quoted) request)

end Library

/-- A library and the file that keeps it. -/
structure Store where
  library : Library
  file : Option String

/-- Work on a store that may fail. What was done before a failure stays done. -/
abbrev StoreM (m : Type → Type) := ExceptT Error (StateT Store m)

namespace Store

variable {m : Type → Type} [Monad m] [Files m]

/-- An empty store that is kept nowhere. -/
def inMemory : Store := ⟨.empty, none⟩

/-- The temporary file through which a library file is replaced. -/
def temporary (path : String) : String :=
  path ++ ".tmp"

/-- The library that a reading of its file gives. No file, or a blank one, is an empty library. -/
def ofReading (path : String) : Reading → Except Error Store
  | .missing => .ok ⟨.empty, some path⟩
  | .unreadable => .error (.libraryUnreadable path)
  | .text content =>
    if trim content = "" then .ok ⟨.empty, some path⟩
    else
      match Library.parse? content with
      | none => .error (.libraryMalformed path)
      | some library => .ok ⟨library, some path⟩

/-- Open the store that a file keeps. -/
def load (path : String) : m (Except Error Store) := do
  return ofReading path (← Files.read path)

/-- Write the temporary file and move it over the library file. -/
def replaceFile (path : String) (library : Library) : m (Except Error Unit) := do
  if ← Files.write (temporary path) library.render then
    if ← Files.move (temporary path) path then
      return .ok ()
    else
      return .error (.libraryIrreplaceable path)
  else
    return .error (.libraryUnwritable (temporary path))

/-- Bring the file of a store up to date. -/
def flush : StoreM m Unit := do
  let store ← get
  match store.file with
  | none => return
  | some path => ExceptT.mk (StateT.lift (replaceFile path store.library))

/-- Save an event. -/
def put (event : Event) : StoreM m Unit := do
  modify fun store => { store with library := store.library.put event }
  flush

/-- Delete an event and tell whether there was one. Without one the file is left alone. -/
def delete (name : String) : StoreM m Bool := do
  let store ← get
  if store.library.contains name then
    set { store with library := store.library.erase name }
    flush
    return true
  else
    return false

/-- Compile a form and, if that is asked for, save the event. -/
def compileForm (date : String) (form : Form) (save : Bool) : StoreM m Compiled := do
  let compiled ← ExceptT.mk (do return (← get).library.compileForm save form)
  if save then
    put (compiled.toEvent form date)
  return compiled

/-- Save an event from the text in which it was exported, and give its name. -/
def importEvent (text : String) : StoreM m String := do
  let event ← ExceptT.mk (pure (Event.ofExport text))
  put event
  return event.name

end Store

end EventAlgebra
