import EventAlgebra.Store
import EventAlgebra.Text.Terminal

/-!
# Commands

The commands of the program and what each of them does to a store, to files and to the terminal.
A command opens the library first. A definition that is to be saved is printed or written out
before it is saved, and a failure on the way leaves the library as it was.
-/

set_option autoImplicit false

namespace EventAlgebra

open Text

/-- The lines that a program shows: results, and warnings beside them. -/
class Console (m : Type → Type) where
  say : (line : String) → m Unit
  warn : (message : String) → m Unit

/-- Where the result of a definition goes and in which shape. -/
structure Output where
  /-- The file to write, else the result is shown. -/
  file : Option String
  /-- Whether the whole result is given as JSON. -/
  asJson : Bool
deriving DecidableEq, Repr

/-- A command of the program. -/
inductive Command where
  /-- Compile the request in a file. -/
  | compile (requestFile : String) (output : Output) (save : Bool)
  /-- Compile a saved event from its form. -/
  | recompile (name : String) (output : Output) (save : Bool)
  /-- List the saved events. -/
  | list
  /-- Delete a saved event. -/
  | delete (name : String)
  /-- Write out a saved event. -/
  | exportEvent (name : String) (file : Option String)
  /-- Save an event that was written out. -/
  | importEvent (file : String)
deriving DecidableEq, Repr

/-- A command and the library it works on. -/
structure Invocation where
  library : String
  command : Command
deriving DecidableEq, Repr

namespace Command

variable {m : Type → Type} [Monad m] [Files m] [Console m]

/-- Show a line. -/
def say (line : String) : StoreM m Unit :=
  ExceptT.lift (StateT.lift (Console.say line))

/-- Show a warning. It may hold any text of the user, which must not steer the terminal. -/
def warn (message : String) : StoreM m Unit :=
  ExceptT.lift (StateT.lift (Console.warn (forTerminal message)))

/-- Read a file, with an error if that cannot be done. -/
def readFile (path : String) (error : Error) : StoreM m String := do
  let reading ← ExceptT.lift (StateT.lift (Files.read path))
  match reading.text? with
  | some content => return content
  | none => throw error

/-- Write a result to a file, or show it without the blanks at its end. -/
def emit (file : Option String) (text : String) : StoreM m Unit := do
  match file with
  | none => say (trimEnd text)
  | some path =>
    if ← ExceptT.lift (StateT.lift (Files.write path text)) then
      say ("Wrote " ++ path)
    else
      throw (.outputUnwritable path)

/-- Compile a form, give out the result, and save it if that is asked for. -/
def define (date : String) (form : Form) (output : Output) (save : Bool) : StoreM m Unit := do
  let compiled ← ExceptT.mk (do return (← get).library.compileForm save form)
  compiled.warnings.forM warn
  emit output.file (if output.asJson then compiled.toJson.pretty else compiled.procedure)
  if save then
    Store.put (compiled.toEvent form date)
    say ("Saved " ++ compiled.name ++ " to " ++ (← get).file.getD "")

/-- The line that lists an event. -/
def listing (event : Event) : String :=
  event.name ++ " (" ++ toString event.schema.length ++ " fields)"

/-- Carry out a command on an open store. -/
def perform (date : String) : Command → StoreM m Unit
  | compile requestFile output save => do
    let text ← readFile requestFile (.requestUnreadable requestFile)
    let form ← ExceptT.mk (pure (Form.ofDocument text))
    define date form output save
  | recompile name output save => do
    match (← get).library.get? name with
    | none => throw (.eventUnknown name)
    | some event =>
      match ← ExceptT.mk (pure event.form?) with
      | none => throw (.formMissing name)
      | some form => define date form output save
  | list => do
    (← get).library.events.forM fun event => say (listing event)
  | delete name => do
    if ← Store.delete name then
      say ("Deleted " ++ name)
    else
      warn (Error.eventUnknown name).describe
  | exportEvent name file => do
    let text ← ExceptT.mk (do return (← get).library.exportEvent name)
    emit file text
  | importEvent file => do
    let text ← readFile file (.eventUnreadable file)
    let name ← Store.importEvent text
    say ("Loaded " ++ name)

end Command

/-- Open the library and carry out the command. -/
def Invocation.run {m : Type → Type} [Monad m] [Files m] [Console m] (invocation : Invocation)
    (date : String) : m (Except Error Unit) := do
  match ← Store.load invocation.library with
  | .error error => return .error error
  | .ok store => return (← ((invocation.command.perform date).run.run store)).1

end EventAlgebra
