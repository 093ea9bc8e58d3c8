import EventAlgebra.Arguments
import EventAlgebra.Timestamp
import Std.Time

/-!
# The program

The command line, run on the files and the terminal of the machine.
-/

set_option autoImplicit false

namespace EventAlgebra

/-- Whether an action succeeds. -/
def succeeds (action : IO Unit) : IO Bool :=
  try
    action
    return true
  catch _ => return false

/-- The code with which the machine refuses to read a directory. -/
def directoryCode : UInt32 := 21

/-- Read a file of the machine. A path that leads through a file names nothing. -/
def readMachineFile (path : String) : IO Reading :=
  try
    return .text (← IO.FS.readFile path)
  catch
    | .noFileOrDirectory .. => return .missing
    | .inappropriateType _ code _ =>
      return if code = directoryCode then .unreadable else .missing
    | _ => return .unreadable

instance : Files IO where
  read := readMachineFile
  write path content := succeeds (IO.FS.writeFile path content)
  move source target := succeeds (IO.FS.rename source target)

instance : Console IO where
  say := IO.println
  warn message := IO.eprintln ("WARN " ++ message)

/-- The moment at which the program runs. -/
def currentDate : IO String := do
  let now ← Std.Time.Timestamp.now
  return Timestamp.render now.toNanosecondsSinceUnixEpoch.val.toNat

/-- Run the program. -/
def runProgram (arguments : List String) : IO UInt32 := do
  let demand := Demand.ofArguments (← IO.getEnv "ISEQL_LIBRARY") arguments
  let ending ← demand.carryOut (← currentDate)
  match ending with
  | .done => pure ()
  | .help => IO.println usage
  | .misuse => IO.eprintln usage
  | .failed error => IO.eprintln ("Error: " ++ error.message)
  return ending.exitCode

end EventAlgebra

/-- The program. -/
def main (arguments : List String) : IO UInt32 :=
  EventAlgebra.runProgram arguments
