import EventAlgebra.Command

/-!
# Command lines

The grammar of the command line. Options are long (`--name value`, `--name=value`) or short
(`-o value`, `-ovalue`, `-o=value`), and short flags can be run together. A value that starts with
a dash must be attached to its option. The options for the library and for verbosity can stand
before the command or after it; after the command stand also the options of the command. Nothing
but a verbosity flag is repeated.

A request for help is granted as soon as it is read, if nothing is wrong with the options in front
of it. An option whose value is an argument of its own counts as read when the next option on its
side of the command is read.
-/

set_option autoImplicit false

namespace EventAlgebra

/-! ## Options -/

/-- An option that the program knows. -/
inductive OptionName where
  | library
  | verbose
  | help
  | request
  | out
  | json
  | save
  | name
  | file
deriving DecidableEq, Repr

namespace OptionName

/-- The long spelling of an option. -/
def long : OptionName → String
  | library => "library"
  | verbose => "verbose"
  | help => "help"
  | request => "request"
  | out => "out"
  | json => "json"
  | save => "save"
  | name => "name"
  | file => "file"

/-- The short spelling of an option. -/
def short? : OptionName → Option Char
  | verbose => some 'v'
  | help => some 'h'
  | out => some 'o'
  | _ => none

/-- Whether an option is followed by a value. -/
def takesValue : OptionName → Bool
  | library => true
  | request => true
  | out => true
  | name => true
  | file => true
  | _ => false

/-- Whether an option can be given more than once. -/
def isRepeatable (option : OptionName) : Bool :=
  option == verbose

/-- The options that can stand before the command and after it. -/
def everywhere : List OptionName := [library, verbose, help]

end OptionName

/-- An option as it was given. -/
structure Given where
  option : OptionName
  value : Option String
deriving DecidableEq, Repr

/-- Whether an option was given. -/
def isGiven (given : List Given) (option : OptionName) : Bool :=
  given.any (·.option = option)

/-- The value that was given for an option. -/
def valueOf? (given : List Given) (option : OptionName) : Option String :=
  (given.find? (·.option = option)).bind (·.value)

/-! ## Counting options -/

/-- The options on one side of the command, as far as they have been read. -/
structure Tally where
  /-- The options that have been checked. -/
  settled : List Given
  /-- The last option, if its value was an argument of its own. It is checked later. -/
  waiting : Option Given
deriving DecidableEq, Repr

namespace Tally

/-- No options. -/
def empty : Tally := ⟨[], none⟩

/-- Check an option against those before it: it must not be repeated without leave, and a library
needs a name. -/
def admit? (settled : List Given) (one : Given) : Option (List Given) :=
  if isGiven settled one.option && !one.option.isRepeatable then none
  else if one.option = .library ∧ one.value = some "" then none
  else some (settled ++ [one])

/-- All options, if they are in order. -/
def settle? (tally : Tally) : Option (List Given) :=
  match tally.waiting with
  | none => some tally.settled
  | some one => admit? tally.settled one

/-- Add an option that is complete. -/
def add? (tally : Tally) (one : Given) : Option Tally :=
  tally.settle?.bind fun settled => (admit? settled one).map (⟨·, none⟩)

/-- Add an option whose value was an argument of its own. -/
def addWaiting? (tally : Tally) (one : Given) : Option Tally :=
  tally.settle?.map (⟨·, some one⟩)

end Tally

/-! ## Reading options -/

/-- What reading one argument comes to. -/
inductive Progress where
  /-- Help is asked for. -/
  | help
  /-- The options so far, and the arguments not read yet. -/
  | further (tally : Tally) (rest : List String)
deriving DecidableEq, Repr

/-- Whether an argument is an option rather than a value. A single dash is a value. -/
def isOptionLike (argument : String) : Bool :=
  match argument.toList with
  | '-' :: _ :: _ => true
  | _ => false

/-- Take up a flag. -/
def takeFlag? (tally : Tally) (option : OptionName) (rest : List String) : Option Progress :=
  if option = .help then tally.settle?.map fun _ => .help
  else (tally.add? ⟨option, none⟩).map (.further · rest)

/-- Take up an option with the value attached to it. -/
def takeAttached? (tally : Tally) (option : OptionName) (value : String) (rest : List String) :
    Option Progress :=
  (tally.add? ⟨option, some value⟩).map (.further · rest)

/-- Take up an option whose value is the next argument. -/
def takeFollowing? (tally : Tally) (option : OptionName) : List String → Option Progress
  | [] => none
  | value :: rest =>
    if isOptionLike value then none
    else (tally.addWaiting? ⟨option, some value⟩).map (.further · rest)

/-- Read a long option, without its dashes. -/
def readLong? (known : List OptionName) (tally : Tally) (spelling : List Char)
    (rest : List String) : Option Progress :=
  let long := String.ofList (spelling.takeWhile (· != '='))
  match known.find? (·.long = long), spelling.dropWhile (· != '=') with
  | none, _ => none
  | some option, _ :: value =>
    if option.takesValue then takeAttached? tally option (String.ofList value) rest else none
  | some option, [] =>
    if option.takesValue then takeFollowing? tally option rest else takeFlag? tally option rest

/-- The value attached to a short option, with or without an equals sign. -/
def attachedValue : List Char → String
  | '=' :: value => String.ofList value
  | value => String.ofList value

/-- Read short options run together, without their dash. -/
def readShorts? (known : List OptionName) (rest : List String) (tally : Tally) :
    List Char → Option Progress
  | [] => some (.further tally rest)
  | letter :: letters =>
    match known.find? (·.short? = some letter) with
    | none => none
    | some option =>
      if option.takesValue then
        if letters.isEmpty then takeFollowing? tally option rest
        else takeAttached? tally option (attachedValue letters) rest
      else
        match takeFlag? tally option rest with
        | some (.further tally _) => readShorts? known rest tally letters
        | other => other

/-- Read the options that an argument holds. -/
def readArgument? (known : List OptionName) (tally : Tally) (argument : String)
    (rest : List String) : Option Progress :=
  match argument.toList with
  | '-' :: '-' :: spelling => readLong? known tally spelling rest
  | '-' :: letters => readShorts? known rest tally letters
  | _ => none

/-- The options on one side of the command, and what stops them. -/
inductive OptionsRead where
  | help
  /-- A word that is no option and the arguments behind it, or the end of the arguments. -/
  | stopped (tally : Tally) (word : Option (String × List String))
deriving DecidableEq, Repr

/-- Read options up to a word. A pair of dashes ends the options; only words may follow, and here
no words are expected then. The count bounds the arguments read. -/
def readOptions? (known : List OptionName) : Nat → Tally → List String → Option OptionsRead
  | _, tally, [] => some (.stopped tally none)
  | 0, _, _ :: _ => none
  | bound + 1, tally, argument :: rest =>
    if argument = "--" then if rest.isEmpty then some (.stopped tally none) else none
    else if isOptionLike argument then
      match readArgument? known tally argument rest with
      | none => none
      | some .help => some .help
      | some (.further tally rest) => readOptions? known bound tally rest
    else some (.stopped tally (some (argument, rest)))

/-! ## Commands -/

/-- The commands by their names. -/
inductive CommandName where
  | compile
  | recompile
  | list
  | delete
  | exportEvent
  | importEvent
deriving DecidableEq, Repr

namespace CommandName

/-- The command with a name. -/
def ofWord? : String → Option CommandName
  | "compile" => some compile
  | "recompile" => some recompile
  | "list" => some list
  | "delete" => some delete
  | "export" => some exportEvent
  | "import" => some importEvent
  | _ => none

/-- The options of a command. -/
def options : CommandName → List OptionName
  | compile => [.request, .out, .json, .save]
  | recompile => [.name, .out, .json, .save]
  | list => []
  | delete => [.name]
  | exportEvent => [.name, .out]
  | importEvent => [.file]

/-- The command that a name and its options describe, if those it needs are given. -/
def command? (command : CommandName) (given : List Given) : Option Command :=
  let output : Output := ⟨valueOf? given .out, isGiven given .json⟩
  let save := isGiven given .save
  match command with
  | compile => (valueOf? given .request).map fun file => .compile file output save
  | recompile => (valueOf? given .name).map fun name => .recompile name output save
  | list => some .list
  | delete => (valueOf? given .name).map .delete
  | exportEvent => (valueOf? given .name).map fun name => .exportEvent name output.file
  | importEvent => (valueOf? given .file).map .importEvent

end CommandName

/-! ## The command line -/

/-- The library used when none is given. -/
def defaultLibrary : String := "iseql_library.json"

/-- The library that the options before or after the command, or else the environment, name. The
environment is consulted on each side where no library is given, and must then name one if it is
set. -/
def libraryOf? (environment : Option String) (before after : List Given) : Option String :=
  let outer := valueOf? before .library
  let inner := valueOf? after .library
  if environment = some "" ∧ (outer = none ∨ inner = none) then none
  else some ((inner <|> outer <|> environment).getD defaultLibrary)

/-- What a command line asks for. -/
inductive Demand where
  | run (invocation : Invocation)
  | help
  /-- The arguments fit no use of the program. -/
  | misuse
deriving DecidableEq, Repr

/-- The demand of the options before a command name and of the arguments behind it. -/
def demandOf (environment : Option String) (before : Tally) (command : CommandName)
    (arguments : List String) : Demand :=
  let known := OptionName.everywhere ++ command.options
  match readOptions? known arguments.length .empty arguments with
  | some .help => .help
  | some (.stopped after none) =>
    match before.settle?, after.settle? with
    | some before, some after =>
      match libraryOf? environment before after, command.command? after with
      | some library, some command => .run ⟨library, command⟩
      | _, _ => .misuse
    | _, _ => .misuse
  | _ => .misuse

/-- Whether the words behind a request for help name something to explain: nothing in particular,
a command, or help itself. -/
def areHelpTopics : List String → Bool
  | [] => true
  | [word] => word == "help" || (CommandName.ofWord? word).isSome
  | _ => false

/-- What the arguments ask for, given the library that the environment names. -/
def Demand.ofArguments (environment : Option String) (arguments : List String) : Demand :=
  match readOptions? OptionName.everywhere arguments.length .empty arguments with
  | some .help => .help
  | some (.stopped _ (some ("help", words))) => if areHelpTopics words then .help else .misuse
  | some (.stopped before (some (word, rest))) =>
    match CommandName.ofWord? word with
    | none => .misuse
    | some command => demandOf environment before command rest
  | _ => .misuse

/-! ## Carrying out a command line -/

/-- How a run of the program ends. -/
inductive Ending where
  | done
  | help
  | misuse
  | failed (error : Error)
deriving DecidableEq, Repr

/-- The ending after a command gave a result. -/
def Ending.ofResult : Except Error Unit → Ending
  | .ok _ => done
  | .error error => failed error

/-- The exit code: 1 tells of an error, and 2 of arguments that fit no use of the program. -/
def Ending.exitCode : Ending → UInt32
  | done => 0
  | help => 0
  | misuse => 2
  | failed _ => 1

/-- Do what a command line asks for, on a date. -/
def Demand.carryOut {m : Type → Type} [Monad m] [Files m] [Console m] (date : String) :
    Demand → m Ending
  | .help => return .help
  | .misuse => return .misuse
  | .run invocation => do
    return .ofResult (← invocation.run date)

/-- A summary of the uses of the program. -/
def usage : String :=
  "Usage: iseql [--library FILE] [-v]... COMMAND\n" ++
  "  compile --request FILE [-o FILE] [--json] [--save]\n" ++
  "  recompile --name NAME [-o FILE] [--json] [--save]\n" ++
  "  list\n" ++
  "  delete --name NAME\n" ++
  "  export --name NAME [-o FILE]\n" ++
  "  import --file FILE"

end EventAlgebra
