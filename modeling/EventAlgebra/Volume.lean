import EventAlgebra.Files
import EventAlgebra.Text.Join

/-!
# Volumes

A volume is the tree of directories and files of a machine as a value: a list of locations with
what is there, and the location of the working directory. A path is followed step by step, from the
root if it is absolute and else from the working directory. Each step is taken from a directory that
exists, so a path through a missing directory leads nowhere even if `..` brings it back. Names and
paths have a greatest length. A volume supports the operations on files, so a program can be run on
it and its effects be seen.
-/

set_option autoImplicit false

namespace EventAlgebra

open Text

/-- The steps from the root to a place, each the name of a file or directory. -/
abbrev Location := List String

/-- What is at a location. -/
inductive Entry where
  | file (content : ByteArray)
  | directory

instance : DecidableEq Entry
  | .file content, .file other =>
    match ByteArray.instDecidableEq content other with
    | isTrue h => isTrue (congrArg Entry.file h)
    | isFalse h => isFalse fun heq => h (Entry.file.inj heq)
  | .directory, .directory => isTrue rfl
  | .file _, .directory => isFalse nofun
  | .directory, .file _ => isFalse nofun

/-- What a path leads to. -/
inductive Destination where
  /-- Something that is there. -/
  | present (location : Location) (entry : Entry)
  /-- A free place in a directory. -/
  | vacant (location : Location)
  /-- Nothing, since some step cannot be taken. -/
  | nowhere
deriving DecidableEq

/-- The bytes that the name of a file or directory may have. -/
def nameLimit : Nat := 255

/-- Whether a text can be the name of a file or directory. -/
def isName (name : String) : Bool :=
  name ≠ "" && name ≠ "." && name ≠ ".." && name.utf8ByteSize ≤ nameLimit &&
    !name.toList.contains '/'

/-- The directory that relative paths start from. -/
class WorkingDirectory where
  location : Location
  isName_of_mem : ∀ name ∈ location, isName name = true

/-- Where nothing else is said, the working directory is right below the root. -/
instance : WorkingDirectory := ⟨["desk"], by decide⟩

/-- Directories and files, by location, and the working directory, which need not be given where it
is the usual one. The working directory and those above it are there without being listed. -/
structure Volume where
  entries : List (Location × Entry)
  [working : WorkingDirectory]

namespace Volume

/-- Where the working directory is. -/
def home (volume : Volume) : Location :=
  volume.working.location

/-! ## Paths -/

/-- The bytes that a path may have. -/
def pathLimit : Nat := 4095

/-- Whether a text can be a path at all. -/
def isPath (path : String) : Bool :=
  path ≠ "" && path.utf8ByteSize ≤ pathLimit && !path.toList.contains '\x00'

/-- Whether a path starts at the root of the machine. -/
def isAbsolute (path : String) : Bool :=
  path.toList.head? == some '/'

/-- Whether a path can only name a directory. -/
def namesDirectory (path : String) : Bool :=
  path.toList.getLast? == some '/'

/-- The steps of a path: the parts between slashes that are not empty. -/
def pathSteps (path : String) : List String :=
  ((splitAtSlash [] path.toList).filter (! ·.isEmpty)).map String.ofList
where
  /-- The parts between slashes, given the part so far, last character first. -/
  splitAtSlash (part : List Char) : List Char → List (List Char)
    | [] => [part.reverse]
    | '/' :: rest => part.reverse :: splitAtSlash [] rest
    | c :: rest => splitAtSlash (c :: part) rest

/-- Take one step from a directory. Above the root there is the root itself. -/
def takeStep? (location : Location) (step : String) : Option Location :=
  if step = "." then some location
  else if step = ".." then some location.dropLast
  else if step.utf8ByteSize ≤ nameLimit then some (location ++ [step])
  else none

/-! ## Following paths -/

/-- Whether a location is the working directory or one above it. -/
def leadsHome (volume : Volume) (location : Location) : Bool :=
  location.isPrefixOf volume.home

/-- What is at a location. -/
def entry? (volume : Volume) (location : Location) : Option Entry :=
  if volume.leadsHome location then some .directory else List.lookup location volume.entries

/-- Follow steps, each from a directory. The place reached last need not exist. -/
def follow? (volume : Volume) (location : Location) : List String → Option Location
  | [] => some location
  | step :: rest =>
    if volume.entry? location = some .directory then
      (takeStep? location step).bind fun next => volume.follow? next rest
    else none

/-- Where the first step of a path is taken from. -/
def startOf (volume : Volume) (path : String) : Location :=
  if isAbsolute path then [] else volume.home

/-- The place to which the steps of a path lead. -/
def place? (volume : Volume) (path : String) : Option Location :=
  volume.follow? (volume.startOf path) (pathSteps path)

/-- What a path leads to. -/
def find (volume : Volume) (path : String) : Destination :=
  if !isPath path then .nowhere
  else
    match volume.place? path with
    | none => .nowhere
    | some location =>
      match volume.entry? location with
      | none => .vacant location
      | some .directory => .present location .directory
      | some (.file content) =>
        if namesDirectory path then .nowhere else .present location (.file content)

/-- The place at which a file can be written: a file that is there, or a free place. -/
def fileLocation? (volume : Volume) (path : String) : Option Location :=
  match volume.find path with
  | .present location (.file _) => some location
  | .vacant location => if namesDirectory path then none else some location
  | _ => none

/-! ## Changes -/

/-- Put an entry at a location, in place of what is there. -/
def insert (volume : Volume) (location : Location) (entry : Entry) : Volume :=
  { volume with entries := volume.entries.filter (·.1 ≠ location) ++ [(location, entry)] }

/-- Take away what is at a location, and everything below it. -/
def remove (volume : Volume) (location : Location) : Volume :=
  { volume with entries := volume.entries.filter fun listed => !location.isPrefixOf listed.1 }

/-- Write bytes to a file. -/
def writeBytes? (volume : Volume) (path : String) (content : ByteArray) : Option Volume :=
  (volume.fileLocation? path).map fun location => volume.insert location (.file content)

/-- Make the directories along some steps. -/
def makeAlong? (volume : Volume) (location : Location) : List String → Option Volume
  | [] => some volume
  | step :: rest =>
    (takeStep? location step).bind fun next =>
      match volume.entry? next with
      | none => (volume.insert next .directory).makeAlong? next rest
      | some .directory => volume.makeAlong? next rest
      | some (.file _) => none

/-- Make a directory and those that lead to it. -/
def makeDirectory? (volume : Volume) (path : String) : Option Volume :=
  if isPath path then volume.makeAlong? (volume.startOf path) (pathSteps path) else none

/-- Write bytes to a file, after making the directories that lead to it. -/
def plant? (volume : Volume) (path : String) (content : ByteArray) : Option Volume :=
  (volume.makeAlong? (volume.startOf path) (pathSteps path).dropLast).bind fun made =>
    made.writeBytes? path content

/-- Take away a file, or a directory with all it holds. -/
def remove? (volume : Volume) (path : String) : Option Volume :=
  match volume.find path with
  | .present location _ =>
    if volume.leadsHome location then none else some (volume.remove location)
  | _ => none

/-- Read the text of a file. -/
def readText (volume : Volume) (path : String) : Reading :=
  match volume.find path with
  | .present _ .directory => .unreadable
  | .present _ (.file content) =>
    match String.fromUTF8? content with
    | none => .unreadable
    | some text => .text text
  | .vacant _ => .missing
  | .nowhere => .missing

/-- Move a file over another, or to a free place. -/
def move? (volume : Volume) (source target : String) : Option Volume :=
  match volume.find source, volume.fileLocation? target with
  | .present origin (.file content), some destination =>
    some ((volume.remove origin).insert destination (.file content))
  | _, _ => none

/-! ## Listing -/

/-- What is in the working directory, by the steps from there. -/
def contents (volume : Volume) : List (Location × Entry) :=
  (volume.entries.filter fun listed => volume.home.isPrefixOf listed.1).map fun listed =>
    (listed.1.drop volume.home.length, listed.2)

/-- Steps as a path. -/
def pathOf (steps : Location) : String :=
  joinWith "/" steps

/-- Where the working directories of two volumes differ, with what the second one has there. -/
def changes (before after : Volume) : List (Location × Option Entry) :=
  (after.contents.filter fun listed => before.entry? (before.home ++ listed.1) ≠ some listed.2).map
    (fun listed => (listed.1, some listed.2)) ++
  (before.contents.filter fun listed => (after.entry? (after.home ++ listed.1)).isNone).map
    (fun listed => (listed.1, none))

end Volume

end EventAlgebra
