import ScriptBinding.CommandLine.Run

/-!
Files and directories without links between them, and runs of the command on them.
-/
namespace ScriptBinding.CommandLine

/-- The names from the root down. -/
abbrev Location := List Text

structure Disk where
  /-- Where relative paths start. It is there, with all directories above it. -/
  workingDirectory : Location
  directories : List Location
  files : List (Location × ByteArray)

namespace Disk

def isDirectory (d : Disk) (place : Location) : Bool :=
  place.isPrefixOf d.workingDirectory || d.directories.contains place

def content? (d : Disk) (place : Location) : Option ByteArray := d.files.lookup place

def names : Text → List Text
  | [] => [[]]
  | p :: rest =>
    if p = '/' then [] :: names rest
    else match names rest with
      | [] => [[p]]
      | first :: others => (p :: first) :: others

/-- The size in bytes of a name, which may be 255. -/
def nameSize (name : Text) : Nat := (String.ofList name.displayed).utf8ByteSize

def staysHere (name : Text) : Bool := name.isEmpty || name = "."

/-- Where a path leads. All names but the last have to be directories; above the root there is the
root itself. -/
def locateFrom (d : Disk) (place : Location) : List Text → Option Location
  | [] => some place
  | name :: rest =>
    if !d.isDirectory place then none
    else if staysHere name then locateFrom d place rest
    else if name = ".." then locateFrom d place.dropLast rest
    else if nameSize name > 255 then none
    else locateFrom d (place ++ [name]) rest

/-- The directory in which a path starts. -/
def start (d : Disk) (path : Text) : Location :=
  if path.beginsWith '/' then [] else d.workingDirectory

def locate (d : Disk) (path : Text) : Option Location :=
  if path.isEmpty then none else d.locateFrom (d.start path) (names path)

def readFile (d : Disk) (path : Text) : Option ByteArray := (d.locate path).bind d.content?

/-- The disk with the directories of a path, up to the first that cannot be there, and whether all
are. -/
def makeFrom (d : Disk) (place : Location) : List Text → Bool × Disk
  | [] => (true, d)
  | name :: rest =>
    if staysHere name then makeFrom d place rest
    else if name = ".." then makeFrom d place.dropLast rest
    else if nameSize name > 255 then (false, d)
    else
      let place := place ++ [name]
      if d.isDirectory place then makeFrom d place rest
      else if (d.content? place).isSome then (false, d)
      else makeFrom { d with directories := d.directories ++ [place] } place rest

def makeDirectory (d : Disk) (path : Text) : Bool × Disk :=
  if path.isEmpty then (false, d) else d.makeFrom (d.start path) (names path)

def put (place : Location) (content : ByteArray) :
    List (Location × ByteArray) → List (Location × ByteArray)
  | [] => [(place, content)]
  | (other, old) :: rest =>
    if other = place then (place, content) :: rest else (other, old) :: put place content rest

def writeFile (d : Disk) (path : Text) (content : ByteArray) : Option Disk :=
  match d.locate path with
  | none => none
  | some place =>
    if d.isDirectory place then none else some { d with files := put place content d.files }

end Disk

/-- The surroundings of a run on a disk. The streams hold the texts that were written to them, the
last one first. -/
structure Surroundings where
  disk : Disk
  input : ByteArray
  printed : List Text
  diagnosed : List Text

namespace Surroundings

def output (s : Surroundings) : Text := s.printed.reverse.flatten

def diagnostics (s : Surroundings) : List Char := Text.displayed s.diagnosed.reverse.flatten

def makeDirectory (path : Text) : StateM Surroundings Bool := do
  let (made, disk) := (← get).disk.makeDirectory path
  modify fun s => { s with disk }
  return made

def writeFile (path text : Text) : StateM Surroundings Written := do
  let encoded := text.toUtf8?
  match (← get).disk.writeFile path (encoded.getD .empty) with
  | some disk =>
    modify fun s => { s with disk }
    return if encoded.isSome then .done else .unencodable
  | none => return .refused

def print (text : Text) : StateM Surroundings Bool := do
  if text.hasSurrogate then return false
  modify fun s => { s with printed := text :: s.printed }
  return true

def diagnose (line : Text) : StateM Surroundings Unit :=
  modify fun s => { s with diagnosed := (line ++ "\n") :: s.diagnosed }

def host : Host (StateM Surroundings) :=
  { readInput := return (← get).input
    readFile := fun path => return (← get).disk.readFile path
    makeDirectory
    writeFile
    print
    diagnose }

/-- A run with these arguments: how it ends, and what it leaves behind. -/
def run (s : Surroundings) (arguments : List Text) : Ending × Surroundings :=
  (CommandLine.run host arguments).run s

end Surroundings

end ScriptBinding.CommandLine
