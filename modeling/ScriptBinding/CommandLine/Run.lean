import ScriptBinding.CommandLine.Pipeline
import ScriptBinding.Text.Blank
import ScriptBinding.Text.Utf8

/-!
A run of the command, over whatever can read and write files. Generated files go to the standard
output, or into a directory; errors go to the diagnostic stream and decide the exit code.
-/
namespace ScriptBinding.CommandLine

inductive Written where
  | done
  /-- The file cannot be opened. -/
  | refused
  /-- The text holds a lone surrogate, and the file is left empty. -/
  | unencodable

/-- What a run asks of its surroundings. -/
structure Host (m : Type → Type) where
  readInput : m ByteArray
  /-- The bytes of a file, if it can be opened. -/
  readFile : Text → m (Option ByteArray)
  /-- Makes a directory and those above it; false if one of them cannot be there. -/
  makeDirectory : Text → m Bool
  writeFile : Text → Text → m Written
  /-- Writes to the standard output; false if the text holds a lone surrogate. -/
  print : Text → m Bool
  /-- Writes a line to the diagnostic stream. -/
  diagnose : Text → m Unit

inductive Ending where
  | exit (code : Nat)
  /-- A text had to be written that has no encoding. -/
  | unencodable
  /-- A path was given that holds the null character, as no path can. -/
  | unusablePath
deriving DecidableEq

def Selection.files (s : Selection) (u : GeneratedUnit) : List (Text × Text) :=
  match s with
  | source => [u.sourceFile]
  | header => [u.headerFile]
  | both => [u.headerFile, u.sourceFile]

def joinPath (directory name : Text) : Text :=
  if directory.isEmpty || directory.getLast? = some (.scalar '/') then directory ++ name
  else directory ++ "/" ++ name

def isUsablePath (path : Text) : Bool := !path.contains (Char.ofNat 0)

section
variable {m : Type → Type} [Monad m] (host : Host m)

/-- The text of the declarations, or what is wrong with it. -/
def readSource (input? : Option Text) : m (Except Text Text) := do
  let bytes? ←
    match input? with
    | some path => host.readFile path
    | none => some <$> host.readInput
  match bytes? with
  | none => return .error ("error: cannot open '" ++ input?.getD [] ++ "'")
  | some bytes =>
    match Text.ofUtf8? bytes with
    | some text => return .ok text
    | none => return .error "error: invalid utf-8 in input"

/-- Prints texts one after the other, up to the first that has no encoding. -/
def printAll : List Text → m Ending
  | [] => return .exit 0
  | text :: rest => do
    if ← host.print text then printAll rest else return .unencodable

/-- What is printed for files: their texts, each under its name if there is more than one. -/
def printout (files : List (Text × Text)) : List Text :=
  if files.length > 1 then files.flatMap fun (name, text) => ["// " ++ name ++ "\n", text]
  else files.map (·.2)

/-- Writes files into a directory that is there, up to the first that cannot be written. -/
def writeFiles (directory : Text) (verbose : Bool) : List (Text × Text) → m Ending
  | [] => return .exit 0
  | (name, text) :: rest => do
    let path := joinPath directory name
    match ← host.writeFile path text with
    | .refused =>
      host.diagnose ("error: cannot write '" ++ path ++ "'")
      return .exit 1
    | .unencodable => return .unencodable
    | .done =>
      if verbose then host.diagnose ("bindgen: wrote " ++ path)
      writeFiles directory verbose rest

def deliver (settings : Settings) (units : List GeneratedUnit) : m Ending := do
  let files := units.flatMap settings.selection.files
  match settings.outputDirectory? with
  | none => printAll host (printout files)
  | some directory =>
    if !isUsablePath directory then return .unusablePath
    else if ← host.makeDirectory directory then writeFiles host directory settings.verbose files
    else
      host.diagnose ("error: cannot create '" ++ directory ++ "'")
      return .exit 1

def diagnoseAll : List Text → m Unit
  | [] => return ()
  | line :: rest => do
    host.diagnose line
    diagnoseAll rest

def carryOut (settings : Settings) : Except (List Text) Product → m Ending
  | .error diagnostics => do
    diagnoseAll host diagnostics
    return .exit 1
  | .ok (.report text) => do
    if ← host.print (text ++ "\n") then return .exit 0 else return .unencodable
  | .ok (.units []) => return .exit 0
  | .ok (.units units) => deliver host settings units

/-- Goes on with the declarations, once they have been asked for. -/
def carryOn (settings : Settings) : Except Text Text → m Ending
  | .error message => do
    host.diagnose message
    return .exit 1
  | .ok source => do
    if source.isBlank then
      host.diagnose "error: no input provided"
      return .exit 2
    else carryOut host settings (pipeline settings source)

def runSettings (settings : Settings) : m Ending := do
  if !settings.input?.all isUsablePath then return .unusablePath
  else carryOn host settings (← readSource host settings.input?)

def run (arguments : List Text) : m Ending := do
  match Settings.ofArguments arguments with
  | .ok settings => runSettings host settings
  | .error .help =>
    let _ ← host.print usage
    return .exit 0
  | .error stop =>
    host.diagnose stop.message
    return .exit 2

end

end ScriptBinding.CommandLine
