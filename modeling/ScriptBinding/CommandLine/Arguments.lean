import ScriptBinding.Interface.Basic

/-!
The arguments of the command. They are read from left to right; of an option that is given twice the
last value counts, and the values of options are looked at only after all arguments were read.
-/
namespace ScriptBinding.CommandLine

/-- A phase after which a run can stop. -/
inductive Phase where
  | load
  | validate
  | plan
deriving DecidableEq

def Phase.ofName? (name : Text) : Option Phase :=
  if name = "load" then some load
  else if name = "validate" then some validate
  else if name = "plan" then some plan
  else none

inductive Selection where
  | source
  | header
  | both
deriving DecidableEq

def Selection.ofName? (name : Text) : Option Selection :=
  if name = "source" then some source
  else if name = "header" then some header
  else if name = "both" then some both
  else none

structure Settings where
  stopAt? : Option Phase
  selection : Selection
  namespaceName : Text
  strictArity : Bool
  /-- The file that is read; none for the standard input. -/
  input? : Option Text
  /-- The directory that is written to; none for the standard output. -/
  outputDirectory? : Option Text
  verbose : Bool

def Settings.options (s : Settings) : Options :=
  { Options.standard with namespaceName := s.namespaceName, strictArity := s.strictArity }

/-- Why there are no settings. -/
inductive Stop where
  | help
  | missingValue (option : Text)
  | unknownFlag (flag : Text)
  | unexpected (argument : Text)
  | unknownPhase (name : Text)
  | unknownSelection (name : Text)
deriving DecidableEq

def usage : Text :=
  "bindgen [OPTIONS] [INPUT] [-o DIR]\n\n" ++
  "Generate QuickJS bindings from a JSON declaration model.\n\n" ++
  "Options:\n" ++
  "  --stop-at PHASE     Stop after phase and print it as JSON: load, validate, plan\n" ++
  "  --emit KIND         Files to emit: source, header, both (default: both)\n" ++
  "  --namespace NS      C++ namespace of the generated code (default: kraken)\n" ++
  "  --strict-arity      Throw when a call passes more arguments than declared\n" ++
  "  -o, --output-dir DIR\n" ++
  "                      Write qjs_<id>.cc/.h into DIR instead of stdout\n" ++
  "  --verbose           Report written files on stderr\n" ++
  "  --help              Show this help message\n"

/-- What is said about arguments that are refused; nothing for a call for help. -/
def Stop.message : Stop → Text
  | help => ""
  | missingValue option => "error: " ++ option ++ " requires an argument"
  | unknownFlag flag => "error: unknown flag '" ++ flag ++ "'"
  | unexpected argument => "error: unexpected argument '" ++ argument ++ "'"
  | unknownPhase name => "error: unknown phase '" ++ name ++ "'"
  | unknownSelection name => "error: unknown emit kind '" ++ name ++ "'"

inductive ValueOption where
  | stopAt
  | emit
  | namespaceName
  | outputDirectory
deriving DecidableEq

def ValueOption.ofName? (name : Text) : Option ValueOption :=
  if name = "--stop-at" then some stopAt
  else if name = "--emit" then some emit
  else if name = "--namespace" then some namespaceName
  else if name = "-o" || name = "--output-dir" then some outputDirectory
  else none

/-- The arguments read so far, with the names of phase and selection as they were given. -/
structure Draft where
  stopAt? : Option Text
  emit : Text
  namespaceName : Text
  strictArity : Bool
  input? : Option Text
  outputDirectory? : Option Text
  verbose : Bool

namespace Draft

def start : Draft := ⟨none, "both", Options.standard.namespaceName, false, none, none, false⟩

def set (d : Draft) (option : ValueOption) (value : Text) : Draft :=
  match option with
  | .stopAt => { d with stopAt? := some value }
  | .emit => { d with emit := value }
  | .namespaceName => { d with namespaceName := value }
  | .outputDirectory => { d with outputDirectory? := some value }

/-- The draft after an argument that stands alone. A dash stands for the standard input, and is
forgotten when a file is named after it. -/
def single (d : Draft) (argument : Text) : Except Stop Draft :=
  if argument = "--strict-arity" then .ok { d with strictArity := true }
  else if argument = "--verbose" then .ok { d with verbose := true }
  else if argument.beginsWith '-' && argument ≠ "-" then .error (.unknownFlag argument)
  else if d.input?.isSome then .error (.unexpected argument)
  else .ok { d with input? := if argument = "-" then none else some argument }

def read (d : Draft) : List Text → Except Stop Draft
  | [] => .ok d
  | argument :: rest =>
    if argument = "--help" || argument = "-h" then .error .help
    else match ValueOption.ofName? argument with
      | some option =>
        match rest with
        | [] => .error (.missingValue argument)
        | value :: rest => (d.set option value).read rest
      | none =>
        match d.single argument with
        | .ok d => d.read rest
        | .error stop => .error stop

def phase? (d : Draft) : Except Stop (Option Phase) :=
  match d.stopAt? with
  | none => .ok none
  | some name =>
    match Phase.ofName? name with
    | some phase => .ok (some phase)
    | none => .error (.unknownPhase name)

def settings (d : Draft) : Except Stop Settings := do
  let stopAt? ← d.phase?
  match Selection.ofName? d.emit with
  | none => .error (.unknownSelection d.emit)
  | some selection =>
    .ok
      { stopAt?
        selection
        namespaceName := d.namespaceName
        strictArity := d.strictArity
        input? := d.input?
        outputDirectory? := d.outputDirectory?
        verbose := d.verbose }

end Draft

def Settings.ofArguments (arguments : List Text) : Except Stop Settings := do
  let draft ← Draft.start.read arguments
  draft.settings

end ScriptBinding.CommandLine
