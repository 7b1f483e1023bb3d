import ScriptBinding.CommandLine.Run

/-!
The command itself: standard streams and files of the machine it runs on.
-/
open ScriptBinding CommandLine

namespace ScriptBinding.Machine

def path (t : Text) : String := String.ofList t.displayed

def succeeds (action : IO Unit) : IO Bool := do
  try
    action
    return true
  catch _ => return false

def writeFile (name text : Text) : IO Written := do
  let chars? := text.toChars?
  if ← succeeds (IO.FS.writeFile (path name) (String.ofList (chars?.getD []))) then
    return if chars?.isSome then .done else .unencodable
  else return .refused

def host : Host IO :=
  { readInput := do (← IO.getStdin).readBinToEnd
    readFile := fun name => do
      try return some (← IO.FS.readBinFile (path name)) catch _ => return none
    makeDirectory := fun name => succeeds (IO.FS.createDirAll (path name))
    writeFile
    print := fun text => do
      match text.toChars? with
      | some chars =>
        (← IO.getStdout).putStr (String.ofList chars)
        return true
      | none => return false
    diagnose := fun line => do (← IO.getStderr).putStrLn (path line) }

end ScriptBinding.Machine

def main (arguments : List String) : IO UInt32 := do
  match ← CommandLine.run Machine.host (arguments.map Text.ofString) with
  | .exit code => return UInt32.ofNat code
  | .unencodable | .unusablePath => return 1
