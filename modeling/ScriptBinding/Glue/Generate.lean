import ScriptBinding.Glue.Backend

/-!
The two files of a unit, each written by a backend of its own.
-/
namespace ScriptBinding

namespace ModulePlan

def source (p : ModulePlan) : Text := (Backend.fresh.emit ⟨.source, p⟩).1

def header (p : ModulePlan) : Text := (Backend.fresh.emit ⟨.header, p⟩).1

end ModulePlan

structure GeneratedUnit where
  moduleId : Text
  headerName : Text
  header : Text
  sourceName : Text
  source : Text

def GeneratedUnit.headerFile (u : GeneratedUnit) : Text × Text := (u.headerName, u.header)

def GeneratedUnit.sourceFile (u : GeneratedUnit) : Text × Text := (u.sourceName, u.source)

def Module.generate (m : Module) (options : Options) : Except Rejection GeneratedUnit := do
  let plan ← m.plan options
  .ok
    { moduleId := m.id
      headerName := headerName m.id
      header := plan.header
      sourceName := sourceName m.id
      source := plan.source }

/-- Every unit on its own, up to the first that is rejected. -/
def generateAll (modules : List Module) (options : Options) :
    Except Rejection (List GeneratedUnit) :=
  modules.mapM fun m => m.generate options

end ScriptBinding
