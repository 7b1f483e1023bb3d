import ScriptBinding.Assembly.Report
import ScriptBinding.CommandLine.Arguments
import ScriptBinding.Glue.Generate
import ScriptBinding.Interface.Load
import ScriptBinding.Interface.Report

/-!
From the text of the declarations to what a run brings forth. A run that fails brings forth nothing
but diagnostics, one line for each error.
-/
namespace ScriptBinding.CommandLine

/-- What a successful run brings forth: a report of the phase it stops after, or generated units. -/
inductive Product where
  | report (text : Text)
  | units (units : List GeneratedUnit)

def loadDiagnostic (e : LoadError) : Text :=
  "error:" ++ e.path.written ++ ": [load] " ++ e.problem.message

def rejectionDiagnostics (r : Rejection) : List Text := r.violations.map Violation.written

def reportModules (modules : List Module) : Except (List Text) Text :=
  match modules.mapM Module.report with
  | .ok nodes => .ok (Json.arr nodes).indented
  | .error e => .error [e.message]

def reportPlans (modules : List Module) (options : Options) : Except (List Text) Text :=
  match modules.mapM fun m => m.plan options with
  | .ok plans => .ok (Json.arr (plans.map ModulePlan.report)).indented
  | .error r => .error (rejectionDiagnostics r)

def pipeline (settings : Settings) (source : Text) : Except (List Text) Product :=
  match Load.source source with
  | .error e => .error [loadDiagnostic e]
  | .ok modules =>
    if settings.stopAt? = some .load then (reportModules modules).map .report
    else
      let violations := modules.flatMap Module.violations
      if !violations.isEmpty then .error (violations.map Violation.written)
      else match settings.stopAt? with
        | some .plan => (reportPlans modules settings.options).map .report
        | some _ => .ok (.units [])
        | none =>
          match generateAll modules settings.options with
          | .ok units => .ok (.units units)
          | .error r => .error (rejectionDiagnostics r)

end ScriptBinding.CommandLine
