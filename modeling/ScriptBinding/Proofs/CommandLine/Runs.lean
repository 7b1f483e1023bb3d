import ScriptBinding.CommandLine.Run

/-!
What a run asks of its surroundings, whatever these are: the declarations first, and from what it
makes of them either diagnostics or the delivery of files.
-/
namespace ScriptBinding.CommandLine

section
variable {m : Type → Type} [Monad m] (host : Host m) {arguments : List Text} {settings : Settings}

/-- A run whose arguments are understood asks for the declarations and goes on with these. -/
theorem run_of_understood (understood : Settings.ofArguments arguments = .ok settings)
    (usable : settings.input?.all isUsablePath) :
    run host arguments = readSource host settings.input? >>= carryOn host settings := by
  rw [run, understood]
  simp only [runSettings, usable, Bool.not_true, Bool.false_eq_true, if_false]

theorem run_of_unusable (understood : Settings.ofArguments arguments = .ok settings)
    (unusable : ¬ settings.input?.all isUsablePath) :
    run host arguments = return .unusablePath := by
  rw [run, understood]
  simp only [runSettings, unusable, Bool.not_false, if_true]

theorem carryOn_of_written {source : Text} (written : source.isBlank = false) :
    carryOn host settings (.ok source) = carryOut host settings (pipeline settings source) := by
  simp only [carryOn, written, Bool.false_eq_true, if_false]

/-- Blank declarations are reported, and nothing is made of them. -/
theorem carryOn_of_blank {source : Text} (blank : source.isBlank) :
    carryOn host settings (.ok source) = do
      host.diagnose "error: no input provided"
      return .exit 2 := by
  simp only [carryOn, blank, if_true]

variable {units : List GeneratedUnit}

theorem deliver_of_none (direct : settings.outputDirectory? = none) :
    deliver host settings units =
      printAll host (printout (units.flatMap settings.selection.files)) := by
  rw [deliver, direct]

variable {directory : Text} (directed : settings.outputDirectory? = some directory)
include directed

/-- Files go into a directory once this is there. -/
theorem deliver_of_usable (usable : isUsablePath directory) :
    deliver host settings units = (do
      if ← host.makeDirectory directory then
        writeFiles host directory settings.verbose (units.flatMap settings.selection.files)
      else
        host.diagnose ("error: cannot create '" ++ directory ++ "'")
        return .exit 1) := by
  rw [deliver, directed]
  simp only [usable, Bool.not_true, Bool.false_eq_true, if_false]

theorem deliver_of_unusable (unusable : ¬ isUsablePath directory) :
    deliver host settings units = return .unusablePath := by
  rw [deliver, directed]
  simp only [unusable, Bool.not_false, if_true]

end

end ScriptBinding.CommandLine
