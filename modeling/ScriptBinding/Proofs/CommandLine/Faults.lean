import ScriptBinding.Proofs.CommandLine.GeneratedFiles
import ScriptBinding.Proofs.CommandLine.LoadReport

/-!
What is wrong with declarations, and what a run makes of it. Only loading and the check find faults:
reports, plans and files are made of whatever has passed them. Runs that go on after loading thus
end alike and say the same, whichever phase they stop at, and a run that finds a fault in any of its
modules leaves nothing behind but its diagnostics.
-/
namespace ScriptBinding.CommandLine

/-- What keeps declarations from being loaded. -/
def loadFaults (source : Text) : List Text :=
  match Load.source source with
  | .error e => [loadDiagnostic e]
  | .ok _ => []

/-- What is wrong with declarations, one line for each fault: that they do not load, or what the
check finds, module by module. -/
def faults (source : Text) : List Text :=
  match Load.source source with
  | .error e => [loadDiagnostic e]
  | .ok modules => modules.flatMap fun m => m.violations.map Violation.written

/-- The faults that a run gets to see. -/
def Settings.faults (settings : Settings) (source : Text) : List Text :=
  if settings.stopAt? = some .load then loadFaults source else CommandLine.faults source

/-- The code and the diagnostics that what a run brings forth comes to, delivery aside. -/
def exitCode : Except (List Text) Product → Nat
  | .error _ => 1
  | .ok _ => 0

def diagnostics : Except (List Text) Product → List Text
  | .error lines => lines
  | .ok _ => []

theorem loadFaults_eq_nil_iff (source : Text) :
    loadFaults source = [] ↔ ∃ modules, Load.source source = .ok modules := by
  rw [loadFaults]
  cases Load.source source <;> simp

theorem faults_eq_nil_iff (source : Text) :
    faults source = [] ↔
      ∃ modules, Load.source source = .ok modules ∧ ∀ m ∈ modules, m.isValid := by
  rw [faults]
  cases Load.source source with
  | error e => simp
  | ok modules => simp [List.flatMap_eq_nil_iff, Module.isValid, List.isEmpty_iff]

/-- Every fault is announced as one. -/
theorem startsWith_of_mem_faults {source line : Text} (mem : line ∈ faults source) :
    line.startsWith "error:" := by
  rw [faults] at mem
  cases loaded : Load.source source with
  | error e =>
      rw [loaded] at mem
      exact List.mem_singleton.mp mem ▸ rfl
  | ok modules =>
      rw [loaded] at mem
      obtain ⟨m, -, mem⟩ := List.mem_flatMap.mp mem
      obtain ⟨v, -, rfl⟩ := List.mem_map.mp mem
      rfl

theorem Settings.faults_subset (settings : Settings) (source : Text) :
    settings.faults source ⊆ CommandLine.faults source := by
  rw [Settings.faults, loadFaults, CommandLine.faults]
  cases Load.source source <;> split <;> simp

section
variable {modules : List Module}

/-- Loaded modules can always be reported. -/
theorem exists_reportModules {source : Text} (loaded : Load.source source = .ok modules) :
    ∃ text, reportModules modules = .ok text := by
  have representable := Load.representable_of_source loaded
  obtain ⟨nodes, reported, -⟩ := Load.eachFrom_roundTrips fun m mem =>
    Load.oneModule_roundTrips (representable m mem).1 (representable m mem).2
  exact ⟨_, by rw [reportModules, reported]⟩

theorem exists_reportPlans (valid : ∀ m ∈ modules, m.isValid) (options : Options) :
    ∃ text, reportPlans modules options = .ok text := by
  have plans : modules.mapM (fun m => m.plan options) = .ok (modules.map (·.planned options)) := by
    rw [Load.mapM_eq_ok_iff, List.forall₂_map_right_iff, List.forall₂_same]
    exact fun m mem => Module.plan_eq_ok (valid m mem) options
  exact ⟨_, by rw [reportPlans, plans]⟩

end

/-- A run brings something forth if it sees no fault, and else says which faults it sees. -/
theorem pipeline_eq (settings : Settings) (source : Text) :
    (settings.faults source = [] ∧ ∃ product, pipeline settings source = .ok product) ∨
      (settings.faults source ≠ [] ∧
        pipeline settings source = .error (settings.faults source)) := by
  rw [pipeline, Settings.faults, loadFaults, faults]
  cases loaded : Load.source source with
  | error e => exact .inr (by simp)
  | ok modules =>
      by_cases stops : settings.stopAt? = some .load
      · obtain ⟨text, reported⟩ := exists_reportModules loaded
        exact .inl (by simp [stops, reported, Except.map])
      · simp only [stops, if_false, ← List.map_flatMap]
        cases violations : modules.flatMap Module.violations with
        | cons v rest => exact .inr (by simp)
        | nil =>
            have valid : ∀ m ∈ modules, m.isValid := fun m mem =>
              List.isEmpty_iff.mpr (List.flatMap_eq_nil_iff.mp violations m mem)
            refine .inl ⟨rfl, ?_⟩
            cases stopped : settings.stopAt? with
            | none => simp [generateAll_eq_ok valid]
            | some phase =>
                cases phase with
                | load => exact absurd stopped stops
                | validate => exact ⟨_, rfl⟩
                | plan =>
                    obtain ⟨text, reported⟩ := exists_reportPlans valid settings.options
                    simp [reported, Except.map]

theorem exitCode_eq_zero_iff (settings : Settings) (source : Text) :
    exitCode (pipeline settings source) = 0 ↔ settings.faults source = [] := by
  rcases pipeline_eq settings source with ⟨none, product, made⟩ | ⟨some, failed⟩
  · simp [made, none, exitCode]
  · simp [failed, some, exitCode]

theorem diagnostics_pipeline (settings : Settings) (source : Text) :
    diagnostics (pipeline settings source) = settings.faults source := by
  rcases pipeline_eq settings source with ⟨none, product, made⟩ | ⟨some, failed⟩
  · rw [made, none, diagnostics]
  · rw [failed, diagnostics]

/-- A run that sees faults in the declarations reports them, and asks nothing else of its
surroundings. -/
theorem carryOn_of_faults {m : Type → Type} [Monad m] (host : Host m) {settings : Settings}
    {source : Text} (written : source.isBlank = false) (some : settings.faults source ≠ []) :
    carryOn host settings (.ok source) = (do
      diagnoseAll host (settings.faults source)
      return .exit 1) := by
  rcases pipeline_eq settings source with ⟨none, -⟩ | ⟨-, failed⟩
  · exact absurd none some
  · rw [carryOn_of_written host written, failed, carryOut]

namespace Surroundings

/-- A run with these arguments comes to the declarations: the arguments are understood, and what
they name is read as a text that is not blank. -/
structure Reads (s : Surroundings) (arguments : List Text) (settings : Settings) (source : Text) :
    Prop where
  understood : Settings.ofArguments arguments = .ok settings
  usable : settings.input?.all isUsablePath
  found : (readSource host settings.input?).run s = (.ok source, s)
  written : source.isBlank = false

theorem run_of_reads {s : Surroundings} {arguments : List Text} {settings : Settings}
    {source : Text} (h : s.Reads arguments settings source) :
    s.run arguments = (carryOn host settings (.ok source)).run s := by
  rw [run, run_of_understood host h.understood h.usable, run_bind, h.found]

/-- Diagnostics are added to those there are, and nothing else happens. -/
theorem run_diagnoseAll (lines : List Text) (s : Surroundings) :
    ∃ s', (diagnoseAll host lines).run s = ((), s') ∧ s'.disk = s.disk ∧ s'.printed = s.printed ∧
      s'.diagnosed.reverse = s.diagnosed.reverse ++ lines.map fun line : Text => line ++ "\n" := by
  induction lines generalizing s with
  | nil => exact ⟨s, rfl, rfl, rfl, (List.append_nil _).symm⟩
  | cons line rest ih =>
      obtain ⟨s', ran, disk, printed, diagnosed⟩ :=
        ih { s with diagnosed := (line ++ "\n") :: s.diagnosed }
      refine ⟨s', ran, disk, printed, ?_⟩
      rw [diagnosed, List.reverse_cons, List.append_assoc, List.singleton_append, List.map_cons]

end Surroundings

/-- Loading and the check are the only phases that find faults. A run that goes on after loading
ends and speaks alike whichever phase it stops at, and whatever its namespace and strictness: it
ends well exactly if the declarations load and all modules pass the check. Once a run has read
declarations in which it sees a fault, it reports each fault of each module in order, ends with
code 1, and asks nothing else of its surroundings. So on a disk all files and directories stay as
they are, and nothing is printed. -/
theorem runs_see_faults (source : Text) :
    (∀ settings : Settings, settings.stopAt? = some .load →
      diagnostics (pipeline settings source) = loadFaults source ∧
      (exitCode (pipeline settings source) = 0 ↔ ∃ modules, Load.source source = .ok modules)) ∧
    (∀ settings : Settings, settings.stopAt? ≠ some .load →
      diagnostics (pipeline settings source) = faults source ∧
      (exitCode (pipeline settings source) = 0 ↔
        ∃ modules, Load.source source = .ok modules ∧ ∀ m ∈ modules, m.isValid)) ∧
    (∀ settings : Settings, exitCode (pipeline settings source) ≠ 0 →
      exitCode (pipeline settings source) = 1) ∧
    (∀ settings : Settings, ∀ line ∈ settings.faults source, line.startsWith "error:") ∧
    (∀ {m : Type → Type} [Monad m] (host : Host m) (arguments : List Text) (settings : Settings),
      Settings.ofArguments arguments = .ok settings → settings.input?.all isUsablePath →
      source.isBlank = false → settings.faults source ≠ [] →
      run host arguments = readSource host settings.input? >>= carryOn host settings ∧
        carryOn host settings (.ok source) = (do
          diagnoseAll host (settings.faults source)
          return .exit 1)) ∧
    ∀ (s : Surroundings) (arguments : List Text) (settings : Settings),
      s.Reads arguments settings source → settings.faults source ≠ [] →
      ∃ s', s.run arguments = (.exit 1, s') ∧ s'.disk = s.disk ∧ s'.printed = s.printed ∧
        s'.diagnosed.reverse =
          s.diagnosed.reverse ++ (settings.faults source).map fun line : Text => line ++ "\n" := by
  refine ⟨fun settings stops => ?_, fun settings goes => ?_, fun settings failed => ?_,
    fun settings line mem => startsWith_of_mem_faults (settings.faults_subset source mem),
    fun host arguments settings understood usable written some =>
      ⟨run_of_understood host understood usable, carryOn_of_faults host written some⟩,
    fun s arguments settings reads some => ?_⟩
  · have seen : settings.faults source = loadFaults source := if_pos stops
    rw [diagnostics_pipeline, exitCode_eq_zero_iff, seen, loadFaults_eq_nil_iff]
    exact ⟨rfl, Iff.rfl⟩
  · have seen : settings.faults source = faults source := if_neg goes
    rw [diagnostics_pipeline, exitCode_eq_zero_iff, seen, faults_eq_nil_iff]
    exact ⟨rfl, Iff.rfl⟩
  · cases made : pipeline settings source with
    | ok product => exact absurd (by rw [made]; rfl) failed
    | error lines => rfl
  · obtain ⟨s', ran, left⟩ := Surroundings.run_diagnoseAll (settings.faults source) s
    refine ⟨s', ?_, left⟩
    rw [Surroundings.run_of_reads reads,
      carryOn_of_faults Surroundings.host reads.written some, Surroundings.run_bind, ran]
    rfl

/-- The second of two modules is refused, and nothing is written of the first. -/
theorem runs_see_faults_pair :
    ∃ s', (Surroundings.reading (pairSource "1")).run (pairArguments "/out") = (.exit 1, s') ∧
      s'.disk = ⟨["work"], [], []⟩ ∧ s'.printed = [] ∧
      s'.diagnosed = [("error:1: [names] module id '1' is not a valid identifier\n" : Text)] := by
  have reads : (Surroundings.reading (pairSource "1")).Reads (pairArguments "/out")
      (pairSettings "/out") (pairSource "1") :=
    ⟨ofArguments_pairArguments _, rfl, Surroundings.run_readSource_reading _, by decide +kernel⟩
  have seen : (pairSettings "/out").faults (pairSource "1") =
      [("error:1: [names] module id '1' is not a valid identifier" : Text)] := by decide +kernel
  obtain ⟨-, -, -, -, -, faulty⟩ := runs_see_faults (pairSource "1")
  obtain ⟨s', ran, disk, printed, diagnosed⟩ :=
    faulty _ (pairArguments "/out") (pairSettings "/out") reads
      (by rw [seen]; exact List.cons_ne_nil _ _)
  refine ⟨s', ran, disk, printed, ?_⟩
  rw [seen] at diagnosed
  rw [← List.reverse_reverse s'.diagnosed, diagnosed]
  rfl

end ScriptBinding.CommandLine
