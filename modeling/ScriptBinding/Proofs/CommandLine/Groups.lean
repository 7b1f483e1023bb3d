import Mathlib.Data.List.Induction
import ScriptBinding.CommandLine.Run
import ScriptBinding.Proofs.Interface.Loading

/-!
The arguments of the command as groups: an option with the argument behind it, a flag, an input.
They are taken one after the other, and what they come to can be said without an order between
different options: of each option the last value, the flags that occur, the last input. An input is
in the way of those behind it only if it is a file, for a dash is forgotten.
-/
namespace ScriptBinding.CommandLine

def Phase.name : Phase → Text
  | load => "load"
  | validate => "validate"
  | plan => "plan"

theorem Phase.ofName?_eq_some_iff {name : Text} {phase : Phase} :
    ofName? name = some phase ↔ name = phase.name := by
  constructor
  · intro found
    rw [ofName?] at found
    split_ifs at found with load validate plan <;> obtain rfl := Option.some.inj found
    · exact load
    · exact validate
    · exact plan
  · rintro rfl
    cases phase <;> rfl

def Selection.name : Selection → Text
  | source => "source"
  | header => "header"
  | both => "both"

theorem Selection.ofName?_eq_some_iff {name : Text} {selection : Selection} :
    ofName? name = some selection ↔ name = selection.name := by
  constructor
  · intro found
    rw [ofName?] at found
    split_ifs at found with source header both <;> obtain rfl := Option.some.inj found
    · exact source
    · exact header
    · exact both
  · rintro rfl
    cases selection <;> rfl

inductive Flag where
  | strictArity
  | verbose
deriving DecidableEq

/-- Arguments that are read together. -/
inductive Group where
  /-- An option, as it is spelled, and its value. -/
  | option (option : ValueOption) (spelling value : Text)
  | flag (flag : Flag)
  | input (argument : Text)
  | unknown (argument : Text)
  /-- An option at the end, without a value. -/
  | unfinished (option : ValueOption) (spelling : Text)
deriving DecidableEq

namespace Group

def tokens : Group → List Text
  | option _ spelling value => [spelling, value]
  | flag .strictArity => ["--strict-arity"]
  | flag .verbose => ["--verbose"]
  | input argument | unknown argument => [argument]
  | unfinished _ spelling => [spelling]

/-- An argument that is no option. -/
def single (argument : Text) : Group :=
  if argument = "--strict-arity" then flag .strictArity
  else if argument = "--verbose" then flag .verbose
  else if argument.beginsWith '-' && argument ≠ "-" then unknown argument
  else input argument

def value? (o : ValueOption) : Group → Option Text
  | option o' _ value => if o' = o then some value else none
  | flag _ | input _ | unknown _ | unfinished _ _ => none

def input? : Group → Option Text
  | input argument => some argument
  | option _ _ _ | flag _ | unknown _ | unfinished _ _ => none

theorem tokens_single (argument : Text) : (single argument).tokens = [argument] := by
  rw [single]
  split_ifs with strict verbose <;> simp_all [tokens]

end Group

/-- The groups of arguments, read from left to right. -/
def groups : List Text → List Group
  | [] => []
  | argument :: rest =>
    match ValueOption.ofName? argument with
    | none => .single argument :: groups rest
    | some option =>
      match rest with
      | [] => [.unfinished option argument]
      | value :: rest => .option option argument value :: groups rest

theorem groups_cons_of_none {argument : Text} (other : ValueOption.ofName? argument = none)
    (rest : List Text) : groups (argument :: rest) = .single argument :: groups rest := by
  rw [groups.eq_def]
  simp only [other]

theorem groups_cons_cons_of_some {argument : Text} {option : ValueOption}
    (found : ValueOption.ofName? argument = some option) (value : Text) (rest : List Text) :
    groups (argument :: value :: rest) = .option option argument value :: groups rest := by
  rw [groups.eq_def]
  simp only [found]

theorem groups_singleton_of_some {argument : Text} {option : ValueOption}
    (found : ValueOption.ofName? argument = some option) :
    groups [argument] = [.unfinished option argument] := by
  rw [groups.eq_def]
  simp only [found]

theorem tokens_groups (arguments : List Text) :
    (groups arguments).flatMap Group.tokens = arguments := by
  induction arguments using groups.induct with
  | case1 => rfl
  | case2 argument rest other ih =>
      rw [groups_cons_of_none other, List.flatMap_cons, Group.tokens_single, ih]
      rfl
  | case3 argument option found =>
      rw [groups_singleton_of_some found]
      rfl
  | case4 argument option found value rest ih =>
      rw [groups_cons_cons_of_some found, List.flatMap_cons, ih]
      rfl

/-- A group is read back from its arguments, whatever stands behind them. -/
def Group.IsRead (g : Group) : Prop := ∀ rest, groups (g.tokens ++ rest) = g :: groups rest

theorem groups_tokens {gs : List Group} (h : ∀ g ∈ gs, g.IsRead) :
    groups (gs.flatMap Group.tokens) = gs := by
  induction gs with
  | nil => rfl
  | cons g gs ih =>
      obtain ⟨first, others⟩ := List.forall_mem_cons.mp h
      rw [List.flatMap_cons, first, ih others]

theorem isRead_of_mem_groups {arguments : List Text} {g : Group} (mem : g ∈ groups arguments)
    (finished : ∀ option spelling, g ≠ .unfinished option spelling) : g.IsRead := by
  induction arguments using groups.induct with
  | case1 => exact absurd mem List.not_mem_nil
  | case2 argument rest other ih =>
      rw [groups_cons_of_none other, List.mem_cons] at mem
      rcases mem with rfl | mem
      · intro rest
        rw [Group.tokens_single, List.singleton_append, groups_cons_of_none other]
      · exact ih mem
  | case3 argument option found =>
      rw [groups_singleton_of_some found, List.mem_singleton] at mem
      exact absurd mem (finished option argument)
  | case4 argument option found value rest ih =>
      rw [groups_cons_cons_of_some found, List.mem_cons] at mem
      rcases mem with rfl | mem
      · exact groups_cons_cons_of_some found value
      · exact ih mem

/-- The values that an option is given, one after the other. -/
def values (option : ValueOption) (gs : List Group) : List Text := gs.filterMap (·.value? option)

def inputs (gs : List Group) : List Text := gs.filterMap Group.input?

/-- No value is missing, and every flag is known. -/
structure Faultless (gs : List Group) : Prop where
  finished : ∀ option spelling, .unfinished option spelling ∉ gs
  known : ∀ argument, .unknown argument ∉ gs

/-- What is asked of groups, except for the number of inputs. -/
structure Regular (gs : List Group) : Prop extends Faultless gs where
  stopAt : ∀ name, (values .stopAt gs).getLast? = some name →
    ∃ phase : Phase, name = phase.name
  emit : ∀ name, (values .emit gs).getLast? = some name →
    ∃ selection : Selection, name = selection.name

/-- The settings are those that groups ask for: the last value of each option, and the last input;
the flags that occur. -/
structure Describes (gs : List Group) (s : Settings) : Prop where
  stopAt : s.stopAt?.map Phase.name = (values .stopAt gs).getLast?
  emit : s.selection.name = (values .emit gs).getLast?.getD "both"
  namespaceName : s.namespaceName = (values .namespaceName gs).getLast?.getD "kraken"
  outputDirectory : s.outputDirectory? = (values .outputDirectory gs).getLast?
  strictArity : s.strictArity ↔ .flag .strictArity ∈ gs
  verbose : s.verbose ↔ .flag .verbose ∈ gs
  input : s.input? = (inputs gs).getLast?.filter (· ≠ .ofString "-")

/-- Only dashes stand before the last input. -/
def DashesAhead (gs : List Group) : Prop := ∀ argument ∈ (inputs gs).dropLast, argument = "-"

namespace Draft

/-- The draft after one more group. -/
def take (d : Draft) : Group → Except Stop Draft
  | .option option _ value => .ok (d.set option value)
  | .flag .strictArity => .ok { d with strictArity := true }
  | .flag .verbose => .ok { d with verbose := true }
  | .input argument =>
    if d.input?.isSome then .error (.unexpected argument)
    else .ok { d with input? := if argument = "-" then none else some argument }
  | .unknown argument => .error (.unknownFlag argument)
  | .unfinished _ spelling => .error (.missingValue spelling)

theorem single_eq (d : Draft) (argument : Text) :
    d.single argument = d.take (.single argument) := by
  rw [single, Group.single]
  split_ifs <;> simp_all [take]

theorem read_eq_foldlM {arguments : List Text}
    (plain : ∀ a ∈ arguments, a ≠ "--help" ∧ a ≠ "-h") (d : Draft) :
    d.read arguments = (groups arguments).foldlM take d := by
  induction arguments using groups.induct generalizing d with
  | case1 => rfl
  | case2 argument rest other ih =>
      obtain ⟨first, later⟩ := List.forall_mem_cons.mp plain
      rw [groups_cons_of_none other, List.foldlM_cons, ← single_eq, read.eq_def]
      simp only [first, other, decide_false, Bool.or_false, Bool.false_eq_true, if_false]
      cases d.single argument with
      | ok d => exact ih later d
      | error stop => rfl
  | case3 argument option found =>
      obtain ⟨first, -⟩ := List.forall_mem_cons.mp plain
      rw [groups_singleton_of_some found, read.eq_def]
      simp [first, found, take]
  | case4 argument option found value rest ih =>
      obtain ⟨first, later⟩ := List.forall_mem_cons.mp plain
      rw [groups_cons_cons_of_some found, List.foldlM_cons, read.eq_def]
      simp only [first, found, decide_false, Bool.or_false, Bool.false_eq_true, if_false]
      exact ih (List.forall_mem_cons.mp later).2 (d.set option value)

/-- The draft that groups ask for. -/
def ofGroups (gs : List Group) : Draft where
  stopAt? := (values .stopAt gs).getLast?
  emit := (values .emit gs).getLast?.getD "both"
  namespaceName := (values .namespaceName gs).getLast?.getD "kraken"
  strictArity := gs.contains (.flag .strictArity)
  input? := (inputs gs).getLast?.filter (· ≠ .ofString "-")
  outputDirectory? := (values .outputDirectory gs).getLast?
  verbose := gs.contains (.flag .verbose)

end Draft

/-- A group that can be read behind others. -/
def Group.Follows (gs : List Group) : Group → Prop
  | option _ _ _ | flag _ => True
  | input _ => ∀ argument ∈ inputs gs, argument = "-"
  | unknown _ | unfinished _ _ => False

theorem values_append_singleton (option : ValueOption) (gs : List Group) (g : Group) :
    values option (gs ++ [g]) = values option gs ++ (g.value? option).toList := by
  cases found : g.value? option <;> simp [values, found]

theorem inputs_append_singleton (gs : List Group) (g : Group) :
    inputs (gs ++ [g]) = inputs gs ++ g.input?.toList := by
  cases found : g.input? <;> simp [inputs, found]

theorem faultless_append_singleton_iff {gs : List Group} {g : Group} :
    Faultless (gs ++ [g]) ↔ Faultless gs ∧ Faultless [g] := by
  constructor
  · rintro ⟨finished, known⟩
    simp only [List.mem_append, not_or] at finished known
    exact ⟨⟨fun o s => (finished o s).1, fun a => (known a).1⟩,
      ⟨fun o s => (finished o s).2, fun a => (known a).2⟩⟩
  · rintro ⟨before, last⟩
    constructor <;> intros <;> rw [List.mem_append, not_or]
    · exact ⟨before.finished _ _, last.finished _ _⟩
    · exact ⟨before.known _, last.known _⟩

theorem dashesAhead_append_singleton_iff {gs : List Group} {g : Group} :
    DashesAhead (gs ++ [g]) ↔ DashesAhead gs ∧
      ∀ argument, g = .input argument → ∀ earlier ∈ inputs gs, earlier = "-" := by
  cases g with
  | input argument =>
      simp only [DashesAhead, inputs_append_singleton, Group.input?, Option.toList_some,
        List.dropLast_concat, Group.input.injEq, forall_eq']
      refine ⟨fun all => ⟨fun earlier mem => all earlier ?_, all⟩, And.right⟩
      exact (List.dropLast_sublist _).subset mem
  | option _ _ _ | flag _ | unknown _ | unfinished _ _ =>
      simp [DashesAhead, inputs_append_singleton, Group.input?]

/-- One more group is read exactly if it can follow those before it. -/
theorem readable_append_singleton_iff {gs : List Group} {g : Group} :
    Faultless (gs ++ [g]) ∧ DashesAhead (gs ++ [g]) ↔
      (Faultless gs ∧ DashesAhead gs) ∧ g.Follows gs := by
  have follows : g.Follows gs ↔
      Faultless [g] ∧ ∀ argument, g = .input argument → ∀ earlier ∈ inputs gs, earlier = "-" := by
    cases g with
    | option _ _ _ | flag _ | input _ =>
        rw [and_iff_right ⟨by simp, by simp⟩]
        simp [Group.Follows]
    | unknown argument => exact iff_of_false id fun h => h.1.known argument List.mem_cons_self
    | unfinished option spelling =>
        exact iff_of_false id fun h => h.1.finished option spelling List.mem_cons_self
  rw [faultless_append_singleton_iff, dashesAhead_append_singleton_iff, follows]
  exact and_and_and_comm

namespace Draft

theorem isSome_input?_ofGroups {gs : List Group} (h : DashesAhead gs) :
    (ofGroups gs).input?.isSome = false ↔ ∀ argument ∈ inputs gs, argument = "-" := by
  rw [DashesAhead] at h
  rw [ofGroups]
  rcases List.eq_nil_or_concat' (inputs gs) with none | ⟨ahead, last, split⟩
  · simp [none]
  · rw [split, List.dropLast_concat] at h
    simp [split, Option.filter, or_imp, forall_and, and_iff_right h]

/-- What one group does to the draft. -/
theorem take_ofGroups_iff {gs : List Group} (h : DashesAhead gs) {g : Group} {d : Draft} :
    (ofGroups gs).take g = .ok d ↔ g.Follows gs ∧ d = ofGroups (gs ++ [g]) := by
  cases g with
  | option option spelling value =>
      simp only [take, Group.Follows, Except.ok.injEq, true_and, @eq_comm _ d]
      cases option <;>
        simp [set, ofGroups, values_append_singleton, inputs_append_singleton, Group.value?,
          Group.input?]
  | flag flag =>
      cases flag <;>
        simp [take, Group.Follows, ofGroups, values_append_singleton, inputs_append_singleton,
          Group.value?, Group.input?, @eq_comm _ d]
  | input argument =>
      rw [take, Group.Follows, ← isSome_input?_ofGroups h]
      cases (ofGroups gs).input?.isSome with
      | true => simp
      | false =>
          by_cases dash : argument = "-" <;>
            simp [ofGroups, values_append_singleton, inputs_append_singleton, Group.value?,
              Group.input?, Option.filter, dash, @eq_comm _ d]
  | unknown argument => simp [take, Group.Follows]
  | unfinished option spelling => simp [take, Group.Follows]

/-- What all groups do to it. Whether one can be read depends on those before it. -/
theorem foldlM_take_eq_ok_iff {gs : List Group} {d : Draft} :
    gs.foldlM take start = .ok d ↔ (Faultless gs ∧ DashesAhead gs) ∧ d = ofGroups gs := by
  induction gs using List.reverseRecOn generalizing d with
  | nil =>
      have none : Faultless [] ∧ DashesAhead [] := ⟨⟨nofun, nofun⟩, nofun⟩
      show (.ok start : Except Stop Draft) = .ok d ↔ _
      rw [and_iff_right none, Except.ok.injEq]
      exact eq_comm
  | append_singleton gs g ih =>
      simp only [List.foldlM_append, List.foldlM_cons, List.foldlM_nil, bind_pure,
        Load.bind_eq_ok_iff, ih, readable_append_singleton_iff]
      constructor
      · rintro ⟨_, ⟨readable, rfl⟩, taken⟩
        obtain ⟨follows, rfl⟩ := (take_ofGroups_iff readable.2).mp taken
        exact ⟨⟨readable, follows⟩, rfl⟩
      · rintro ⟨⟨readable, follows⟩, rfl⟩
        have taken := (take_ofGroups_iff readable.2).mpr ⟨follows, rfl⟩
        exact ⟨_, ⟨readable, rfl⟩, taken⟩

theorem phase?_eq_ok_iff {d : Draft} {phase? : Option Phase} :
    d.phase? = .ok phase? ↔ phase?.map Phase.name = d.stopAt? := by
  rw [Draft.phase?]
  cases d.stopAt? with
  | none => simp [@eq_comm _ none]
  | some name =>
      have named (phase : Phase) : phase.name = name ↔ Phase.ofName? name = some phase :=
        eq_comm.trans Phase.ofName?_eq_some_iff.symm
      cases found : Phase.ofName? name <;> cases phase? <;> simp [named, found]

/-- The settings of a draft are those that its groups ask for. -/
theorem settings_ofGroups_eq_ok_iff {gs : List Group} {s : Settings} :
    (ofGroups gs).settings = .ok s ↔ Describes gs s := by
  rw [settings, Load.bind_eq_ok_iff]
  constructor
  · rintro ⟨stopAt?, phase, found⟩
    split at found
    · exact nomatch found
    · rename_i selection named
      obtain rfl := Except.ok.inj found
      exact
        { stopAt := phase?_eq_ok_iff.mp phase
          emit := (Selection.ofName?_eq_some_iff.mp named).symm
          namespaceName := rfl
          outputDirectory := rfl
          strictArity := List.contains_iff_mem
          verbose := List.contains_iff_mem
          input := rfl }
  · intro described
    refine ⟨s.stopAt?, phase?_eq_ok_iff.mpr described.stopAt, ?_⟩
    have selection : Selection.ofName? (ofGroups gs).emit = some s.selection :=
      Selection.ofName?_eq_some_iff.mpr described.emit.symm
    have namespaceName : (ofGroups gs).namespaceName = s.namespaceName :=
      described.namespaceName.symm
    have outputDirectory : (ofGroups gs).outputDirectory? = s.outputDirectory? :=
      described.outputDirectory.symm
    have strictArity : (ofGroups gs).strictArity = s.strictArity :=
      Bool.eq_iff_iff.mpr (List.contains_iff_mem.trans described.strictArity.symm)
    have verbose : (ofGroups gs).verbose = s.verbose :=
      Bool.eq_iff_iff.mpr (List.contains_iff_mem.trans described.verbose.symm)
    have input : (ofGroups gs).input? = s.input? := described.input.symm
    rw [selection, namespaceName, outputDirectory, strictArity, verbose, input]

end Draft

variable {gs : List Group} {s : Settings}

theorem exists_stopAt_iff :
    (∃ phase? : Option Phase, phase?.map Phase.name = (values .stopAt gs).getLast?) ↔
      ∀ name, (values .stopAt gs).getLast? = some name → ∃ phase : Phase, name = phase.name := by
  cases (values .stopAt gs).getLast? with
  | none => exact iff_of_true ⟨none, rfl⟩ nofun
  | some last =>
      simp only [Option.map_eq_some_iff, Option.some.injEq, forall_eq']
      exact ⟨fun ⟨_, phase, _, named⟩ => ⟨phase, named.symm⟩,
        fun ⟨phase, named⟩ => ⟨some phase, phase, rfl, named.symm⟩⟩

theorem exists_emit_iff :
    (∃ selection : Selection, selection.name = (values .emit gs).getLast?.getD "both") ↔
      ∀ name, (values .emit gs).getLast? = some name →
        ∃ selection : Selection, name = selection.name := by
  cases (values .emit gs).getLast? with
  | none => exact iff_of_true ⟨.both, rfl⟩ nofun
  | some last =>
      simp only [Option.getD_some, Option.some.injEq, forall_eq']
      exact exists_congr fun _ => eq_comm

/-- Groups without faults ask for settings exactly if the names among them are known. -/
theorem regular_iff : Regular gs ↔ Faultless gs ∧ ∃ s, Describes gs s := by
  constructor
  · intro regular
    obtain ⟨stopAt?, phase⟩ := exists_stopAt_iff.mpr regular.stopAt
    obtain ⟨selection, kind⟩ := exists_emit_iff.mpr regular.emit
    let d := Draft.ofGroups gs
    exact ⟨regular.toFaultless, ⟨stopAt?, selection, d.namespaceName, d.strictArity, d.input?,
      d.outputDirectory?, d.verbose⟩, phase, kind, rfl, rfl, List.contains_iff_mem,
      List.contains_iff_mem, rfl⟩
  · rintro ⟨faultless, s, described⟩
    exact ⟨faultless, exists_stopAt_iff.mp ⟨_, described.stopAt⟩,
      exists_emit_iff.mp ⟨_, described.emit⟩⟩

theorem Draft.ne_help_of_foldlM_take {d : Draft} {stop : Stop}
    (failed : gs.foldlM take d = .error stop) : stop ≠ .help := by
  have step (d : Draft) (g : Group) : d.take g ≠ .error .help := by
    cases g with
    | option _ _ _ | unknown _ | unfinished _ _ => exact nofun
    | flag flag => cases flag <;> exact nofun
    | input argument =>
        rw [take]
        split <;> exact nofun
  induction gs generalizing d with
  | nil => exact nomatch failed
  | cons g gs ih =>
      rw [List.foldlM_cons] at failed
      cases taken : d.take g with
      | ok d' =>
          rw [taken] at failed
          exact ih failed
      | error other =>
          rw [taken] at failed
          obtain rfl : other = stop := Except.error.inj failed
          rintro rfl
          exact step d g taken

theorem Draft.settings_ne_help (d : Draft) : d.settings ≠ .error .help := by
  have phase : d.phase? ≠ .error .help := by
    rw [phase?]
    split
    · exact nofun
    · split <;> exact nofun
  intro failed
  rw [settings] at failed
  cases checked : d.phase? with
  | error stop =>
      rw [checked] at failed
      obtain rfl := Except.error.inj failed
      exact phase checked
  | ok phase? =>
      rw [checked] at failed
      cases named : Selection.ofName? d.emit <;> simp [named, bind, Except.bind] at failed

def Accepts (arguments : List Text) : Prop := ∃ s, Settings.ofArguments arguments = .ok s

section
variable {arguments : List Text} (plain : ∀ a ∈ arguments, a ≠ "--help" ∧ a ≠ "-h")
include plain

theorem Settings.ofArguments_eq_ok_iff :
    ofArguments arguments = .ok s ↔
      (Faultless (groups arguments) ∧ DashesAhead (groups arguments)) ∧
        Describes (groups arguments) s := by
  rw [ofArguments, Load.bind_eq_ok_iff, Draft.read_eq_foldlM plain]
  simp only [Draft.foldlM_take_eq_ok_iff, and_assoc, exists_and_left, exists_eq_left,
    Draft.settings_ofGroups_eq_ok_iff]

theorem accepts_iff :
    Accepts arguments ↔ Regular (groups arguments) ∧ DashesAhead (groups arguments) := by
  rw [regular_iff, and_right_comm, ← exists_and_left]
  exact exists_congr fun s => Settings.ofArguments_eq_ok_iff plain

/-- Arguments that are refused end the run: the reason is said, and nothing is read or written. -/
theorem run_of_refused (refused : ¬ Accepts arguments) :
    ∃ stop, Settings.ofArguments arguments = .error stop ∧
      ∀ {m : Type → Type} [Monad m] (host : Host m), run host arguments = (do
        host.diagnose stop.message
        return .exit 2) := by
  cases read : Settings.ofArguments arguments with
  | ok s => exact absurd ⟨s, read⟩ refused
  | error stop =>
      have other : stop ≠ .help := by
        rintro rfl
        rw [Settings.ofArguments, Draft.read_eq_foldlM plain] at read
        cases drafted : (groups arguments).foldlM Draft.take Draft.start with
        | error stop =>
            rw [drafted] at read
            exact Draft.ne_help_of_foldlM_take drafted (Except.error.inj read)
        | ok d =>
            rw [drafted] at read
            exact d.settings_ne_help read
      refine ⟨stop, rfl, fun host => ?_⟩
      rw [run, read]
      cases stop with
      | help => exact absurd rfl other
      | missingValue _ | unknownFlag _ | unexpected _ | unknownPhase _ | unknownSelection _ => rfl

end

end ScriptBinding.CommandLine
