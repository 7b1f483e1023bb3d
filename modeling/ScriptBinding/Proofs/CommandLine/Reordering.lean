import Mathlib.Data.List.Perm.Basic
import ScriptBinding.Proofs.CommandLine.Groups

/-!
The order of the arguments. Groups of different options can change places, as long as no input comes
to stand behind the one file that is named: where there are several inputs, of which one is a file,
one order is accepted and another is not.
-/
namespace ScriptBinding.CommandLine

section
variable {gs gs' : List Group} {s : Settings}

/-- Groups in another order, those of one option in the same. -/
structure Reordered (gs gs' : List Group) : Prop where
  perm : gs.Perm gs'
  values : ∀ option, values option gs = values option gs'

namespace Reordered

variable (h : Reordered gs gs')
include h

theorem symm : Reordered gs' gs := ⟨h.perm.symm, fun option => (h.values option).symm⟩

theorem inputs : (inputs gs).Perm (CommandLine.inputs gs') := h.perm.filterMap _

theorem faultless (faultless : Faultless gs) : Faultless gs' where
  finished option spelling mem := faultless.finished option spelling (h.perm.mem_iff.mpr mem)
  known argument mem := faultless.known argument (h.perm.mem_iff.mpr mem)

theorem regular (regular : Regular gs) : Regular gs' where
  toFaultless := h.faultless regular.toFaultless
  stopAt := h.values .stopAt ▸ regular.stopAt
  emit := h.values .emit ▸ regular.emit

theorem describes (same : CommandLine.inputs gs = CommandLine.inputs gs') (h' : Describes gs s) :
    Describes gs' s where
  stopAt := h.values .stopAt ▸ h'.stopAt
  emit := h.values .emit ▸ h'.emit
  namespaceName := h.values .namespaceName ▸ h'.namespaceName
  outputDirectory := h.values .outputDirectory ▸ h'.outputDirectory
  strictArity := h'.strictArity.trans h.perm.mem_iff
  verbose := h'.verbose.trans h.perm.mem_iff
  input := same ▸ h'.input

end Reordered

end

/-- Groups with these inputs behind all others. -/
def withInputs (gs : List Group) (arguments : List Text) : List Group :=
  gs.filter (·.input?.isNone) ++ arguments.map .input

theorem inputs_withInputs (gs : List Group) (arguments : List Text) :
    inputs (withInputs gs arguments) = arguments := by
  have none : (gs.filter (·.input?.isNone)).filterMap Group.input? = [] := by
    rw [List.filterMap_eq_nil_iff]
    intro g mem
    simpa using (List.mem_filter.mp mem).2
  rw [inputs, withInputs, List.filterMap_append, none, List.nil_append, List.filterMap_map]
  exact List.filterMap_some

theorem reordered_withInputs {gs : List Group} {arguments : List Text}
    (same : (inputs gs).Perm arguments) : Reordered gs (withInputs gs arguments) := by
  have split : (gs.filter fun g => !g.input?.isNone) = (inputs gs).map .input := by
    rw [inputs, List.map_filterMap, ← List.filterMap_eq_filter]
    congr 1
    funext g
    cases g <;> rfl
  constructor
  · have apart : (gs.filter (·.input?.isNone) ++ gs.filter fun g => !g.input?.isNone).Perm gs :=
      List.filter_append_perm _ gs
    rw [split] at apart
    exact apart.symm.trans ((same.map _).append_left _)
  · intro option
    have none : (arguments.map Group.input).filterMap (·.value? option) = [] := by
      simp [Group.value?]
    rw [values, values, withInputs, List.filterMap_append, none, List.append_nil,
      List.filterMap_filter]
    congr 1
    funext g
    cases g <;> rfl

/-- Behind several inputs of which one is a file, there are other orders that are read. -/
def Unsettled (gs : List Group) : Prop :=
  Regular gs ∧ 1 < (inputs gs).length ∧ (inputs gs).countP (· ≠ .ofString "-") = 1

/-- The inputs of accepted groups stay in order, as long as it makes no difference where the file is
named: dashes have one order, and a file stands alone. -/
theorem Reordered.inputs_eq {gs gs' : List Group} (h : Reordered gs gs') (regular : Regular gs)
    (ahead : DashesAhead gs) (settled : ¬ Unsettled gs) :
    CommandLine.inputs gs = CommandLine.inputs gs' := by
  have same := h.inputs
  rcases List.eq_nil_or_concat' (CommandLine.inputs gs) with none | ⟨dashes, last, split⟩
  · rw [none] at same ⊢
    exact (List.nil_perm.mp same).symm
  · rw [DashesAhead, split, List.dropLast_concat] at ahead
    by_cases dash : last = "-"
    · have alike : CommandLine.inputs gs = List.replicate (dashes.length + 1) (.ofString "-") := by
        rw [split, dash, List.replicate_succ', ← List.eq_replicate_iff.mpr ⟨rfl, ahead⟩]
      rw [alike] at same ⊢
      exact List.replicate_perm.mp same
    · have alone : dashes = [] := by
        by_contra some
        have none : dashes.countP (· ≠ .ofString "-") = 0 :=
          List.countP_eq_zero.mpr fun argument mem => by simp [ahead argument mem]
        refine settled ⟨regular, ?_, ?_⟩
        · simpa [split, List.length_pos_iff] using some
        · rw [split, List.countP_append, none]
          simp [dash]
      rw [split, alone, List.nil_append] at same ⊢
      exact List.singleton_perm.mp same

/-- The inputs among some arguments can stand in any order behind all others. -/
theorem exists_reordered {arguments order : List Text}
    (finished : ∀ option spelling, .unfinished option spelling ∉ groups arguments)
    (same : (inputs (groups arguments)).Perm order) :
    ∃ arguments', Reordered (groups arguments) (groups arguments') ∧
      inputs (groups arguments') = order := by
  have read {g : Group} (mem : g ∈ groups arguments) : g.IsRead :=
    isRead_of_mem_groups mem fun option spelling same => finished option spelling (same ▸ mem)
  have back : groups ((withInputs (groups arguments) order).flatMap Group.tokens) =
      withInputs (groups arguments) order := by
    refine groups_tokens fun g mem => ?_
    rw [withInputs, List.mem_append, List.mem_map] at mem
    rcases mem with mem | ⟨argument, listed, rfl⟩
    · exact read (List.mem_filter.mp mem).1
    · obtain ⟨g, mem, found⟩ := List.mem_filterMap.mp (same.mem_iff.mpr listed)
      cases g with
      | input _ => exact Option.some.inj found ▸ read mem
      | option _ _ _ | flag _ | unknown _ | unfinished _ _ => exact nomatch found
  refine ⟨(withInputs (groups arguments) order).flatMap Group.tokens, ?_, ?_⟩
  · rw [back]
    exact reordered_withInputs same
  · rw [back, inputs_withInputs]

/-- With a file and dashes, one order is accepted and another is not. -/
theorem exists_reordered_of_unsettled {arguments : List Text} (h : Unsettled (groups arguments)) :
    ∃ first second, Reordered (groups arguments) (groups first) ∧
      Reordered (groups arguments) (groups second) ∧
      DashesAhead (groups first) ∧ ¬ DashesAhead (groups second) := by
  obtain ⟨regular, several, one⟩ := h
  let dashes := (inputs (groups arguments)).filter (· = .ofString "-")
  obtain ⟨file, alone⟩ : ∃ file,
      (inputs (groups arguments)).filter (· ≠ .ofString "-") = [file] := by
    rwa [← List.length_eq_one_iff, ← List.countP_eq_length_filter]
  have other : file ≠ "-" := by
    have mem : file ∈ (inputs (groups arguments)).filter (· ≠ .ofString "-") :=
      alone ▸ List.mem_singleton.mpr rfl
    simpa using (List.mem_filter.mp mem).2
  have split : (dashes ++ [file]).Perm (inputs (groups arguments)) := by
    rw [← alone]
    simpa [dashes] using List.filter_append_perm (· = .ofString "-") (inputs (groups arguments))
  have some : dashes ≠ [] := by
    intro none
    have long := split.length_eq
    simp only [none, List.nil_append, List.length_singleton] at long
    omega
  obtain ⟨first, reordered, read⟩ := exists_reordered regular.finished split.symm
  obtain ⟨second, reordered', read'⟩ :=
    exists_reordered regular.finished (split.symm.trans List.perm_append_comm)
  refine ⟨first, second, reordered, reordered', ?_, ?_⟩
  · rw [DashesAhead, read, List.dropLast_concat]
    exact fun argument mem => by simpa using (List.mem_filter.mp mem).2
  · rw [DashesAhead, read', List.singleton_append, List.dropLast_cons_of_ne_nil some]
    exact fun ahead => other (ahead file List.mem_cons_self)

theorem dashesAhead_of_length_le {gs : List Group} (short : (inputs gs).length ≤ 1) :
    DashesAhead gs := by
  have none : (inputs gs).dropLast = [] :=
    List.length_eq_zero_iff.mp (by rw [List.length_dropLast]; omega)
  rw [DashesAhead, none]
  exact fun _ mem => absurd mem List.not_mem_nil

theorem Reordered.unsettled {gs gs' : List Group} (h : Reordered gs gs')
    (unsettled : Unsettled gs) : Unsettled gs' := by
  obtain ⟨regular, several, one⟩ := unsettled
  exact ⟨h.regular regular, h.inputs.length_eq ▸ several, h.inputs.countP_eq _ ▸ one⟩

section
variable {arguments : List Text} (plain : ∀ a ∈ arguments, a ≠ "--help" ∧ a ≠ "-h")
include plain

section
variable {arguments' : List Text} (h : Reordered (groups arguments) (groups arguments'))
include h

/-- Other groups of the same arguments are no calls for help. -/
theorem plain_of_reordered : ∀ a ∈ arguments', a ≠ "--help" ∧ a ≠ "-h" := by
  have same : arguments.Perm arguments' := by
    rw [← tokens_groups arguments, ← tokens_groups arguments']
    exact h.perm.flatMap_right _
  exact fun a mem => plain a (same.mem_iff.mpr mem)

theorem ofArguments_of_reordered {s : Settings} (settled : ¬ Unsettled (groups arguments))
    (read : Settings.ofArguments arguments = .ok s) : Settings.ofArguments arguments' = .ok s := by
  rw [Settings.ofArguments_eq_ok_iff plain] at read
  obtain ⟨⟨faultless, ahead⟩, described⟩ := read
  have same := h.inputs_eq (regular_iff.mpr ⟨faultless, s, described⟩) ahead settled
  rw [Settings.ofArguments_eq_ok_iff (plain_of_reordered plain h)]
  rw [DashesAhead, same] at ahead
  exact ⟨⟨h.faultless faultless, ahead⟩, h.describes same described⟩

end

/-- One input is all that is allowed, unless there are dashes before another one. -/
theorem accepts_iff_one_input_iff :
    (Accepts arguments ↔ Regular (groups arguments) ∧ (inputs (groups arguments)).length ≤ 1) ↔
      ¬ (Regular (groups arguments) ∧ 1 < (inputs (groups arguments)).length ∧
        DashesAhead (groups arguments)) := by
  rw [accepts_iff plain]
  constructor
  · rintro same ⟨regular, several, ahead⟩
    exact absurd (same.mp ⟨regular, ahead⟩).2 (by omega)
  · intro settled
    constructor
    · rintro ⟨regular, ahead⟩
      exact ⟨regular, Nat.le_of_not_lt fun several => settled ⟨regular, several, ahead⟩⟩
    · rintro ⟨regular, short⟩
      exact ⟨regular, dashesAhead_of_length_le short⟩

/-- Orders make no difference, unless a file stands among several inputs. -/
theorem ofArguments_reordered_iff :
    (∀ arguments', Reordered (groups arguments) (groups arguments') → ∀ s,
      Settings.ofArguments arguments = .ok s ↔ Settings.ofArguments arguments' = .ok s) ↔
        ¬ Unsettled (groups arguments) := by
  constructor
  · intro stable unsettled
    obtain ⟨first, second, reordered, reordered', ahead, behind⟩ :=
      exists_reordered_of_unsettled unsettled
    obtain ⟨s, read⟩ : Accepts first :=
      (accepts_iff (plain_of_reordered plain reordered)).mpr
        ⟨reordered.regular unsettled.1, ahead⟩
    have read' : Accepts second :=
      ⟨s, (stable second reordered' s).mp ((stable first reordered s).mpr read)⟩
    exact behind ((accepts_iff (plain_of_reordered plain reordered')).mp read').2
  · intro settled arguments' reordered s
    refine ⟨ofArguments_of_reordered plain reordered settled, ?_⟩
    have settled' : ¬ Unsettled (groups arguments') := mt reordered.symm.unsettled settled
    exact ofArguments_of_reordered (plain_of_reordered plain reordered) reordered.symm settled'

end

/-- Arguments that do not call for help are accepted exactly if no value is missing, every flag and
the last phase and selection are known, and only dashes stand before the last input; their settings
are then those of their groups, and otherwise the run ends with 2. That one input is allowed at most
is true of all arguments but those that name one behind dashes, and that groups of different options
can change places is true of all but those that have a file among several inputs. -/
theorem accepts_groups_iff {arguments : List Text}
    (plain : ∀ a ∈ arguments, a ≠ "--help" ∧ a ≠ "-h") :
    let gs := groups arguments
    (Accepts arguments ↔ Regular gs ∧ DashesAhead gs) ∧
    (Accepts arguments → ∀ s, Settings.ofArguments arguments = .ok s ↔ Describes gs s) ∧
    (¬ Accepts arguments → ∃ stop, Settings.ofArguments arguments = .error stop ∧
      ∀ {m : Type → Type} [Monad m] (host : Host m), run host arguments = (do
        host.diagnose stop.message
        return .exit 2)) ∧
    ((Accepts arguments ↔ Regular gs ∧ (inputs gs).length ≤ 1) ↔
      ¬ (Regular gs ∧ 1 < (inputs gs).length ∧ DashesAhead gs)) ∧
    ((∀ arguments', Reordered gs (groups arguments') → ∀ s,
        Settings.ofArguments arguments = .ok s ↔ Settings.ofArguments arguments' = .ok s) ↔
      ¬ Unsettled gs) := by
  refine ⟨accepts_iff plain, ?_, run_of_refused plain, accepts_iff_one_input_iff plain,
    ofArguments_reordered_iff plain⟩
  rintro ⟨s', read⟩ s
  rw [Settings.ofArguments_eq_ok_iff plain] at read ⊢
  exact and_iff_right read.1

theorem accepts_groups_page :
    let arguments : List Text := ["--emit", "source", "page.json", "-o", "out", "--emit", "header"]
    (∀ a ∈ arguments, a ≠ "--help" ∧ a ≠ "-h") ∧
      ∃ s, Settings.ofArguments arguments = .ok s ∧ Describes (groups arguments) s ∧
        ∀ arguments', Reordered (groups arguments) (groups arguments') →
          Settings.ofArguments arguments' = .ok s := by
  intro arguments
  have plain : ∀ a ∈ arguments, a ≠ "--help" ∧ a ≠ "-h" := by decide
  obtain ⟨-, described, -, -, stable⟩ := accepts_groups_iff plain
  have read : Settings.ofArguments arguments =
      .ok ⟨none, .header, "kraken", false, some "page.json", some "out", false⟩ := rfl
  have settled : ¬ Unsettled (groups arguments) := fun unsettled =>
    absurd unsettled.2.1 (by decide)
  exact ⟨plain, _, read, (described ⟨_, read⟩ _).mp read,
    fun arguments' reordered => (stable.mpr settled arguments' reordered _).mp read⟩

/-- A file may be named behind a dash, and not before it. -/
theorem not_accepts_groups_dashed :
    let arguments : List Text := ["-", "page.json"]
    let arguments' : List Text := ["page.json", "-"]
    (∀ a ∈ arguments, a ≠ "--help" ∧ a ≠ "-h") ∧
      inputs (groups arguments) = arguments ∧ Accepts arguments ∧
      Reordered (groups arguments) (groups arguments') ∧ ¬ Accepts arguments' := by
  intro arguments arguments'
  have read : Settings.ofArguments arguments =
      .ok ⟨none, .both, "kraken", false, some "page.json", none, false⟩ := rfl
  have refused : Settings.ofArguments arguments' = .error (.unexpected "-") := rfl
  refine ⟨by decide, rfl, ⟨_, read⟩, ⟨.swap _ _ _, fun option => rfl⟩, ?_⟩
  rintro ⟨s, read'⟩
  exact nomatch refused.symm.trans read'

end ScriptBinding.CommandLine
