import ScriptBinding.Glue.Generate
import ScriptBinding.Proofs.Unit.CallbackNames

/-!
When a unit is planned and generated, and which tables its plan holds. The check is the only thing
that fails: the merge of the tables, which knows a failure of its own, meets one constructor at most
once the check is passed, and writing the files out asks nothing more of a plan.
-/
namespace ScriptBinding

section
variable {a b : Text}

theorem headerName_injective (same : headerName a = headerName b) : a = b :=
  List.append_cancel_left (List.append_cancel_right same)

theorem sourceName_injective (same : sourceName a = sourceName b) : a = b :=
  List.append_cancel_left (List.append_cancel_right same)

theorem headerName_ne_sourceName : headerName a ≠ sourceName b := by
  intro same
  have last := congrArg (·.reverse.head?) same
  simp [headerName, sourceName, Text.ofString] at last

end

/-- The tables install what a unit declares, row by row, and nothing twice in one place. -/
structure Registrations.Install (r : Registrations) (m : Module) : Prop where
  globalFunctions :
    r.globalFunctions = m.functions.map fun f => ⟨f.name, f.name, f.arguments.length⟩
  constructor : ∀ name, r.constructor? = some name ↔ (∃ c, .cls c ∈ m.members) ∧ name = m.backing
  methods : ∀ c, .cls c ∈ m.members →
    r.prototypeMethods = c.methods.map fun f => ⟨f.name, f.name, f.arguments.length⟩
  properties : ∀ c, .cls c ∈ m.members →
    r.prototypeProperties = c.properties.map fun q => ⟨q.name, q.name ++ "AttributeGetCallback",
      if q.readOnly then none else some (q.name ++ "AttributeSetCallback")⟩
  withoutClass : (∀ c, .cls c ∉ m.members) → r.prototypeMethods = [] ∧ r.prototypeProperties = []
  globalNames : (r.globalFunctions.map (·.name) ++ r.constructor?.toList).Nodup
  prototypeNames : (r.prototypeMethods.map (·.name) ++ r.prototypeProperties.map (·.name)).Nodup

namespace Module

theorem generate_eq_map (m : Module) (options : Options) :
    m.generate options = (m.plan options).map fun p =>
      ⟨m.id, headerName m.id, p.header, sourceName m.id, p.source⟩ := by
  rw [generate]
  cases m.plan options <;> rfl

theorem plan_eq_error {m : Module} (rejected : ¬ m.isValid) (options : Options) :
    m.plan options = .error ⟨m.id, m.violations⟩ := by
  simp [plan, rejected, bind, Except.bind]

theorem plan_eq_error_iff {m : Module} {options : Options} {r : Rejection} :
    m.plan options = .error r ↔ ¬ m.isValid ∧ r = ⟨m.id, m.violations⟩ := by
  by_cases valid : m.isValid
  · simp [plan_eq_ok valid options, valid]
  · simp [plan_eq_error valid options, valid, eq_comm]

theorem hasClass_iff (m : Module) : m.hasClass ↔ ∃ c, .cls c ∈ m.members := by
  rw [hasClass, Bool.not_eq_true', List.isEmpty_eq_false_iff_exists_mem]
  exact exists_congr fun c => mem_classes_iff

/-- The plan of an accepted unit has a wrapper exactly if the tables have a constructor to
install. -/
theorem isSome_classPlan?_planned (m : Module) (options : Options) :
    (m.planned options).classPlan?.isSome = (m.planned options).registrations.hasClass := by
  rw [classPlan?_planned, Option.isSome_map]
  cases classes : m.classes <;> simp [planned, tables, Registrations.hasClass, hasClass, classes]

namespace WellFormed

variable {m : Module} (h : m.WellFormed)
include h

theorem classes_eq_of_mem {c : ClassDecl} (mem : .cls c ∈ m.members) : m.classes = [c] := by
  have listed := mem_classes_iff.mpr mem
  rcases h.classes_eq with none | ⟨d, single, -⟩
  · exact absurd listed (none ▸ List.not_mem_nil)
  · rw [single, List.mem_singleton] at listed
    rw [single, listed]

theorem nodup_globalNames :
    (m.tables.globalFunctions.map (·.name) ++ m.tables.constructor?.toList).Nodup := by
  have functions : m.tables.globalFunctions.map (·.name) = m.functions.map (·.name) := by
    simp [tables, FunctionDecl.row]
  rw [functions, tables]
  split
  case isTrue classed =>
    refine h.functionsDistinct.append (List.nodup_singleton _) fun name mem mem' => ?_
    rw [Option.toList_some, List.mem_singleton] at mem'
    exact h.apartFromClass classed (mem' ▸ mem)
  case isFalse => simpa using h.functionsDistinct

theorem nodup_prototypeNames :
    (m.tables.prototypeMethods.map (·.name) ++
      m.tables.prototypeProperties.map (·.name)).Nodup := by
  have names : m.tables.prototypeMethods.map (·.name) ++ m.tables.prototypeProperties.map (·.name) =
      m.methods.map (·.name) ++ m.properties.map (·.name) := by
    simp [tables, FunctionDecl.row, PropertyDecl.row_accessor, Function.comp_def]
  rw [names]
  rcases h.classes_eq with none | ⟨c, single, formed⟩
  · simp [methods, properties, none]
  · have listed : m.methods = c.methods ∧ m.properties = c.properties := by
      simp [methods, properties, single]
    rw [listed.1, listed.2]
    refine formed.methodsDistinct.append formed.propertiesDistinct fun name mem mem' => ?_
    obtain ⟨f, declared, rfl⟩ := List.mem_map.mp mem
    exact formed.apartFromProperties f declared mem'

theorem install_tables : m.tables.Install m where
  globalFunctions := rfl
  constructor name := by
    rw [← hasClass_iff, tables]
    cases m.hasClass <;> simp [eq_comm]
  methods c mem := by simp [tables, methods, h.classes_eq_of_mem mem, FunctionDecl.row]
  properties c mem := by
    simp [tables, properties, h.classes_eq_of_mem mem, PropertyDecl.row_accessor]
  withoutClass absent := by
    have none : m.classes = [] :=
      List.eq_nil_iff_forall_not_mem.mpr fun c mem => absent c (mem_classes_iff.mp mem)
    simp [tables, methods, properties, none]
  globalNames := h.nodup_globalNames
  prototypeNames := h.nodup_prototypeNames

end WellFormed

/-- A unit that is not accepted is neither planned nor generated, for its violations and nothing
else. An accepted one is both: its tables merge, the plan has one part for each member in order, the
tables install what is declared, and its two files are written. -/
theorem plan_and_generate_fail_iff (m : Module) (options : Options) :
    (∀ r, m.plan options = .error r ↔ ¬ m.isValid ∧ r = ⟨m.id, m.violations⟩) ∧
    (∀ r, m.generate options = .error r ↔ ¬ m.isValid ∧ r = ⟨m.id, m.violations⟩) ∧
    ∀ p, m.plan options = .ok p →
      (m.members.map (Member.registrations m.backing)).foldlM Registrations.merge
        Registrations.empty = .ok p.registrations ∧
      p.members = m.members.map (Member.plan m.backing options.strictArity) ∧
      p.registrations.Install m ∧ p.classPlan?.isSome = p.registrations.hasClass ∧
      m.generate options =
        .ok ⟨m.id, headerName m.id, p.header, sourceName m.id, p.source⟩ := by
  refine ⟨fun r => plan_eq_error_iff, fun r => ?_, fun p planned => ?_⟩
  · have planned : m.plan options = .error r ↔ _ := plan_eq_error_iff
    rw [← planned, generate_eq_map]
    cases m.plan options <;> simp [Except.map]
  · by_cases valid : m.isValid
    · have same : p = m.planned options :=
        Except.ok.inj (planned.symm.trans (plan_eq_ok valid options))
      subst same
      refine ⟨foldlM_merge_registrations valid, rfl, (wellFormed_of_isValid valid).install_tables,
        m.isSome_classPlan?_planned options, ?_⟩
      rw [generate_eq_map, planned]
      rfl
    · rw [plan_eq_error valid options] at planned
      exact nomatch planned

/-- A unit with two classes. -/
def doubled : Module :=
  let made : FunctionDecl := ⟨"constructor", [], .primitive .void⟩
  ⟨"page", "Page", [.cls ⟨made, [], []⟩, .cls ⟨made, [], []⟩], []⟩

theorem plan_and_generate_page_and_doubled :
    (∃ p, page.plan .standard = .ok p ∧ p.registrations.Install page ∧
      page.generate .standard =
        .ok ⟨"page", "qjs_page.h", p.header, "qjs_page.cc", p.source⟩) ∧
    ¬ doubled.isValid ∧ doubled.generate .standard = .error ⟨"page", doubled.violations⟩ := by
  have planned := plan_eq_ok isValid_page .standard
  obtain ⟨-, -, install, -, generated⟩ := (plan_and_generate_fail_iff page .standard).2.2 _ planned
  have rejected : ¬ doubled.isValid := by decide
  exact ⟨⟨_, planned, install, generated⟩, rejected,
    ((plan_and_generate_fail_iff doubled .standard).2.1 _).mpr ⟨rejected, rfl⟩⟩

end Module

end ScriptBinding
