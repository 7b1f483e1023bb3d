import ScriptBinding.Proofs.Callback.Nesting
import ScriptBinding.Proofs.Text.Casing
import ScriptBinding.Proofs.Unit.Scopes

/-!
The brackets of the two files of a unit. Behind the line that opens the namespace, what a unit
declares brings only names, numbers and operators into the lines; so all brackets are those of the
forms in which they are written, and these are nested. In the source file, every line is indented by
the braces around it.
-/
namespace ScriptBinding

open Text (unclosed? brackets_append brackets_of_isIdentifier brackets_of_isNamePart)

namespace FunctionDecl

variable {f : FunctionDecl} (h : f.WellFormed)
include h

theorem bracketless_callPlan {backing : Text} (word : backing.isIdentifier) (mode : CallMode)
    (strictArity : Bool) : (f.callPlan mode backing strictArity).Bracketless where
  spelled := spelled_callPlan mode strictArity h word
  name := Text.isWord_of_isIdentifier h.name
  operators := by
    intro point mem c listed
    obtain ⟨slot, a, declared, rfl⟩ :=
      f.exists_of_mem_conversions mode backing strictArity mem listed
    exact Text.brackets_operator (isTemplatePart_conversionIn h declared slot)
  result := by
    intro operator converted
    rw [eq_operator_of_callResult converted]
    exact Text.brackets_operator (ValueType.isTemplatePart_operator h.result)

theorem isBraced_row : f.row.code.IsBraced := by
  have name := brackets_of_isIdentifier h.name
  refine Code.isBraced_line rfl ?_
  simp only [row, FunctionRow.written, brackets_append, Text.brackets_quoted, name,
    Text.brackets_signedDecimal]
  decide

end FunctionDecl

theorem isBraced_callback {name : Text} (bare : name.brackets = []) {body : List Code}
    (inside : ∀ c ∈ body, c.IsBraced) : (callback name body).IsBraced := by
  refine .block rfl ?_ inside rfl rfl
  rw [← Text.unclosed?_brackets]
  simp only [callbackOpening, brackets_append, bare]
  decide

namespace PropertyDecl

variable {q : PropertyDecl} (h : q.WellFormed)
include h

theorem isBraced_row : q.accessor.row.code.IsBraced := by
  have name := brackets_of_isIdentifier h.name
  refine Code.isBraced_line rfl ?_
  have setter : (q.accessor.row.setter?.getD "nullptr").brackets = [] := by
    rw [row_accessor]
    cases q.readOnly with
    | true => rfl
    | false => exact (brackets_append _ _).trans (by rw [name]; rfl)
  simp only [PropertyRow.written, brackets_append, Text.brackets_quoted, setter]
  simp only [row_accessor, brackets_append, name]
  decide

variable {className : Text} (word : className.isWord)
include word

theorem isBraced_getterCode : (q.accessor.getterCode className).IsBraced := by
  have name := brackets_of_isIdentifier h.name
  have operator := Text.brackets_operator (ValueType.isTemplatePart_operator h.type)
  refine isBraced_callback ?_ ?_
  · simp only [accessor, brackets_append, name]
    decide
  · rw [List.forall_mem_map, List.forall_mem_append, List.forall_mem_singleton]
    refine ⟨isBraced_receiverLines word, Code.isBraced_line rfl ?_⟩
    simp only [accessor, Accessor.readLine, brackets_append, name, operator]
    decide

theorem isBraced_setterCode : (q.accessor.setterCode className q.setter).IsBraced := by
  have name := brackets_of_isIdentifier h.name
  have native := brackets_of_isNamePart
    (Text.isNamePart_of_mem_capitalized (Text.isNamePart_of_isIdentifier h.name))
  have operator := Text.brackets_operator (ValueType.isTemplatePart_operator h.type)
  refine isBraced_callback ?_ ?_
  · simp only [setter, brackets_append, name]
    decide
  · rw [List.forall_mem_append, List.forall_mem_map]
    simp only [List.forall_mem_cons, List.not_mem_nil, false_imp_iff, implies_true, and_true]
    refine ⟨isBraced_receiverLines word, .line rfl rfl, .line rfl (by decide),
      Code.isBraced_line rfl ?_, Statement.isBraced_exceptionCheck,
      Code.isBraced_line rfl ?_, .line rfl rfl⟩
    · simp only [accessor, Accessor.convertLine, brackets_append, operator]
      decide
    · simp only [setter, Setter.writeLine, brackets_append, native]
      decide

end PropertyDecl

theorem isBraced_installRoutine {wrapper name : Text} (bare : wrapper.brackets = [])
    (bare' : name.brackets = []) {body : List Code} (inside : ∀ c ∈ body, c.IsBraced) :
    (installRoutine wrapper name body).IsBraced := by
  refine .block rfl ?_ inside rfl rfl
  rw [← Text.unclosed?_brackets]
  simp only [routineOpening, brackets_append, bare, bare']
  decide

/-- A routine that installs a table. -/
theorem isBraced_installTable {wrapper name type table call : Text} {lookup rows : List Code}
    (bare : wrapper.brackets = []) (fixed : ∀ t ∈ [name, type, table], t.brackets = [])
    (found : ∀ c ∈ lookup, c.IsBraced) (listed : ∀ c ∈ rows, c.IsBraced) (nested : call.IsNested) :
    (installRoutine wrapper name
      (installTable lookup (tableCode type table rows) call)).IsBraced := by
  simp only [List.forall_mem_cons, List.not_mem_nil, false_imp_iff, implies_true, and_true] at fixed
  have braced : (tableCode type table rows).IsBraced := by
    refine .block rfl ?_ listed rfl rfl
    rw [← Text.unclosed?_brackets]
    simp only [tableOpening, brackets_append, fixed]
    decide
  have last : (installerCall call).IsNested :=
    .append (.append rfl nested) rfl
  refine isBraced_installRoutine bare fixed.1 ?_
  simp only [installTable, List.forall_mem_append, List.forall_mem_cons, List.not_mem_nil,
    false_imp_iff, implies_true, and_true]
  exact ⟨found, braced, .line rfl rfl, .line rfl last⟩

theorem isBraced_lookups :
    (∀ c ∈ prototypeLookup, c.IsBraced) ∧ ∀ c ∈ constructorLookup, c.IsBraced := by
  simp only [prototypeLookup, constructorLookup, typeInfoLookup, List.forall_mem_cons,
    List.not_mem_nil, false_imp_iff, implies_true, and_true]
  exact ⟨⟨.line rfl (by decide), .line rfl (by decide), .line rfl rfl⟩,
    .line rfl (by decide), .line rfl (by decide), .line rfl rfl⟩

namespace ModulePlan

variable (p : ModulePlan)

/-- What a source file holds strictly inside its namespace. -/
def insideCode : List Code :=
  [.blank] ++ (if p.classPlan?.isSome then p.typeInfoCode ++ [.blank] else []) ++
    Code.spaced p.definitions

def insideLines : List Text := Code.allLinesAt glueIndent 0 p.insideCode

/-- The lines of the header file below the one that opens the namespace. -/
def headerContents : List Text := Text.behindLast p.namespaceLine p.headerLines

theorem contents_eq_inside : p.contents = p.insideLines ++ [p.namespaceEnd] := by
  have code : p.contentsCode = p.insideCode ++ [p.namespaceClosing] := rfl
  rw [contents_eq, code, Code.allLinesAt_append, namespaceClosing, Code.allLinesAt, Code.linesAt,
    Code.indentedLine_zero]
  rfl

theorem headerContents_eq :
    p.headerContents = wrapperAhead ++ p.wrapperLine :: p.wrapperBehind := by
  have last : p.namespaceLine ∉ wrapperAhead ++ p.wrapperLine :: p.wrapperBehind := by
    have first : p.namespaceLine.head? = some (.scalar 'n') := rfl
    have others : ∀ t ∈ wrapperAhead ++ p.wrapperLine :: p.wrapperBehind,
        t.head? ≠ some (.scalar 'n') := by
      rw [List.forall_mem_append, List.forall_mem_cons]
      refine ⟨by decide, ?_, fun t mem begun => ?_⟩
      · show some (CodePoint.scalar 'c') ≠ some (.scalar 'n')
        decide
      · have known := p.head?_of_mem_wrapperBehind t mem
        rw [begun] at known
        exact absurd known (by decide)
    exact fun mem => others _ mem first
  obtain ⟨ahead, lines⟩ := p.headerLines_eq_namespace
  rw [headerContents, lines, Text.behindLast_append ahead last]

/-- A file and what stands in it below the line that opens the namespace: from this line on, all
brackets are closed in order. -/
structure NestedBelow (lines below : List Text) : Prop where
  lines : ∃ ahead, lines = ahead ++ p.namespaceLine :: below
  last : p.namespaceLine ∉ below
  nested : Text.IsNested (p.namespaceLine :: below).flatten

variable {p}

/-- The wrapper class in the header, with what stands before it and the empty line behind. -/
theorem isNested_wrapper (wrapper : p.wrapperName.brackets = []) :
    Text.IsNested (wrapperAhead ++ p.wrapperLine ::
      (Code.allLinesAt glueIndent 0 (wrapperInside p.registrations.hasClass) ++
        [("\x7d;" : Text), []])).flatten := by
  have members : ∀ hasClass,
      Text.IsNested (Code.allLinesAt glueIndent 0 (wrapperInside hasClass)).flatten := by
    decide +kernel
  have opens : unclosed? [] p.wrapperLine = some [.scalar '\x7b'] := by
    rw [← Text.unclosed?_brackets]
    simp only [wrapperLine, brackets_append, wrapper]
    decide
  rw [List.flatten_append, List.flatten_cons, List.flatten_append]
  refine .append (by decide) ?_
  rw [Text.IsNested, Text.unclosed?_append, opens, Option.bind_some, Text.unclosed?_append,
    Text.unclosed?_of_isNested (members _), Option.bind_some]
  rfl

section
variable (plain : p.options.namespaceName.brackets = [])
include plain

theorem unclosed?_namespaceLine : unclosed? [] p.namespaceLine = some [.scalar '\x7b'] := by
  rw [← Text.unclosed?_brackets]
  simp only [namespaceLine, brackets_append, plain]
  decide

theorem unclosed?_namespaceEnd : unclosed? [.scalar '\x7b'] p.namespaceEnd = some [] := by
  rw [← Text.unclosed?_brackets]
  simp only [namespaceEnd, brackets_append, plain]
  decide

/-- What is nested may stand between the lines that open and close the namespace. -/
theorem isNested_namespace {inside : List Text} (nested : Text.IsNested inside.flatten)
    (rest : List Text) (bare : Text.brackets rest.flatten = []) :
    Text.IsNested (p.namespaceLine :: (inside ++ p.namespaceEnd :: rest)).flatten := by
  have ending : Text.IsNested rest.flatten :=
    Text.isNested_iff_brackets.mpr (by rw [bare]; rfl)
  rw [List.flatten_cons, List.flatten_append, List.flatten_cons, Text.IsNested,
    Text.unclosed?_append, unclosed?_namespaceLine plain, Option.bind_some, Text.unclosed?_append,
    Text.unclosed?_of_isNested nested, Option.bind_some, Text.unclosed?_append,
    unclosed?_namespaceEnd plain, Option.bind_some]
  exact ending

theorem nestedBelow_source (braced : ∀ c ∈ p.insideCode, c.IsBraced) :
    p.NestedBelow p.sourceLines p.contents where
  lines := by
    obtain ⟨ahead, lines⟩ := p.sourceLines_eq
    exact ⟨ahead, p.contents_eq ▸ lines⟩
  last := Text.not_mem_behindLast _ _
  nested := by
    have inside : Text.IsNested p.insideLines.flatten :=
      (Code.leads_allLinesAt braced 0).unclosed?_flatten
    rw [contents_eq_inside]
    exact isNested_namespace plain inside [] rfl

theorem nestedBelow_header (wrapper : p.wrapperName.brackets = [])
    (guard : p.includeGuard.brackets = []) : p.NestedBelow p.headerLines p.headerContents where
  lines := by
    obtain ⟨ahead, lines⟩ := p.headerLines_eq_namespace
    exact ⟨ahead, p.headerContents_eq ▸ lines⟩
  last := Text.not_mem_behindLast _ _
  nested := by
    have ending : Text.brackets [[], ("#endif  // " ++ p.includeGuard : Text)].flatten = [] := by
      simp only [List.flatten_cons, List.flatten_nil, List.append_nil, List.nil_append,
        brackets_append, guard]
      decide
    have nested := isNested_namespace plain (isNested_wrapper wrapper) _ ending
    rw [headerContents_eq]
    simpa only [wrapperBehind, wrapperEnding, namespaceEnd, List.append_assoc, List.cons_append,
      List.nil_append] using nested

/-- Each line of the source file inside the namespace is indented by the braces that are open before
it, the one of the namespace apart. -/
theorem indentedIn_inside (braced : ∀ c ∈ p.insideCode, c.IsBraced) {earlier later : List Text}
    {t : Text} (place : p.insideLines = earlier ++ t :: later) :
    ∃ opened, unclosed? [] (p.namespaceLine :: earlier).flatten =
        some (opened ++ [.scalar '\x7b']) ∧ t.IndentedIn opened := by
  have leads := Code.leads_allLinesAt braced 0
  rw [show Code.allLinesAt glueIndent (0 : Nat) p.insideCode = _ from place] at leads
  obtain ⟨opened, read, indented⟩ := leads.indentedIn
  refine ⟨opened, ?_, indented⟩
  rw [List.flatten_cons, Text.unclosed?_append, unclosed?_namespaceLine plain, Option.bind_some]
  exact Text.unclosed?_frame read _

end

end ModulePlan

namespace Module

section
variable {m : Module} (h : m.WellFormed) (options : Options)
include h

theorem brackets_wrapperName : (m.planned options).wrapperName.brackets = [] :=
  (brackets_append _ _).trans (brackets_of_isIdentifier h.backing)

theorem isBraced_memberCode {member : Member} (mem : member ∈ m.members) :
    ∀ c ∈ (m.planned options).memberCode (member.plan m.backing options.strictArity),
      c.IsBraced := by
  have word := Text.isWord_of_isIdentifier h.backing
  have body {f : FunctionDecl} (formed : f.WellFormed) (mode : CallMode) :=
    (FunctionDecl.bracketless_callPlan formed h.backing mode
      options.strictArity).isBraced_bodyCode word
  have function {f : FunctionDecl} (formed : f.WellFormed) (mode : CallMode) :
      ((f.callPlan mode m.backing options.strictArity).callbackCode m.backing).IsBraced :=
    isBraced_callback (brackets_of_isIdentifier formed.name) (body formed mode)
  cases member with
  | function f =>
      rw [Member.plan, ModulePlan.memberCode, List.forall_mem_singleton]
      exact function (h.functions f (mem_functions_iff.mpr mem)) .function
  | cls d =>
      have formed := h.classes d (mem_classes_iff.mpr mem)
      intro c listed
      rcases ((m.planned options).mem_memberCode_cls).mp listed with
        rfl | ⟨a, declared, rfl⟩ | ⟨a, declared, s, some, rfl⟩ | ⟨f, declared, rfl⟩
      · refine .block rfl ?_ (body formed.constructor .constructor) rfl rfl
        rw [← Text.unclosed?_brackets]
        simp only [ModulePlan.constructorOpening, brackets_append, brackets_wrapperName h options]
        decide
      · obtain ⟨q, property, rfl⟩ := List.mem_map.mp declared
        exact PropertyDecl.isBraced_getterCode (formed.properties q property) word
      · obtain ⟨q, property, rfl⟩ := List.mem_map.mp declared
        obtain ⟨-, rfl⟩ : q.readOnly = false ∧ q.setter = s := by
          simpa [PropertyDecl.accessor] using some
        exact PropertyDecl.isBraced_setterCode (formed.properties q property) word
      · obtain ⟨g, method, rfl⟩ := List.mem_map.mp declared
        exact function (formed.methods g method) .method

theorem isBraced_installCode : (m.planned options).installCode.IsBraced := by
  have routines : ∀ name ∈ (m.planned options).installRoutines,
      (name ++ "(context);").isFlush ∧ (name ++ "(context);").IsNested := by
    rw [ModulePlan.installRoutines]
    cases (m.planned options).registrations.hasClass <;> decide
  refine isBraced_installRoutine (brackets_wrapperName h options) rfl ?_
  rw [List.forall_mem_map]
  exact fun name mem => .line (routines name mem).1 (routines name mem).2

theorem isBraced_functionTables :
    (m.planned options).globalFunctionsCode.IsBraced ∧
      (m.planned options).prototypeMethodsCode.IsBraced := by
  have wrapper := brackets_wrapperName h options
  have rows {fs : List FunctionDecl} (formed : ∀ f ∈ fs, f.WellFormed) :
      ∀ c ∈ (fs.map FunctionDecl.row).map FunctionRow.code, c.IsBraced := by
    simp only [List.forall_mem_map]
    exact fun f mem => FunctionDecl.isBraced_row (formed f mem)
  constructor
  · exact isBraced_installTable wrapper (by decide) (List.forall_mem_nil _) (rows h.functions)
      (by decide)
  · exact isBraced_installTable wrapper (by decide) isBraced_lookups.1
      (rows fun f mem => h.declared_wellFormed (List.mem_append_right _ mem)) (by decide)

theorem isBraced_attributeTables :
    ((m.planned options).constructorTableCode m.backing).IsBraced ∧
      (m.planned options).prototypePropertiesCode.IsBraced := by
  have wrapper := brackets_wrapperName h options
  constructor
  · refine isBraced_installTable wrapper (by decide) isBraced_lookups.2 ?_ (by decide)
    rw [List.forall_mem_singleton]
    refine Code.isBraced_line rfl ?_
    simp only [constructorRow, brackets_append, Text.brackets_quoted,
      brackets_of_isIdentifier h.backing]
    decide
  · refine isBraced_installTable wrapper (by decide) isBraced_lookups.1 ?_ (by decide)
    show ∀ c ∈ (m.properties.map fun q => q.accessor.row).map PropertyRow.code, c.IsBraced
    simp only [List.forall_mem_map]
    exact fun q mem => PropertyDecl.isBraced_row (h.property_wellFormed mem)

theorem isBraced_installers : ∀ c ∈ (m.planned options).installers, c.IsBraced := by
  obtain ⟨globalFunctions, prototypeMethods⟩ := isBraced_functionTables h options
  obtain ⟨constructor, prototypeProperties⟩ := isBraced_attributeTables h options
  rw [installers_planned, List.forall_mem_cons, List.forall_mem_cons]
  refine ⟨isBraced_installCode h options, globalFunctions, ?_⟩
  cases m.hasClass with
  | false => exact List.forall_mem_nil _
  | true =>
      simp only [if_true, List.forall_mem_cons, List.not_mem_nil, false_imp_iff, implies_true,
        and_true]
      exact ⟨constructor, prototypeMethods, prototypeProperties⟩

theorem isBraced_definitions : ∀ c ∈ (m.planned options).definitions, c.IsBraced := by
  rw [ModulePlan.definitions, List.forall_mem_append, List.forall_mem_flatMap]
  refine ⟨?_, isBraced_installers h options⟩
  show ∀ plan ∈ m.members.map (Member.plan m.backing options.strictArity), _
  rw [List.forall_mem_map]
  exact fun member mem => isBraced_memberCode h options mem

theorem isBraced_typeInfoCode : ∀ c ∈ (m.planned options).typeInfoCode, c.IsBraced := by
  have wrapper := brackets_wrapperName h options
  have backing : (m.planned options).className.brackets = [] := brackets_of_isIdentifier h.backing
  have capitals : (m.planned options).className.screamingSnake.brackets = [] :=
    brackets_of_isNamePart (Text.isNamePart_of_mem_screamingSnake h.backing)
  rw [ModulePlan.typeInfoCode, List.forall_mem_cons, List.forall_mem_singleton]
  constructor
  · refine Code.isBraced_line rfl ?_
    simp only [ModulePlan.typeInfoLine, brackets_append, Text.brackets_quoted, wrapper, backing,
      capitals]
    decide
  · refine Code.isBraced_line rfl ?_
    simp only [ModulePlan.typeReferenceLine, brackets_append, wrapper, backing]
    decide

theorem isBraced_insideCode : ∀ c ∈ (m.planned options).insideCode, c.IsBraced := by
  have blank : Code.blank.IsBraced := .line rfl rfl
  rw [ModulePlan.insideCode, List.forall_mem_append, List.forall_mem_append,
    List.forall_mem_singleton, Code.spaced, List.forall_mem_flatMap]
  refine ⟨⟨blank, ?_⟩, fun c mem => ?_⟩
  · split
    · rw [List.forall_mem_append, List.forall_mem_singleton]
      exact ⟨isBraced_typeInfoCode h options, blank⟩
    · exact List.forall_mem_nil _
  · rw [List.forall_mem_cons, List.forall_mem_singleton]
    exact ⟨isBraced_definitions h options c mem, blank⟩

end

/-- In both files of an accepted unit the brackets are nested from the opening of the namespace to the
end, if the name of the namespace has none; and every line of the source file inside the namespace
is indented by the braces around it. -/
theorem files_nested {m : Module} (valid : m.isValid) {options : Options}
    (plain : options.namespaceName.brackets = []) :
    ∃ p, m.plan options = .ok p ∧
      p.source = Text.join "\n" p.sourceLines ++ "\n" ∧ p.NestedBelow p.sourceLines p.contents ∧
      p.header = Text.join "\n" p.headerLines ++ "\n" ∧
      p.NestedBelow p.headerLines p.headerContents ∧
      ∃ inside, p.contents = inside ++ [p.namespaceEnd] ∧
        ∀ earlier t later, inside = earlier ++ t :: later →
          ∃ opened, unclosed? [] (p.namespaceLine :: earlier).flatten =
              some (opened ++ [.scalar '\x7b']) ∧ t.IndentedIn opened := by
  have formed := wellFormed_of_isValid valid
  have braced := isBraced_insideCode formed options
  have guard : (m.planned options).includeGuard.brackets = [] := by
    have id := brackets_of_isNamePart (Text.isNamePart_of_mem_screamingSnake formed.id)
    simp only [ModulePlan.includeGuard, planned, brackets_append, id]
    decide
  refine ⟨_, plan_eq_ok valid options, ModulePlan.source_eq_join _,
    ModulePlan.nestedBelow_source plain braced, ModulePlan.header_eq_join _,
    ModulePlan.nestedBelow_header plain (brackets_wrapperName formed options) guard, _,
    ModulePlan.contents_eq_inside _, fun earlier t later place => ?_⟩
  exact ModulePlan.indentedIn_inside plain braced place

theorem files_nested_page :
    page.isValid ∧ Options.standard.namespaceName.brackets = [] ∧
      ∃ p, page.plan .standard = .ok p ∧ p.NestedBelow p.sourceLines p.contents ∧
        p.NestedBelow p.headerLines p.headerContents := by
  have plain : Options.standard.namespaceName.brackets = [] := rfl
  obtain ⟨p, planned, -, source, -, header, -⟩ := files_nested isValid_page plain
  exact ⟨isValid_page, plain, p, planned, source, header⟩

end Module

end ScriptBinding
