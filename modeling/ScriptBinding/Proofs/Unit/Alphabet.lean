import ScriptBinding.Proofs.Callback.Alphabet
import ScriptBinding.Proofs.Unit.Guards
import ScriptBinding.Proofs.Unit.Nesting

/-!
What the two files of a unit are made of. Inside its namespace the source file holds nothing but
fixed texts and names of the unit; the header holds the name of the namespace besides. What is
neither can only come into a file by the lines above the namespace.
-/
namespace ScriptBinding

open Text (over_append over_of_all over_signedDecimal over_quoted)

section
variable {P : CodePoint → Prop} (glue : ∀ p : CodePoint, p.isGlue → P p)
include glue

theorem over_callback {name : Text} (made : name.Over P) {body : List Code}
    (inside : ∀ c ∈ body, c.Over P) : (callback name body).Over P := by
  refine .block ?_ inside (over_of_all glue (by decide))
  simp (disch := decide) only [callbackOpening, over_append, over_of_all glue, made, and_self]

theorem FunctionDecl.over_row {f : FunctionDecl} (named : f.name.isIdentifier)
    (made : f.name.Over P) : f.row.code.Over P := by
  refine .line ?_
  simp (disch := decide) only [row, FunctionRow.written, over_append, over_of_all glue,
    over_quoted glue named, made, over_signedDecimal glue, and_self]

namespace PropertyDecl

variable {q : PropertyDecl} (names : ∀ name ∈ q.names, name.Over P)
include names

theorem over_row (named : q.name.isIdentifier) : q.accessor.row.code.Over P := by
  have made := (forall_mem_names_iff.mp names).1
  have setter : (q.accessor.row.setter?.getD "nullptr").Over P := by
    rw [row_accessor]
    cases q.readOnly with
    | true => exact over_of_all glue rfl
    | false => exact over_append.mpr ⟨made, over_of_all glue (by decide)⟩
  refine .line ?_
  simp only [PropertyRow.written, over_append, setter]
  simp (disch := decide) only [row_accessor, over_append, over_of_all glue, over_quoted glue named,
    made, and_self]

variable {className : Text} (backing : className.Over P)
include backing

theorem over_getterCode : (q.accessor.getterCode className).Over P := by
  obtain ⟨made, interface⟩ := forall_mem_names_iff.mp names
  have operator := ValueType.over_operator glue interface
  refine over_callback glue ?_ ?_
  · exact over_append.mpr ⟨made, over_of_all glue (by decide)⟩
  · rw [List.forall_mem_map, List.forall_mem_append, List.forall_mem_singleton]
    refine ⟨fun t mem => .line (over_receiverLines glue backing t mem), .line ?_⟩
    simp (disch := decide) only [accessor, Accessor.readLine, over_append, over_of_all glue, made,
      operator, and_self]

theorem over_setterCode (named : q.name.isIdentifier) :
    (q.accessor.setterCode className q.setter).Over P := by
  obtain ⟨made, interface⟩ := forall_mem_names_iff.mp names
  have operator := ValueType.over_operator glue interface
  have native := Text.over_capitalized glue named made
  refine over_callback glue ?_ ?_
  · exact over_append.mpr ⟨made, over_of_all glue (by decide)⟩
  · rw [List.forall_mem_append, List.forall_mem_map]
    simp only [List.forall_mem_cons, List.not_mem_nil, false_imp_iff, implies_true, and_true]
    refine ⟨fun t mem => .line (over_receiverLines glue backing t mem),
      .line (over_of_all glue (by decide)), .line (over_of_all glue (by decide)), .line ?_,
      Statement.over_exceptionCheck glue, .line ?_, .line (over_of_all glue (by decide))⟩
    · simp (disch := decide) only [accessor, Accessor.convertLine, over_append, over_of_all glue,
        operator, and_self]
    · simp (disch := decide) only [setter, Setter.writeLine, over_append, over_of_all glue, native,
        and_self]

end PropertyDecl

theorem over_installRoutine {wrapper name : Text} (made : wrapper.Over P) (fixed : name.Over P)
    {body : List Code} (inside : ∀ c ∈ body, c.Over P) :
    (installRoutine wrapper name body).Over P := by
  refine .block ?_ inside (over_of_all glue (by decide))
  simp (disch := decide) only [routineOpening, over_append, over_of_all glue, made, fixed, and_self]

/-- A routine that installs a table. -/
theorem over_installTable {wrapper name type table call : Text} {lookup rows : List Code}
    (made : wrapper.Over P) (fixed : ∀ t ∈ [name, type, table, call], t.all CodePoint.isGlue)
    (found : ∀ c ∈ lookup, c.Over P) (listed : ∀ c ∈ rows, c.Over P) :
    (installRoutine wrapper name
      (installTable lookup (tableCode type table rows) call)).Over P := by
  simp only [List.forall_mem_cons, List.not_mem_nil, false_imp_iff, implies_true, and_true] at fixed
  have filled : (tableCode type table rows).Over P := by
    refine .block ?_ listed (over_of_all glue (by decide))
    simp (disch := decide) only [tableOpening, over_append, over_of_all glue,
      over_of_all glue fixed.2.1, over_of_all glue fixed.2.2.1, and_self]
  have last : (installerCall call).Over P := by
    simp (disch := decide) only [installerCall, over_append, over_of_all glue,
      over_of_all glue fixed.2.2.2, and_self]
  refine over_installRoutine glue made (over_of_all glue fixed.1) ?_
  simp only [installTable, List.forall_mem_append, List.forall_mem_cons, List.not_mem_nil,
    false_imp_iff, implies_true, and_true]
  exact ⟨found, filled, .line (List.forall_mem_nil P), .line last⟩

theorem over_lookups : (∀ c ∈ prototypeLookup, c.Over P) ∧ ∀ c ∈ constructorLookup, c.Over P := by
  have fixed {t : Text} (h : t.all CodePoint.isGlue) : (Code.line t).Over P :=
    .line (over_of_all glue h)
  simp only [prototypeLookup, constructorLookup, typeInfoLookup, List.forall_mem_cons,
    List.not_mem_nil, false_imp_iff, implies_true, and_true]
  exact ⟨⟨fixed (by decide), fixed (by decide), fixed rfl⟩,
    fixed (by decide), fixed (by decide), fixed rfl⟩

namespace Module

variable {m : Module}

omit glue in
theorem mem_names_of_mem_declared {f : FunctionDecl} (mem : f ∈ m.declared) {name : Text}
    (listed : name ∈ f.names) : name ∈ m.names := by
  have inside {member : Member} (declared : member ∈ m.members) (listed : name ∈ member.names) :
      name ∈ m.names :=
    List.mem_cons_of_mem _ (List.mem_cons_of_mem _
      (List.mem_flatMap.mpr ⟨member, declared, listed⟩))
  rcases List.mem_append.mp mem with mem | mem
  · exact inside (mem_functions_iff.mp mem) listed
  · obtain ⟨c, declared, mem⟩ := List.mem_flatMap.mp mem
    exact inside (mem_classes_iff.mp declared)
      (List.mem_append_right _ (List.mem_flatMap.mpr ⟨f, mem, listed⟩))

variable (h : m.WellFormed) (names : ∀ name ∈ m.names, name.Over P) (options : Options)
include names

theorem over_wrapperName : (m.planned options).wrapperName.Over P :=
  over_append.mpr ⟨over_of_all glue (by decide), (forall_mem_names_iff.mp names).2.1⟩

theorem over_installCode : (m.planned options).installCode.Over P := by
  have routines : ∀ name ∈ (m.planned options).installRoutines,
      (name ++ "(context);").all CodePoint.isGlue := by
    rw [ModulePlan.installRoutines]
    cases (m.planned options).registrations.hasClass <;> decide
  refine over_installRoutine glue (over_wrapperName glue names options)
    (over_of_all glue (by decide)) ?_
  rw [List.forall_mem_map]
  exact fun name mem => .line (over_of_all glue (routines name mem))

include h

theorem over_memberCode {member : Member} (mem : member ∈ m.members) :
    ∀ c ∈ (m.planned options).memberCode (member.plan m.backing options.strictArity),
      c.Over P := by
  obtain ⟨-, backing, members⟩ := forall_mem_names_iff.mp names
  have body {f : FunctionDecl} (formed : f.WellFormed) (names : ∀ name ∈ f.names, name.Over P)
      (mode : CallMode) :=
    (FunctionDecl.over_callPlan glue formed.name names backing mode
      options.strictArity).over_bodyCode glue backing
  have function {f : FunctionDecl} (formed : f.WellFormed) (names : ∀ name ∈ f.names, name.Over P)
      (mode : CallMode) :
      ((f.callPlan mode m.backing options.strictArity).callbackCode m.backing).Over P :=
    over_callback glue (FunctionDecl.forall_mem_names_iff.mp names).1 (body formed names mode)
  cases member with
  | function f =>
      rw [Member.plan, ModulePlan.memberCode, List.forall_mem_singleton]
      exact function (h.functions f (mem_functions_iff.mpr mem)) (members _ mem) .function
  | cls d =>
      have formed := h.classes d (mem_classes_iff.mpr mem)
      obtain ⟨constructor, properties, methods⟩ :=
        ClassDecl.forall_mem_names_iff.mp (members _ mem)
      intro c listed
      rcases ((m.planned options).mem_memberCode_cls).mp listed with
        rfl | ⟨a, declared, rfl⟩ | ⟨a, declared, s, some, rfl⟩ | ⟨f, declared, rfl⟩
      · refine .block ?_ (body formed.constructor constructor .constructor)
          (over_of_all glue (by decide))
        simp (disch := decide) only [ModulePlan.constructorOpening, over_append, over_of_all glue,
          over_wrapperName glue names options, and_self]
      · obtain ⟨q, property, rfl⟩ := List.mem_map.mp declared
        exact PropertyDecl.over_getterCode glue (properties q property) backing
      · obtain ⟨q, property, rfl⟩ := List.mem_map.mp declared
        obtain ⟨-, rfl⟩ : q.readOnly = false ∧ q.setter = s := by
          simpa [PropertyDecl.accessor] using some
        exact PropertyDecl.over_setterCode glue (properties q property) backing
          (formed.properties q property).name
      · obtain ⟨g, method, rfl⟩ := List.mem_map.mp declared
        exact function (formed.methods g method) (methods g method) .method

theorem over_functionTables :
    (m.planned options).globalFunctionsCode.Over P ∧
      (m.planned options).prototypeMethodsCode.Over P := by
  have wrapper := over_wrapperName glue names options
  have rows {fs : List FunctionDecl} (declared : ∀ f ∈ fs, f ∈ m.declared) :
      ∀ c ∈ (fs.map FunctionDecl.row).map FunctionRow.code, c.Over P := by
    simp only [List.forall_mem_map]
    intro f mem
    refine FunctionDecl.over_row glue (h.declared_wellFormed (declared f mem)).name ?_
    exact names f.name (mem_names_of_mem_declared (declared f mem) List.mem_cons_self)
  constructor
  · exact over_installTable glue wrapper (by decide) (List.forall_mem_nil _)
      (rows fun _ => List.mem_append_left _)
  · exact over_installTable glue wrapper (by decide) (over_lookups glue).1
      (rows fun _ => List.mem_append_right _)

theorem over_attributeTables :
    ((m.planned options).constructorTableCode m.backing).Over P ∧
      (m.planned options).prototypePropertiesCode.Over P := by
  have wrapper := over_wrapperName glue names options
  constructor
  · refine over_installTable glue wrapper (by decide) (over_lookups glue).2 ?_
    rw [List.forall_mem_singleton]
    refine .line ?_
    simp (disch := decide) only [constructorRow, over_append, over_of_all glue,
      over_quoted glue h.backing, and_self]
  · refine over_installTable glue wrapper (by decide) (over_lookups glue).1 ?_
    show ∀ c ∈ (m.properties.map fun q => q.accessor.row).map PropertyRow.code, c.Over P
    simp only [List.forall_mem_map]
    intro q mem
    refine PropertyDecl.over_row glue (fun name listed => ?_) (h.property_wellFormed mem).name
    obtain ⟨c, declared, mem⟩ := List.mem_flatMap.mp mem
    obtain ⟨-, properties, -⟩ := ClassDecl.forall_mem_names_iff.mp
      ((forall_mem_names_iff.mp names).2.2 _ (mem_classes_iff.mp declared))
    exact properties q mem name listed

theorem over_installers : ∀ c ∈ (m.planned options).installers, c.Over P := by
  obtain ⟨globalFunctions, prototypeMethods⟩ := over_functionTables glue h names options
  obtain ⟨constructor, prototypeProperties⟩ := over_attributeTables glue h names options
  rw [installers_planned, List.forall_mem_cons, List.forall_mem_cons]
  refine ⟨over_installCode glue names options, globalFunctions, ?_⟩
  cases m.hasClass with
  | false => exact List.forall_mem_nil _
  | true =>
      simp only [if_true, List.forall_mem_cons, List.not_mem_nil, false_imp_iff, implies_true,
        and_true]
      exact ⟨constructor, prototypeMethods, prototypeProperties⟩

theorem over_typeInfoCode : ∀ c ∈ (m.planned options).typeInfoCode, c.Over P := by
  have wrapper := over_wrapperName glue names options
  have backing : (m.planned options).className.Over P := (forall_mem_names_iff.mp names).2.1
  have capitals : (m.planned options).className.screamingSnake.Over P :=
    Text.over_screamingSnake glue h.backing backing
  have quoted : (m.planned options).className.quoted.Over P := over_quoted glue h.backing
  rw [ModulePlan.typeInfoCode, List.forall_mem_cons, List.forall_mem_singleton]
  constructor
  · refine .line ?_
    simp (disch := decide) only [ModulePlan.typeInfoLine, over_append, over_of_all glue, wrapper,
      capitals, quoted, and_self]
  · refine .line ?_
    simp (disch := decide) only [ModulePlan.typeReferenceLine, over_append, over_of_all glue,
      wrapper, backing, and_self]

/-- Inside the namespace, the source file holds fixed texts and names of the unit. -/
theorem over_insideLines : ∀ t ∈ (m.planned options).insideLines, t.Over P := by
  have blank : Code.blank.Over P := .line (List.forall_mem_nil P)
  have definitions : ∀ c ∈ (m.planned options).definitions, c.Over P := by
    rw [ModulePlan.definitions, List.forall_mem_append, List.forall_mem_flatMap]
    refine ⟨?_, over_installers glue h names options⟩
    show ∀ plan ∈ m.members.map (Member.plan m.backing options.strictArity), _
    rw [List.forall_mem_map]
    exact fun member mem => over_memberCode glue h names options mem
  refine Code.over_allLinesAt (glue _ (by decide)) ?_ 0
  rw [ModulePlan.insideCode, List.forall_mem_append, List.forall_mem_append,
    List.forall_mem_singleton, Code.spaced, List.forall_mem_flatMap]
  refine ⟨⟨blank, ?_⟩, fun c mem => ?_⟩
  · split
    · rw [List.forall_mem_append, List.forall_mem_singleton]
      exact ⟨over_typeInfoCode glue h names options, blank⟩
    · exact List.forall_mem_nil _
  · rw [List.forall_mem_cons, List.forall_mem_singleton]
    exact ⟨definitions c mem, blank⟩

end Module

end

namespace ModulePlan

variable (p : ModulePlan)

def includeLines : List Text :=
  p.includes.map fun header => ("#include \"" : Text) ++ header ++ "\""

/-- A source file is its banner, its includes and a namespace. -/
theorem sourceLines_eq_append :
    p.sourceLines = p.bannerLines ++ p.includeLines ++
      ([] :: p.namespaceLine :: (p.insideLines ++ [p.namespaceEnd])) := by
  have code : p.sourceCode = bannerCode p.options.banner ++ p.includes.map includeLine ++
      ([.blank, p.namespaceOpening] ++ (p.insideCode ++ [p.namespaceClosing])) := by
    simp [sourceCode, insideCode, definitions, Code.spaced, List.append_assoc]
  have includes : Code.allLinesAt glueIndent 0 (p.includes.map includeLine) = p.includeLines := by
    rw [includeLines]
    induction p.includes with
    | nil => rfl
    | cons header rest ih =>
        rw [List.map_cons, Code.allLinesAt, ih, includeLine, Code.linesAt, Code.indentedLine_zero]
        rfl
  rw [sourceLines, Emitter.toList_lines_hold, code]
  simp only [Code.allLinesAt_append, Code.allLinesAt, Code.linesAt, Code.indentedLine_zero,
    includes, Code.blank, namespaceOpening, namespaceClosing]
  simp [bannerLines, insideLines, namespaceLine, namespaceEnd]

theorem sourceLines_ne_nil : p.sourceLines ≠ [] := by
  rw [sourceLines_eq_append]
  exact List.append_ne_nil_of_right_ne_nil _ (List.cons_ne_nil _ _)

end ModulePlan

theorem over_bannerCode {P : CodePoint → Prop} {banner : Text}
    (made : ∀ t ∈ banner.lines, t.Over P) : ∀ c ∈ bannerCode banner, c.Over P := by
  rw [bannerCode]
  split
  · exact List.forall_mem_nil _
  · rw [List.forall_mem_append, List.forall_mem_map, List.forall_mem_singleton]
    exact ⟨fun t mem => .verbatim (made t mem), .line (List.forall_mem_nil P)⟩

namespace Module

theorem over_implementation_iff {P : CodePoint → Prop} (slash : P (.scalar '/')) {m : Module}
    (id : m.id.Over P) {options : Options} (root : options.includeRoot.Over P) :
    (m.planned options).implementation.Over P ↔ m.implementation.Over P := by
  rw [ModulePlan.implementation]
  by_cases none : m.implementation = []
  · have written : (options.includeRoot ++ "/" ++ m.id).Over P :=
      over_append.mpr ⟨over_append.mpr ⟨root, List.forall_mem_singleton.mpr slash⟩, id⟩
    have empty : Text.Over P [] := List.forall_mem_nil P
    simp only [planned, none, List.isEmpty_nil, if_true, written, empty]
  · simp only [planned, List.isEmpty_iff, none, if_false]

section
variable {P : CodePoint → Prop} (printable : ∀ p : CodePoint, p.isPrintable → P p)
  {m : Module} (h : m.WellFormed) (names : ∀ name ∈ m.names, name.Over P) {options : Options}
  (banner : ∀ t ∈ options.banner.lines, t.Over P) (plain : options.namespaceName.Over P)
include printable h names banner plain

/-- All that can come into a source file from elsewhere is the name of the implementation. -/
theorem over_sourceLines_iff (root : options.includeRoot.Over P)
    (extra : ∀ t ∈ options.extraIncludes, t.Over P) :
    (∀ t ∈ (m.planned options).sourceLines, t.Over P) ↔ m.implementation.Over P := by
  have glue (p : CodePoint) (made : p.isGlue) : P p :=
    printable p (CodePoint.isPrintable_of_isGlue made)
  have id := (forall_mem_names_iff.mp names).1
  have banner := Code.over_allLinesAt (glue _ rfl) (over_bannerCode banner) 0
  have inside := over_insideLines glue h names options
  have opening : (m.planned options).namespaceLine.Over P := by
    simp (disch := decide) only [ModulePlan.namespaceLine, planned, over_append,
      over_of_all printable, plain, and_self]
  have closing : (m.planned options).namespaceEnd.Over P := by
    simp (disch := decide) only [ModulePlan.namespaceEnd, planned, over_append,
      over_of_all printable, plain, and_self]
  have included (header : Text) :
      ("#include \"" ++ header ++ "\"" : Text).Over P ↔ header.Over P := by
    simp (disch := decide) only [over_append, over_of_all printable, true_and, and_true]
  have implementation :
      ((m.planned options).implementation ++ ".h").Over P ↔ m.implementation.Over P := by
    simp (disch := decide) only [over_append, over_of_all printable, and_true]
    exact over_implementation_iff (printable _ rfl) id root
  have others : (headerName m.id).Over P ∧ ∀ t ∈ runtimeIncludes, t.Over P := by
    refine ⟨?_, fun t mem => ?_⟩
    · simp (disch := decide) only [headerName, over_append, over_of_all printable, id, and_self]
    · have fixed : ∀ t ∈ runtimeIncludes, t.all CodePoint.isPrintable := by decide
      exact over_of_all printable (fixed t mem)
  rw [ModulePlan.sourceLines_eq_append, ModulePlan.includeLines, ModulePlan.includes]
  simp only [List.forall_mem_append, List.forall_mem_map, List.forall_mem_cons, included]
  constructor
  · rintro ⟨⟨-, ⟨-, made, -⟩, -⟩, -⟩
    exact implementation.mp made
  · intro made
    exact ⟨⟨banner, ⟨others, implementation.mpr made, List.forall_mem_nil _⟩, extra⟩,
      List.forall_mem_nil P, opening, inside, closing, List.forall_mem_nil _⟩

theorem over_headerLines : ∀ t ∈ (m.planned options).headerLines, t.Over P := by
  have glue (p : CodePoint) (made : p.isGlue) : P p :=
    printable p (CodePoint.isPrintable_of_isGlue made)
  have fixed {t : Text} (made : t.all CodePoint.isPrintable) : t.Over P :=
    over_of_all printable made
  have banner := Code.over_allLinesAt (glue _ rfl) (over_bannerCode banner) 0
  have guard {t : Text} (made : t.all CodePoint.isPrintable) :
      (t ++ (m.planned options).includeGuard).Over P := by
    have id := (forall_mem_names_iff.mp names).1
    simp (disch := decide) only [ModulePlan.includeGuard, planned, over_append, fixed made,
      over_of_all printable, Text.over_screamingSnake glue h.id id, and_self]
  have wrapper : (m.planned options).wrapperLine.Over P := by
    simp (disch := decide) only [ModulePlan.wrapperLine, over_append, over_of_all printable,
      over_wrapperName glue names options, and_self]
  have inside : ∀ t ∈ Code.allLinesAt glueIndent 0
      (ModulePlan.wrapperInside (m.planned options).registrations.hasClass), t.Over P := by
    have every : ∀ hasClass, ∀ t ∈ Code.allLinesAt glueIndent 0 (ModulePlan.wrapperInside hasClass),
        t.all CodePoint.isPrintable := by decide +kernel
    exact fun t mem => fixed (every _ t mem)
  have typeInfo : ∀ t ∈ ModulePlan.typeInfoInclude (m.planned options).registrations.hasClass,
      t.Over P := by
    have every : ∀ hasClass, ∀ t ∈ ModulePlan.typeInfoInclude hasClass,
        t.all CodePoint.isPrintable := by decide
    exact fun t mem => fixed (every _ t mem)
  have ahead : ∀ t ∈ ModulePlan.wrapperAhead, t.Over P := by
    have every : ∀ t ∈ ModulePlan.wrapperAhead, t.all CodePoint.isPrintable := by decide
    exact fun t mem => fixed (every t mem)
  have opening : (m.planned options).namespaceLine.Over P := by
    simp (disch := decide) only [ModulePlan.namespaceLine, planned, over_append,
      over_of_all printable, plain, and_self]
  have closing : ("\x7d  // namespace " ++ options.namespaceName : Text).Over P := by
    simp (disch := decide) only [over_append, over_of_all printable, plain, and_self]
  have blank : Text.Over P [] := List.forall_mem_nil P
  rw [ModulePlan.headerLines_guarded, Text.guarded, ModulePlan.declarations_eq]
  simp only [List.forall_mem_append, List.forall_mem_cons, List.not_mem_nil, false_imp_iff,
    implies_true, and_true]
  exact ⟨banner, guard (by decide), guard (by decide), ⟨blank, fixed (by decide), typeInfo, blank,
    opening, ahead, wrapper, inside, fixed (by decide), blank, closing, blank⟩, guard (by decide)⟩

end

/-- A unit without members whose implementation has a header of its own. -/
def housed (implementation : Text) : Module := ⟨"page", "Page", [], implementation⟩

theorem isValid_housed (implementation : Text) : (housed implementation).isValid := rfl

end Module

end ScriptBinding
