import ScriptBinding.Proofs.Unit.Tables

/-!
What the names in the rows of a table refer to. A row stands inside a routine of the wrapper class,
so that the names declared in the routine and those of the class hide a callback of the same name.
Accessors are never hidden by a member; a function is, if it is named like one, and the check lets
such names pass.
-/
namespace ScriptBinding

namespace ModulePlan

def headerLines (p : ModulePlan) : List Text :=
  ((Emitter.fresh glueIndent).hold p.headerCode).lines.toList

theorem header_eq_join (p : ModulePlan) :
    p.header = Text.join "\n" p.headerLines ++ "\n" := p.header_eq

/-- The names of the static members that the header declares in the wrapper class. -/
def wrapperMembers (p : ModulePlan) : List Text :=
  ((Text.behindLast p.wrapperLine p.headerLines).filter (·.startsWith "  static ")).map
    Text.declaredName

/-- The names in the scope of the wrapper class: its own, and those of its members. -/
def wrapperScope (p : ModulePlan) : List Text := p.wrapperName.stem :: p.wrapperMembers

/-- What stands inside the wrapper class. -/
def wrapperInside (hasClass : Bool) : List Code :=
  let routines : List Text := "InstallGlobalFunctions" ::
    if hasClass then ["InstallConstructor", "InstallPrototypeMethods", "InstallPrototypeProperties"]
    else []
  [.line " public:",
    .deeper (routineDeclaration "Install" :: if hasClass then publicClassCode else []),
    .blank,
    .line " private:",
    .deeper (routines.map routineDeclaration)]

theorem wrapperCode_eq (p : ModulePlan) : p.wrapperCode =
    .line p.wrapperLine :: (wrapperInside p.registrations.hasClass ++ [.line "\x7d;"]) := rfl

/-- What stands between the opening of the namespace and the wrapper class. -/
def wrapperAhead : List Text := [[], "class ExecutingContext;", []]

/-- What stands behind the wrapper class, its closing line included. -/
def wrapperEnding (p : ModulePlan) : List Text :=
  ["\x7d;", [], p.namespaceEnd, [], "#endif  // " ++ p.includeGuard]

/-- What stands behind the opening of the wrapper class. -/
def wrapperBehind (p : ModulePlan) : List Text :=
  Code.allLinesAt glueIndent 0 (wrapperInside p.registrations.hasClass) ++ p.wrapperEnding

theorem headerLines_eq_namespace (p : ModulePlan) :
    ∃ ahead, p.headerLines =
      ahead ++ p.namespaceLine :: (wrapperAhead ++ p.wrapperLine :: p.wrapperBehind) := by
  let ahead : List Code := bannerCode p.options.banner ++
    [.line ("#ifndef " ++ p.includeGuard), .line ("#define " ++ p.includeGuard), .blank,
      .line "#include <quickjs/quickjs.h>"] ++
    (if p.registrations.hasClass then [includeLine "bindings/qjs/wrapper_type_info.h"] else []) ++
    [.blank]
  refine ⟨Code.allLinesAt glueIndent 0 ahead, ?_⟩
  have code : p.headerCode = ahead ++ p.namespaceOpening ::
      ([.blank, .line "class ExecutingContext;", .blank] ++ p.wrapperCode ++
        [.blank, p.namespaceClosing, .blank, .line ("#endif  // " ++ p.includeGuard)]) := by
    simp [headerCode, ahead, List.append_assoc]
  rw [headerLines, Emitter.toList_lines_hold, code, wrapperCode_eq]
  simp only [Code.allLinesAt_append, Code.allLinesAt, Code.linesAt, Code.indentedLine_zero,
    namespaceOpening, namespaceClosing, Code.blank]
  simp [wrapperAhead, wrapperBehind, wrapperEnding]

theorem headerLines_eq (p : ModulePlan) :
    ∃ ahead, p.headerLines = ahead ++ p.wrapperLine :: p.wrapperBehind := by
  obtain ⟨ahead, lines⟩ := p.headerLines_eq_namespace
  refine ⟨ahead ++ p.namespaceLine :: wrapperAhead, ?_⟩
  rw [lines, List.append_assoc, List.cons_append]

/-- How lines begin behind the opening of the wrapper class. -/
theorem head?_of_mem_wrapperBehind (p : ModulePlan) :
    ∀ t ∈ p.wrapperBehind, t.head? ∈ [none, some (.scalar ' '), some (.scalar '\x7d'),
      some (.scalar '#')] := by
  rw [wrapperBehind, List.forall_mem_append]
  constructor
  · cases p.registrations.hasClass <;> decide
  · simp [wrapperEnding, namespaceEnd, Text.ofString]

/-- The wrapper class is the last thing that the header opens. -/
theorem behindLast_headerLines (p : ModulePlan) :
    Text.behindLast p.wrapperLine p.headerLines = p.wrapperBehind := by
  have last : p.wrapperLine ∉ p.wrapperBehind := fun mem =>
    absurd (p.head?_of_mem_wrapperBehind _ mem) (by
      show some (CodePoint.scalar 'c') ∉ _
      decide)
  obtain ⟨ahead, lines⟩ := p.headerLines_eq
  rw [lines, Text.behindLast_append ahead last]

/-- A name in a row of a table refers to the callback of this name: there is one, and nothing nearer
is called so. -/
def RefersToCallback (p : ModulePlan) (t : Table) (name : Text) : Prop :=
  name ∈ p.callbackNames ∧ ∀ x, name.words = [x] → x ∉ t.scope ∧ x ∉ p.wrapperScope

end ModulePlan

namespace Module

/-- The members of the wrapper class of a unit. -/
def wrapperMembers (m : Module) : List Text :=
  if m.hasClass then
    ["Install", "GetWrapperTypeInfo", "ConstructorCallback", "wrapper_type_info_",
      "InstallGlobalFunctions", "InstallConstructor", "InstallPrototypeMethods",
      "InstallPrototypeProperties"]
  else ["Install", "InstallGlobalFunctions"]

def wrapperScope (m : Module) : List Text := ("QJS" ++ m.backing : Text).stem :: m.wrapperMembers

theorem hasClass_tables (m : Module) : m.tables.hasClass = m.hasClass := by
  rw [Registrations.hasClass, tables]
  cases m.hasClass <;> rfl

theorem wrapperMembers_planned (m : Module) (options : Options) :
    (m.planned options).wrapperMembers = m.wrapperMembers := by
  let p := m.planned options
  have registered : p.registrations.hasClass = m.hasClass := hasClass_tables m
  have ending : p.wrapperEnding.filter (·.startsWith "  static ") = [] := rfl
  show ((Text.behindLast p.wrapperLine p.headerLines).filter _).map _ = _
  rw [p.behindLast_headerLines, ModulePlan.wrapperBehind, registered, List.filter_append, ending,
    List.append_nil, wrapperMembers]
  cases m.hasClass <;> decide

/-- No callback is named like what is declared nearer to its row. -/
structure CallbacksVisible (m : Module) : Prop where
  functions : ∀ f ∈ m.functions,
    f.name.stem ∉ [("context" : Text), "functionConfig"] ∧ f.name.stem ∉ m.wrapperScope
  methods : ∀ f ∈ m.methods,
    f.name.stem ∉ [("context" : Text), "wrapper_type_info", "prototype", "functionConfig"] ∧
      f.name.stem ∉ m.wrapperScope
  accessors : ∀ q ∈ m.properties, ("QJS" ++ m.backing : Text).stem ∉ q.callbacks

/-- Nothing that the generated code itself declares around a row ends like an accessor. -/
theorem not_suffix_of_mem_scope {m : Module} {x ending : Text}
    (listed : ending ∈ PropertyDecl.callbackEndings)
    (mem : x ∈ [("context" : Text), "wrapper_type_info", "prototype", "attributesConfig"] ∨
      x ∈ m.wrapperMembers) : ¬ ending <:+ x := by
  have locals : ∀ x ∈ [("context" : Text), "wrapper_type_info", "prototype", "attributesConfig"],
      ∀ ending ∈ PropertyDecl.callbackEndings, ¬ ending <:+ x := by decide
  have members : ∀ x ∈ m.wrapperMembers, ∀ ending ∈ PropertyDecl.callbackEndings,
      ¬ ending <:+ x := by
    rw [wrapperMembers]
    cases m.hasClass <;> decide
  exact mem.elim (locals x · ending listed) (members x · ending listed)

section
variable {m : Module} (h : m.WellFormed)
include h

/-- An accessor is hidden only by the wrapper class itself. -/
theorem accessor_visible_iff {q : PropertyDecl} (property : q ∈ m.properties) {name : Text}
    (mem : name ∈ q.callbacks) :
    (∀ x, name.words = [x] →
      x ∉ [("context" : Text), "wrapper_type_info", "prototype", "attributesConfig"] ∧
        x ∉ m.wrapperScope) ↔ ("QJS" ++ m.backing : Text).stem ≠ name := by
  obtain ⟨ending, listed, rfl⟩ := PropertyDecl.exists_ending_of_mem_callbacks mem
  obtain ⟨some, plain, -⟩ := PropertyDecl.callbackEndings_spec listed
  have own : ("QJS" ++ m.backing : Text).stem ≠ [] := by
    have first : ∃ rest, ("QJS" ++ m.backing : Text).stem = .scalar 'Q' :: rest := ⟨_, rfl⟩
    obtain ⟨rest, first⟩ := first
    rw [first]
    exact List.cons_ne_nil _ _
  constructor
  · rintro visible same
    have words : (q.name ++ ending).words = [("QJS" ++ m.backing : Text).stem] := by
      rw [← same, Text.words_of_plain own (Text.feed_not_mem_stem _)]
    exact (visible _ words).2 List.mem_cons_self
  · rintro other x words
    have joined : x = q.name ++ ending := by
      rcases Text.words_append (h.property_wellFormed property).name some plain with
        ⟨first, joined⟩ | ⟨-, apart⟩
      · rw [joined, List.singleton_inj] at words
        rw [← words, ← first]
      · simp [apart] at words
    have ends : ending <:+ x := joined ▸ List.suffix_append _ _
    refine ⟨fun mem => not_suffix_of_mem_scope (m := m) listed (.inl mem) ends, fun mem => ?_⟩
    rcases List.mem_cons.mp mem with rfl | mem
    · exact other joined
    · exact not_suffix_of_mem_scope listed (.inr mem) ends

theorem declared_visible_iff {f : FunctionDecl} (mem : f ∈ m.declared) (scope : List Text) :
    (∀ x, f.name.words = [x] → x ∉ scope ∧ x ∉ m.wrapperScope) ↔
      f.name.stem ∉ scope ∧ f.name.stem ∉ m.wrapperScope := by
  rw [Text.words_of_isIdentifier (h.declared_wellFormed mem).name]
  simp

theorem functionRows_visible_iff {fs : List FunctionDecl} (declared : fs ⊆ m.declared)
    (scope : List Text) :
    (∀ r ∈ fs.map FunctionDecl.tableRow, ∀ name ∈ r.callbacks, ∀ x, name.words = [x] →
      x ∉ scope ∧ x ∉ m.wrapperScope) ↔
    ∀ f ∈ fs, f.name.stem ∉ scope ∧ f.name.stem ∉ m.wrapperScope := by
  simp only [List.forall_mem_map, FunctionDecl.callbacks_tableRow, List.forall_mem_singleton]
  exact forall₂_congr fun f mem => declared_visible_iff h (declared mem) scope

theorem propertyRows_visible_iff :
    (∀ r ∈ m.properties.map PropertyDecl.tableRow, ∀ name ∈ r.callbacks, ∀ x, name.words = [x] →
      x ∉ [("context" : Text), "wrapper_type_info", "prototype", "attributesConfig"] ∧
        x ∉ m.wrapperScope) ↔
    ∀ q ∈ m.properties, ("QJS" ++ m.backing : Text).stem ∉ q.callbacks := by
  simp only [List.forall_mem_map, PropertyDecl.callbacks_tableRow]
  refine forall₂_congr fun q property => ?_
  constructor
  · exact fun visible mem => (accessor_visible_iff h property mem).mp (visible _ mem) rfl
  · exact fun apart name mem => (accessor_visible_iff h property mem).mpr
      fun same => apart (same ▸ mem)

theorem rowsVisible_iff :
    (∀ t ∈ m.declaredTables, ∀ r ∈ t.rows, ∀ name ∈ r.callbacks, ∀ x, name.words = [x] →
      x ∉ t.scope ∧ x ∉ m.wrapperScope) ↔ m.CallbacksVisible := by
  have functions := functionRows_visible_iff h (List.subset_append_left m.functions m.methods)
    [("context" : Text), "functionConfig"]
  have methods := functionRows_visible_iff h (List.subset_append_right m.functions m.methods)
    [("context" : Text), "wrapper_type_info", "prototype", "functionConfig"]
  rw [declaredTables]
  cases some : m.hasClass with
  | false =>
      have none : m.classes = [] := by simpa [hasClass] using some
      have methodless : m.methods = [] := by simp [Module.methods, none]
      have propertyless : m.properties = [] := by simp [Module.properties, none]
      simp only [Bool.false_eq_true, if_false, List.forall_mem_singleton, functions]
      constructor
      · exact fun visible => ⟨visible, by simp [methodless], by simp [propertyless]⟩
      · exact fun visible => visible.functions
  | true =>
      simp only [if_true, List.forall_mem_cons, List.not_mem_nil, functions, methods,
        propertyRows_visible_iff h]
      simp only [Row.callbacks, List.not_mem_nil, false_implies, implies_true, true_and, and_true]
      constructor
      · rintro ⟨functions, methods, accessors⟩
        exact ⟨functions, methods, accessors⟩
      · exact fun visible => ⟨visible.functions, visible.methods, visible.accessors⟩

theorem rows_refer_planned_iff (options : Options) :
    (∀ t ∈ m.declaredTables, ∀ r ∈ t.rows, ∀ name ∈ r.callbacks,
      (m.planned options).RefersToCallback t name) ↔ m.CallbacksVisible := by
  have scope : (m.planned options).wrapperScope = m.wrapperScope := by
    rw [ModulePlan.wrapperScope, wrapperMembers_planned]
    rfl
  have defined : ∀ t ∈ m.declaredTables, ∀ r ∈ t.rows, ∀ name ∈ r.callbacks,
      name ∈ (m.planned options).callbackNames := by
    intro t table r row name mem
    rw [(m.callbackNames_planned options).mem_iff, ← callbacks_declaredTables]
    exact List.mem_flatMap.mpr ⟨t, table, List.mem_flatMap.mpr ⟨r, row, mem⟩⟩
  rw [← rowsVisible_iff h, ← scope]
  exact ⟨fun refers t table r row name mem => (refers t table r row name mem).2,
    fun visible t table r row name mem =>
      ⟨defined t table r row name mem, visible t table r row name mem⟩⟩

end

/-- Every name in a row of a table refers to the callback of this name, exactly if no function is
named like a variable of the routine that installs it or like a member of the wrapper class, and no
callback like this class. -/
theorem rows_refer_iff {m : Module} (valid : m.isValid) (options : Options) :
    ∃ p, m.plan options = .ok p ∧ p.tables? = some m.declaredTables ∧
      ((∀ t ∈ m.declaredTables, ∀ r ∈ t.rows, ∀ name ∈ r.callbacks, p.RefersToCallback t name) ↔
        m.CallbacksVisible) := by
  have formed := wellFormed_of_isValid valid
  exact ⟨_, plan_eq_ok valid options, tables?_planned formed options,
    rows_refer_planned_iff formed options⟩

theorem rows_refer_page :
    page.isValid ∧ ∃ p, page.plan .standard = .ok p ∧
      ∀ t ∈ page.declaredTables, ∀ r ∈ t.rows, ∀ name ∈ r.callbacks, p.RefersToCallback t name := by
  obtain ⟨p, planned, -, refers⟩ := rows_refer_iff isValid_page .standard
  exact ⟨isValid_page, p, planned, refers.mpr ⟨by decide, by decide, by decide⟩⟩

/-- A function named like the parameter of the routine that installs it, and a method named like a
member of the wrapper class. -/
def hidden : Module :=
  { id := "page"
    backing := "Page"
    members :=
      [.function ⟨"context", [], .primitive .void⟩,
        .cls ⟨⟨"constructor", [], .primitive .void⟩, [], [⟨"Install", [], .primitive .void⟩]⟩]
    implementation := [] }

theorem not_rows_refer_hidden :
    hidden.isValid ∧ ∃ p rest, hidden.plan .standard = .ok p ∧
      p.tables? = some (⟨"InstallGlobalFunctions", ["context", "functionConfig"],
        [.function ⟨"context", "context", 0⟩]⟩ :: rest) ∧
      ¬ ∀ t ∈ hidden.declaredTables, ∀ r ∈ t.rows, ∀ name ∈ r.callbacks,
        p.RefersToCallback t name := by
  have valid : hidden.isValid := by decide
  have formed := wellFormed_of_isValid valid
  refine ⟨valid, _, _, plan_eq_ok valid .standard, tables?_planned formed .standard,
    fun refers => ?_⟩
  have visible := (rows_refer_planned_iff formed .standard).mp refers
  exact absurd (visible.functions ⟨"context", [], .primitive .void⟩ (by decide)).1 (by decide)

end Module

end ScriptBinding
