import ScriptBinding.Proofs.Unit.Bodies
import ScriptBinding.Proofs.Unit.CallbackNames

/-!
The tables of a source file, read back from the routines that install them. A table is read with its
rows and with the names that are declared where the rows stand. Rows come from the merged tables of
a unit and callbacks from the plans of its members; both list the same names.
-/
namespace ScriptBinding

inductive Row where
  | function (r : FunctionRow)
  | property (r : PropertyRow)
  | constructor (name : Text)
deriving DecidableEq

namespace Row

/-- The callbacks that a row names. -/
def callbacks : Row → List Text
  | function r => [r.callback]
  | property r => r.callbacks
  | constructor _ => []

/-- A row of a table of this type, by what stands behind its name. -/
def ofFields? (type name : Text) (fields : List Text) : Option Row :=
  if type = "FunctionConfig" then
    match fields with
    | [callback, length] => length.toNat?.map fun n => function ⟨name, callback, n⟩
    | _ => none
  else match fields with
    | [getter, setter] =>
      some (property ⟨name, getter, if setter = "nullptr" then none else some setter⟩)
    | [_, _, value] => if value = "constructor" then some (constructor name) else none
    | _ => none

def read? (type t : Text) : Option Row := do
  let (name, rest) ← Text.literal? (← Text.after? "    \x7b\"" t)
  ofFields? type name (Text.pieces (← Text.before? "\x7d," (← Text.after? ", " rest)))

end Row

namespace Text

/-- The name that a line declares: the last word before what it is given, or before its
parameters. -/
def declaredName (t : Text) : Text :=
  let stops : List CodePoint := ['(', '=', '\x7b', ';']
  let declarator : Text := t.takeWhile fun p => !stops.contains p
  ((declarator.reverse.dropWhile fun p => !p.continuesName).takeWhile
    CodePoint.continuesName).reverse

/-- The name of a routine and its parameters, from the line that begins it. -/
def routine? (t : Text) : Option (Text × List Text) := do
  let (declarator, parameters) ← cut? '(' (← before? ") \x7b" (← after? "void " t))
  let (_, rest) ← cut? ':' declarator
  some (← after? ":" rest, pieces parameters)

/-- The type of the table that a line opens. -/
def tableType? (t : Text) : Option Text :=
  (after? "  std::initializer_list<MemberInstaller::" t).map fun rest => rest.word.1

end Text

structure Table where
  routine : Text
  /-- The names that are declared where the rows stand; the table's own is one of them. -/
  scope : List Text
  rows : List Row
deriving DecidableEq

/-- The names that lines declare, if they declare one. -/
def Table.scopeOf (declarations : List Text) : List Text :=
  (declarations.map Text.declaredName).filter (!·.isEmpty)

namespace Block

def holdsTable (b : Block) : Bool :=
  b.opening.routine?.isSome && b.inside.any (·.tableType?.isSome)

/-- The table in a routine, if all its rows can be read. -/
def table? (b : Block) : Option Table := do
  let (routine, parameters) ← b.opening.routine?
  let ahead := b.inside.takeWhile (·.tableType?.isNone)
  match b.inside.dropWhile (·.tableType?.isNone) with
  | [] => none
  | head :: below =>
    let rows ← (below.takeWhile (· ≠ Text.ofString "  \x7d;")).mapM (Row.read? (← head.tableType?))
    some ⟨routine, Table.scopeOf (parameters ++ ahead ++ [head]), rows⟩

end Block

/-- The tables of a file, in order. -/
def ModulePlan.tables? (p : ModulePlan) : Option (List Table) :=
  (p.blocks.filter Block.holdsTable).mapM Block.table?

namespace Row

/-- A line of code is read as a row of a table. -/
def ReadsFrom (type : Text) (r : Row) (c : Code) : Prop :=
  ∃ t, c.linesAt glueIndent 2 = [t] ∧ read? type t = some r

/-- What stands behind the name of a row is read piece by piece. -/
theorem readsFrom_line {type name fields : Text} {r : Row}
    (read : ofFields? type name (Text.pieces fields) = some r) :
    r.ReadsFrom type (.line ("\x7b\"" ++ (name.quoted ++ ("\", " ++ (fields ++ "\x7d,"))))) := by
  refine ⟨_, rfl, ?_⟩
  show (Text.literal? (name.quoted ++ .scalar '"' ::
    (Text.ofString ", " ++ (fields ++ Text.ofString "\x7d,")))).bind _ = _
  rw [Text.literal?_quoted_append]
  simp only [Option.bind_eq_bind, Option.bind_some, Text.after?_append, Text.before?_append, read]

theorem readsFrom_functionRow {r : FunctionRow} (plain : .scalar ',' ∉ r.callback)
    (natural : 0 ≤ r.length) : (function r).ReadsFrom "FunctionConfig" r.code := by
  obtain ⟨n, length⟩ := Int.eq_ofNat_of_zero_le natural
  have digits : .scalar ',' ∉ Text.decimal n := fun mem =>
    absurd (Text.isDigit_of_mem_decimal _ mem) (by decide)
  have written : Text.signedDecimal r.length = Text.decimal n := by rw [length]; rfl
  have row : r = ⟨r.name, r.callback, n⟩ := by rw [← length]
  have read : ofFields? "FunctionConfig" r.name
      (Text.pieces (r.callback ++ (", " ++ Text.decimal n))) = some (function r) := by
    rw [Text.pieces_append_comma plain, Text.pieces_of_plain digits, row]
    simp [ofFields?, Text.toNat?_decimal]
  have line := readsFrom_line read
  simp only [List.append_assoc] at line
  simpa only [FunctionRow.code, FunctionRow.written, List.append_assoc, written] using line

theorem readsFrom_propertyRow {r : PropertyRow} (plain : ∀ name ∈ r.callbacks, .scalar ',' ∉ name)
    (named : r.setter? ≠ some (Text.ofString "nullptr")) :
    (property r).ReadsFrom "AttributeConfig" r.code := by
  have getter := plain r.getter List.mem_cons_self
  have setter : .scalar ',' ∉ r.setter?.getD "nullptr" := by
    cases set : r.setter? with
    | none => decide
    | some name => exact plain name (by simp [PropertyRow.callbacks, set])
  have back : (if r.setter?.getD "nullptr" = Text.ofString "nullptr" then none
      else some (r.setter?.getD "nullptr")) = r.setter? := by
    cases set : r.setter? with
    | none => rfl
    | some name => exact if_neg fun same => named (set.trans (congrArg some same))
  have read : ofFields? "AttributeConfig" r.name
      (Text.pieces (r.getter ++ (", " ++ r.setter?.getD "nullptr"))) = some (property r) := by
    rw [Text.pieces_append_comma getter, Text.pieces_of_plain setter, ofFields?, if_neg (by decide)]
    simp only [back]
  have line := readsFrom_line read
  simp only [List.append_assoc] at line
  simpa only [PropertyRow.code, PropertyRow.written, List.append_assoc] using line

theorem readsFrom_constructor (name : Text) :
    (constructor name).ReadsFrom "AttributeConfig" (.line (constructorRow name)) := by
  have read : ofFields? "AttributeConfig" name (Text.pieces "nullptr, nullptr, constructor") =
      some (constructor name) := rfl
  have line := readsFrom_line read
  rw [constructorRow, List.append_assoc]
  exact line

end Row

theorem Row.mapM_read? {type : Text} {rows : List Row} {codes : List Code}
    (reads : List.Forall₂ (ReadsFrom type) rows codes) :
    (Code.allLinesAt glueIndent 2 codes).mapM (read? type) = some rows := by
  induction reads with
  | nil => rfl
  | cons first _ ih =>
      obtain ⟨t, line, read⟩ := first
      simp [Code.allLinesAt, line, List.mapM_cons, read, ih]

/-- No row is read from the line that closes a table. -/
theorem Row.ne_closing {type : Text} {rows : List Row} {codes : List Code}
    (reads : List.Forall₂ (ReadsFrom type) rows codes) :
    ∀ t ∈ Code.allLinesAt glueIndent 2 codes, t ≠ Text.ofString "  \x7d;" := by
  induction reads with
  | nil => simp [Code.allLinesAt]
  | cons first _ ih =>
      obtain ⟨t, line, read⟩ := first
      simp only [Code.allLinesAt, line, List.singleton_append, List.forall_mem_cons]
      refine ⟨?_, ih⟩
      rintro rfl
      exact absurd read (by simp [read?, Text.after?, Text.ofString])

theorem Text.routine?_append {wrapper routine : Text} (word : wrapper.isWord)
    (named : routine.isWord) :
    routine? (routineOpening wrapper routine) =
      some (routine, [Text.ofString "ExecutingContext* context"]) := by
  have colon : (.scalar ':' : CodePoint) ∉ wrapper := not_mem_of_isWord word (by decide)
  have declarator : (.scalar '(' : CodePoint) ∉ wrapper ++ (Text.ofString "::" ++ routine) := by
    simp only [List.mem_append, not_or]
    exact ⟨not_mem_of_isWord word (by decide), by decide, not_mem_of_isWord named (by decide)⟩
  have split : routineOpening wrapper routine =
      Text.ofString "void " ++ (((wrapper ++ (Text.ofString "::" ++ routine)) ++
        (.scalar '(' :: Text.ofString "ExecutingContext* context")) ++ Text.ofString ") \x7b") := by
    simp only [routineOpening, List.append_assoc]
    rfl
  rw [split, routine?]
  simp only [after?_append, before?_append, cut?_append declarator, Option.bind_eq_bind,
    Option.bind_some]
  show (cut? ':' (wrapper ++ .scalar ':' :: (Text.ofString ":" ++ routine))).bind _ = _
  rw [cut?_append colon]
  simp only [Option.bind_some, after?_append]
  rfl

/-- Code that is read as a table. -/
def Code.Installs (t : Table) (c : Code) : Prop :=
  ∃ b, c.block? = some b ∧ b.holdsTable ∧ b.table? = some t

theorem installs_installRoutine {wrapper routine type name : Text} (word : wrapper.isWord)
    (named : routine.isWord) (listed : type.isWord) {lookup codes : List Code}
    (ahead : ∀ t ∈ Code.allLinesAt glueIndent 1 lookup, t.tableType? = none) {scope : List Text}
    (declared : Table.scopeOf ("ExecutingContext* context" ::
      (Code.allLinesAt glueIndent 1 lookup ++
        ["  std::initializer_list<MemberInstaller::" ++ type ++ "> " ++ name ++ " \x7b"])) = scope)
    {rows : List Row} (reads : List.Forall₂ (Row.ReadsFrom type) rows codes) (call : Text) :
    (installRoutine wrapper routine
      (installTable lookup (tableCode type name codes) call)).Installs ⟨routine, scope, rows⟩ := by
  let lines := Code.allLinesAt glueIndent 1 lookup
  let head : Text := "  std::initializer_list<MemberInstaller::" ++ type ++ "> " ++ name ++ " \x7b"
  let closing : Text := "  \x7d;"
  let rest := Code.allLinesAt glueIndent 1 [.blank, .line ("MemberInstaller::" ++ call ++ ";")]
  have inside : Code.allLinesAt glueIndent 1
      (installTable lookup (tableCode type name codes) call) =
        lines ++ head :: (Code.allLinesAt glueIndent 2 codes ++ closing :: rest) := by
    simp only [installTable, Code.allLinesAt_append, tableCode, Code.allLinesAt, Code.linesAt,
      List.append_assoc (α := Text), List.cons_append, List.nil_append]
    rfl
  have opens : head.tableType? = some type := by
    have split : head = Text.ofString "  std::initializer_list<MemberInstaller::" ++
        (type ++ (Text.ofString "> " ++ (name ++ Text.ofString " \x7b"))) := by
      simp only [head, List.append_assoc]
    rw [split, Text.tableType?, Text.after?_append, Option.map_some, Text.word_append listed rfl]
  have skipped : ∀ t ∈ lines, t.tableType?.isNone = true := fun t mem => by simp [ahead t mem]
  have table := Text.routine?_append word named
  refine ⟨_, rfl, ?_, ?_⟩
  · simp only [Block.holdsTable, table, inside, Option.isSome_some, Bool.true_and,
      List.any_append, List.any_cons, opens, Bool.true_or, Bool.or_true]
  · have rowLines : (Code.allLinesAt glueIndent 2 codes ++ closing :: rest).takeWhile
        (· ≠ Text.ofString "  \x7d;") = Code.allLinesAt glueIndent 2 codes := by
      rw [List.takeWhile_append_of_pos (by simpa using Row.ne_closing reads)]
      simp [closing]
    have before : (lines ++ head :: (Code.allLinesAt glueIndent 2 codes ++ closing :: rest)).takeWhile
        (·.tableType?.isNone) = lines := by
      rw [List.takeWhile_append_of_pos skipped]
      simp [opens]
    have behind : (lines ++ head :: (Code.allLinesAt glueIndent 2 codes ++ closing :: rest)).dropWhile
        (·.tableType?.isNone) = head :: (Code.allLinesAt glueIndent 2 codes ++ closing :: rest) := by
      rw [List.dropWhile_append_of_pos skipped]
      simp [opens]
    simp only [Block.table?, table, inside, before, behind, opens, rowLines,
      Row.mapM_read? reads, Option.bind_eq_bind, Option.bind_some, List.cons_append, ← declared]
    rfl

theorem mapM_table?_of_installs {tables : List Table} {codes : List Code}
    (h : List.Forall₂ Code.Installs tables codes) :
    ((codes.filterMap Code.block?).filter Block.holdsTable).mapM Block.table? = some tables := by
  induction h with
  | nil => rfl
  | cons first _ ih =>
      obtain ⟨b, read, holds, table⟩ := first
      simp [read, holds, List.mapM_cons, table, ih]

/-- No callback and no constructor begins as a routine does. -/
theorem ModulePlan.holdsTable_memberCode {p : ModulePlan} {member : MemberPlan} {c : Code}
    (written : c ∈ p.memberCode member) {b : Block} (read : c.block? = some b) :
    b.holdsTable = false := by
  have unnamed : b.opening.routine? = none := by
    cases member with
    | function plan =>
        obtain rfl := List.mem_singleton.mp written
        obtain rfl := Option.some.inj read
        rfl
    | cls d =>
        rcases p.mem_memberCode_cls.mp written with
          rfl | ⟨a, -, rfl⟩ | ⟨a, -, s, -, rfl⟩ | ⟨f, -, rfl⟩
        all_goals
          obtain rfl := Option.some.inj read
          rfl
  simp [Block.holdsTable, unnamed]

theorem ModulePlan.filter_holdsTable_members (p : ModulePlan) :
    ((p.members.flatMap p.memberCode).filterMap Code.block?).filter Block.holdsTable = [] := by
  rw [List.filter_eq_nil_iff]
  intro b mem
  obtain ⟨c, listed, read⟩ := List.mem_filterMap.mp mem
  obtain ⟨member, -, written⟩ := List.mem_flatMap.mp listed
  simp [holdsTable_memberCode written read]

/-- The routine that calls the others installs nothing itself. -/
theorem ModulePlan.holdsTable_installCode {p : ModulePlan} {b : Block}
    (read : p.installCode.block? = some b) : b.holdsTable = false := by
  obtain rfl := Option.some.inj read
  have calls : ∀ name ∈ p.installRoutines,
      (indentedLine glueIndent 1 (name ++ "(context);")).tableType? = none := by
    rw [installRoutines]
    cases p.registrations.hasClass <;> decide
  have lines (names : List Text) : Code.allLinesAt glueIndent 1
      (names.map fun name => .line (name ++ "(context);")) =
        names.map fun name => indentedLine glueIndent 1 (name ++ "(context);") := by
    induction names with
    | nil => rfl
    | cons name rest ih => simp [Code.allLinesAt, Code.linesAt, ih]
  simpa [Block.holdsTable, lines, List.any_eq_false] using fun _ => calls

/-- The row that registers a function, under its own name. -/
def FunctionDecl.tableRow (f : FunctionDecl) : Row := .function ⟨f.name, f.name, f.arguments.length⟩

/-- The row that registers the accessors of a property. -/
def PropertyDecl.tableRow (q : PropertyDecl) : Row :=
  .property ⟨q.name, q.name ++ "AttributeGetCallback",
    if q.readOnly then none else some (q.name ++ "AttributeSetCallback")⟩

theorem FunctionDecl.callbacks_tableRow (f : FunctionDecl) : f.tableRow.callbacks = [f.name] := rfl

theorem PropertyDecl.callbacks_tableRow (q : PropertyDecl) :
    q.tableRow.callbacks = q.callbacks := by
  rw [tableRow, Row.callbacks, PropertyRow.callbacks, callbacks]
  cases q.readOnly <;> rfl

namespace Module

/-- The tables that the declarations of a unit ask for: a row for each, in order. -/
def declaredTables (m : Module) : List Table :=
  ⟨"InstallGlobalFunctions", ["context", "functionConfig"],
      m.functions.map FunctionDecl.tableRow⟩ ::
    if m.hasClass then
      [⟨"InstallConstructor", ["context", "wrapper_type_info", "constructor", "attributeConfig"],
          [.constructor m.backing]⟩,
        ⟨"InstallPrototypeMethods", ["context", "wrapper_type_info", "prototype", "functionConfig"],
          m.methods.map FunctionDecl.tableRow⟩,
        ⟨"InstallPrototypeProperties",
          ["context", "wrapper_type_info", "prototype", "attributesConfig"],
          m.properties.map PropertyDecl.tableRow⟩]
    else []

section
variable {m : Module} (h : m.WellFormed)
include h

theorem readsFrom_functionRows {functions : List FunctionDecl} (declared : functions ⊆ m.declared) :
    List.Forall₂ (Row.ReadsFrom "FunctionConfig") (functions.map FunctionDecl.tableRow)
      ((functions.map FunctionDecl.row).map FunctionRow.code) := by
  rw [List.map_map, List.forall₂_map_left_iff, List.forall₂_map_right_iff, List.forall₂_same]
  intro f mem
  apply Row.readsFrom_functionRow
  · exact Text.not_mem_of_isIdentifier (h.declared_wellFormed (declared mem)).name (by decide)
  · exact Int.natCast_nonneg _

theorem readsFrom_propertyRows :
    List.Forall₂ (Row.ReadsFrom "AttributeConfig") (m.properties.map PropertyDecl.tableRow)
      ((m.properties.map fun q => q.accessor.row).map PropertyRow.code) := by
  rw [List.map_map, List.forall₂_map_left_iff, List.forall₂_map_right_iff, List.forall₂_same]
  intro q mem
  have comma : (.scalar ',' : CodePoint) ∉ q.name :=
    Text.not_mem_of_isIdentifier (h.property_wellFormed mem).name (by decide)
  have ending (s : Text) (plain : .scalar ',' ∉ s) : .scalar ',' ∉ q.name ++ s := by
    rw [List.mem_append, not_or]
    exact ⟨comma, plain⟩
  have long : q.name ++ ("AttributeSetCallback" : Text) ≠ Text.ofString "nullptr" := fun same =>
    absurd (congrArg List.length same) (by simp [Text.ofString])
  show Row.ReadsFrom _ _ q.accessor.row.code
  rw [q.row_accessor]
  apply Row.readsFrom_propertyRow
  · cases q.readOnly <;>
      simp [PropertyRow.callbacks, ending _ (by decide : _ ∉ ("AttributeGetCallback" : Text)),
        ending _ (by decide : _ ∉ ("AttributeSetCallback" : Text))]
  · cases q.readOnly
    · exact fun same => long (Option.some.inj same)
    · exact (Option.some_ne_none _).symm

omit h in
theorem installers_planned (options : Options) :
    (m.planned options).installers = (m.planned options).installCode ::
      (m.planned options).globalFunctionsCode ::
        if m.hasClass then
          [(m.planned options).constructorTableCode m.backing,
            (m.planned options).prototypeMethodsCode, (m.planned options).prototypePropertiesCode]
        else [] := by
  have registered : (m.planned options).registrations.constructor? =
      if m.hasClass then some m.backing else none := rfl
  rw [ModulePlan.installers, registered]
  cases m.hasClass <;> rfl

/-- The tables of a planned unit are read as its declarations ask for. -/
theorem tables?_planned (options : Options) :
    (m.planned options).tables? = some m.declaredTables := by
  let p := m.planned options
  have word : p.wrapperName.isWord :=
    Text.isWord_append (by decide) (Text.isWord_of_isIdentifier h.backing)
  have functions : p.globalFunctionsCode.Installs _ :=
    installs_installRoutine word (by decide) (by decide) (by decide)
      (show _ = [("context" : Text), "functionConfig"] by decide)
      (readsFrom_functionRows h (List.subset_append_left _ _)) _
  have constructor : (p.constructorTableCode m.backing).Installs _ :=
    installs_installRoutine word (by decide) (by decide) (by decide)
      (show _ = [("context" : Text), "wrapper_type_info", "constructor", "attributeConfig"] by decide)
      (.cons (Row.readsFrom_constructor m.backing) .nil) _
  have methods : p.prototypeMethodsCode.Installs _ :=
    installs_installRoutine word (by decide) (by decide) (by decide)
      (show _ = [("context" : Text), "wrapper_type_info", "prototype", "functionConfig"] by decide)
      (readsFrom_functionRows h (List.subset_append_right _ _)) _
  have properties : p.prototypePropertiesCode.Installs _ :=
    installs_installRoutine word (by decide) (by decide) (by decide)
      (show _ = [("context" : Text), "wrapper_type_info", "prototype", "attributesConfig"] by decide)
      (readsFrom_propertyRows h) _
  obtain ⟨install, read⟩ : ∃ b, p.installCode.block? = some b := ⟨_, rfl⟩
  rw [ModulePlan.tables?, ModulePlan.blocks_eq, ModulePlan.definitions, List.filterMap_append,
    List.filter_append, ModulePlan.filter_holdsTable_members, List.nil_append, installers_planned,
    List.filterMap_cons_some read,
    List.filter_cons_of_neg (by simp [ModulePlan.holdsTable_installCode read])]
  apply mapM_table?_of_installs
  rw [declaredTables]
  refine .cons functions ?_
  cases m.hasClass
  · exact .nil
  · exact .cons constructor (.cons methods (.cons properties .nil))

omit h in
theorem callbacks_declaredTables (m : Module) :
    (m.declaredTables.flatMap fun t => t.rows.flatMap Row.callbacks) = m.callbacks := by
  have functions (fs : List FunctionDecl) :
      (fs.map FunctionDecl.tableRow).flatMap Row.callbacks = fs.map (·.name) := by
    simp only [List.flatMap_map, FunctionDecl.callbacks_tableRow]
    exact List.map_eq_flatMap.symm
  have properties (qs : List PropertyDecl) :
      (qs.map PropertyDecl.tableRow).flatMap Row.callbacks =
        qs.flatMap PropertyDecl.callbacks := by
    simp only [List.flatMap_map, PropertyDecl.callbacks_tableRow]
  rw [declaredTables, callbacks, declared]
  cases some : m.hasClass with
  | false =>
      have none : m.classes = [] := by simpa [hasClass] using some
      simp [functions, methods, Module.properties, none]
  | true => simp [functions, properties, Row.callbacks]

end

end Module

end ScriptBinding
