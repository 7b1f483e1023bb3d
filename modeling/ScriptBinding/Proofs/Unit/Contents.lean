import ScriptBinding.Proofs.Layout.Blocks
import ScriptBinding.Proofs.Layout.Routines

/-!
The part of a source file below the line that opens its namespace, read back as blocks. There is one
block for each function that a member defines and one for each routine that installs a table, in the
order in which they are written; nothing else is a block.
-/
namespace ScriptBinding

namespace Text

/-- The name of the callback that a line begins. -/
def callbackName? (t : Text) : Option Text := do
  before? ("(" ++ callbackParameters ++ ") \x7b") (← after? "static JSValue " t)

theorem callbackName?_eq_some_iff {t name : Text} :
    callbackName? t = some name ↔
      t = "static JSValue " ++ name ++ "(" ++ callbackParameters ++ ") \x7b" := by
  simp only [callbackName?, Option.bind_eq_bind, Option.bind_eq_some_iff,
    after?_eq_some_iff, before?_eq_some_iff, List.append_assoc]
  constructor
  · rintro ⟨rest, rfl, rfl⟩
    rfl
  · rintro rfl
    exact ⟨_, rfl, rfl⟩

theorem opensBlock_of_callbackName? {t name : Text} (named : t.callbackName? = some name) :
    t.opensBlock := by
  rw [callbackName?_eq_some_iff] at named
  have split : t =
      ("static JSValue " ++ (name ++ "(" ++ callbackParameters ++ ")")) ++ " \x7b" := by
    simp only [named, List.append_assoc]
    rfl
  rw [split]
  exact opensBlock_append rfl rfl

end Text

/-- A function definition: a block whose opening line begins with the type of what it gives
back. -/
def Code.IsDefinition (c : Code) : Prop :=
  ∃ type rest body, c = .block (type ++ rest ++ " \x7b") body "\x7d" ∧
    type ∈ [("static JSValue " : Text), "JSValue ", "void "] ∧ allKeepDepth body

namespace Statement

mutual

theorem keepsDepth_code : (s : Statement) → s.code.keepsDepth
  | blank | declare _ | throwMessage _ | convert _ _ _ | returnOnException | call _ | leave
  | giveBack _ => rfl
  | branch _ body | once body => allKeepDepth_codeAll body

theorem allKeepDepth_codeAll : (body : List Statement) → Code.allKeepDepth (codeAll body)
  | [] => rfl
  | s :: rest => by
    rw [codeAll, Code.allKeepDepth, keepsDepth_code s, allKeepDepth_codeAll rest]
    rfl

end

end Statement

theorem isDefinition_callback (name : Text) {body : List Code} (kept : Code.allKeepDepth body) :
    (callback name body).IsDefinition := by
  refine ⟨"static JSValue ", name ++ "(" ++ callbackParameters ++ ")", body, ?_, by simp, kept⟩
  simp only [callback, callbackOpening, List.append_assoc]
  rfl

theorem isDefinition_installRoutine (wrapper name : Text) {body : List Code}
    (kept : Code.allKeepDepth body) : (installRoutine wrapper name body).IsDefinition := by
  refine ⟨"void ", wrapper ++ "::" ++ name ++ "(ExecutingContext* context)", body, ?_, by simp,
    kept⟩
  simp only [installRoutine, routineOpening, List.append_assoc]
  rfl

namespace Code.IsDefinition

variable {c : Code} (h : c.IsDefinition)
include h

theorem atMargin : c.AtMargin := by
  obtain ⟨type, rest, body, rfl, listed, kept⟩ := h
  refine ⟨Text.opensBlock_append ?_ ?_, kept, rfl, rfl⟩
  · simp only [List.mem_cons, List.not_mem_nil, or_false] at listed
    rcases listed with rfl | rfl | rfl <;> rfl
  · simp only [List.mem_cons, List.not_mem_nil, or_false] at listed
    rcases listed with rfl | rfl | rfl <;> rfl

/-- No definition begins as a namespace does. -/
theorem not_namespace {b : Block} (read : c.block? = some b) (name : Text) :
    b.opening ≠ "namespace " ++ name := by
  obtain ⟨type, rest, body, rfl, listed, -⟩ := h
  obtain rfl := Option.some.inj read
  simp only [List.mem_cons, List.not_mem_nil, or_false] at listed
  intro same
  have first := congrArg List.head? same
  rcases listed with rfl | rfl | rfl
  · exact absurd (show some (CodePoint.scalar 's') = some (.scalar 'n') from first) (by decide)
  · exact absurd (show some (CodePoint.scalar 'J') = some (.scalar 'n') from first) (by decide)
  · exact absurd (show some (CodePoint.scalar 'v') = some (.scalar 'n') from first) (by decide)

end Code.IsDefinition

namespace ModulePlan

variable (p : ModulePlan)

def sourceLines : List Text := ((Emitter.fresh glueIndent).hold p.sourceCode).lines.toList

theorem source_eq_join : p.source = Text.join "\n" p.sourceLines ++ "\n" := p.source_eq

/-- The lines of the source file below the one that opens the namespace. -/
def contents : List Text := Text.behindLast p.namespaceLine p.sourceLines

def definitions : List Code := p.members.flatMap p.memberCode ++ p.installers

def contentsCode : List Code :=
  [.blank] ++ (if p.classPlan?.isSome then p.typeInfoCode ++ [.blank] else []) ++
    Code.spaced p.definitions ++ [p.namespaceClosing]

/-- What is written for a class: its constructor, its accessors and its methods. -/
theorem mem_memberCode_cls {d : ClassPlan} {c : Code} :
    c ∈ p.memberCode (.cls d) ↔
      c = p.constructorCode d.constructor ∨
      (∃ a ∈ d.accessors, a.getterCode p.className = c) ∨
      (∃ a ∈ d.accessors, ∃ s, a.setter? = some s ∧ a.setterCode p.className s = c) ∨
      ∃ f ∈ d.methods, f.callbackCode p.className = c := by
  simp only [memberCode, List.mem_cons, List.mem_append, List.mem_map, List.mem_filterMap,
    Option.map_eq_some_iff, or_assoc]

theorem isDefinition_memberCode {member : MemberPlan} {c : Code} (mem : c ∈ p.memberCode member) :
    c.IsDefinition := by
  have body (plan : CallPlan) : Code.allKeepDepth (plan.bodyCode p.className) :=
    Statement.allKeepDepth_codeAll _
  cases member with
  | function plan =>
      rw [memberCode, List.mem_singleton] at mem
      exact mem ▸ isDefinition_callback plan.name (body plan)
  | cls plan =>
      rcases p.mem_memberCode_cls.mp mem with rfl | ⟨a, -, rfl⟩ | ⟨a, -, s, -, rfl⟩ | ⟨f, -, rfl⟩
      · refine ⟨"JSValue ", p.wrapperName ++ "::ConstructorCallback(" ++ constructorParameters ++
          ")", _, ?_, by simp, body plan.constructor⟩
        simp only [constructorCode, constructorOpening, List.append_assoc]
        rfl
      · exact isDefinition_callback a.getter rfl
      · exact isDefinition_callback s.callback rfl
      · exact isDefinition_callback f.name (body f)

theorem isDefinition_installers {c : Code} (mem : c ∈ p.installers) : c.IsDefinition := by
  have rows {α : Type} (items : List α) (text : α → Text) :
      Code.allKeepDepth (items.map fun a => .line (text a)) := by
    rw [Code.allKeepDepth_iff]
    simp [Code.keepsDepth]
  have table {lookup rows : List Code} (type name call : Text)
      (found : Code.allKeepDepth lookup) (kept : Code.allKeepDepth rows) :
      Code.allKeepDepth (installTable lookup (tableCode type name rows) call) := by
    rw [Code.allKeepDepth_iff] at found ⊢
    simpa [installTable, tableCode, Code.keepsDepth, Code.blank, or_imp, forall_and, kept] using
      found
  have routine (name : Text) {body : List Code} (kept : Code.allKeepDepth body) :=
    isDefinition_installRoutine p.wrapperName name kept
  rw [installers, List.mem_append, List.mem_cons, List.mem_singleton] at mem
  rcases mem with (rfl | rfl) | mem
  · exact routine "Install" (rows _ _)
  · exact routine "InstallGlobalFunctions" (table _ _ _ rfl (rows _ _))
  · cases constructor : p.registrations.constructor? with
    | none => simp [constructor] at mem
    | some name =>
        simp only [constructor, List.mem_cons, List.not_mem_nil, or_false] at mem
        rcases mem with rfl | rfl | rfl
        · exact routine "InstallConstructor" (table _ _ _ rfl rfl)
        · exact routine "InstallPrototypeMethods" (table _ _ _ rfl (rows _ _))
        · exact routine "InstallPrototypeProperties" (table _ _ _ rfl (rows _ _))

theorem isDefinition_definitions {c : Code} (mem : c ∈ p.definitions) : c.IsDefinition := by
  rcases List.mem_append.mp mem with member | installer
  · obtain ⟨plan, -, listed⟩ := List.mem_flatMap.mp member
    exact p.isDefinition_memberCode listed
  · exact p.isDefinition_installers installer

theorem atMargin_contentsCode : ∀ c ∈ p.contentsCode, c.AtMargin := by
  have ended (t ending : Text) (last : ending.getLast? = some (.scalar ';')) :
      (t ++ ending).opensBlock = false := by
    apply Text.opensBlock_eq_false
    rw [List.getLast?_append, last]
    show some (CodePoint.scalar ';') ≠ some (.scalar '\x7b')
    decide
  have typeInfo : ∀ c ∈ p.typeInfoCode, c.AtMargin := by
    simp only [typeInfoCode, List.mem_cons, List.not_mem_nil, or_false]
    rintro c (rfl | rfl)
    · exact ended _ "::ConstructorCallback\x7d;" rfl
    · exact ended _ "::wrapper_type_info_;" rfl
  simp only [contentsCode, List.mem_append, Code.spaced, List.mem_flatMap, List.mem_cons,
    List.not_mem_nil, or_false]
  rintro c (((rfl | mem) | ⟨definition, mem, rfl | rfl⟩) | rfl)
  · rfl
  · split at mem
    · rcases List.mem_append.mp mem with mem | mem
      · exact typeInfo c mem
      · exact List.mem_singleton.mp mem ▸ rfl
    · exact absurd mem (by simp)
  · exact (p.isDefinition_definitions mem).atMargin
  · rfl
  · rfl

/-- What is written below the opening of the namespace is read as the definitions in it. -/
theorem readAll_contentsCode :
    Block.readAll (Code.allLinesAt glueIndent 0 p.contentsCode) =
      p.definitions.filterMap Code.block? := by
  have spaced (pieces : List Code) :
      (Code.spaced pieces).filterMap Code.block? = pieces.filterMap Code.block? := by
    induction pieces with
    | nil => rfl
    | cons c rest ih =>
        have first : Code.spaced (c :: rest) = c :: .blank :: Code.spaced rest := rfl
        cases c.block? <;> simp only [first, List.filterMap_cons, ih, Code.blank, Code.block?]
  have typeInfo :
      (if p.classPlan?.isSome then p.typeInfoCode ++ [.blank] else []).filterMap Code.block? =
        [] := by
    split <;> rfl
  rw [Code.readAll_allLinesAt p.atMargin_contentsCode, contentsCode]
  simp only [List.filterMap_append, spaced, typeInfo, List.append_nil]
  exact List.append_nil _

theorem sourceLines_eq :
    ∃ ahead, p.sourceLines =
      ahead ++ p.namespaceLine :: Code.allLinesAt glueIndent 0 p.contentsCode := by
  let ahead : List Code := bannerCode p.options.banner ++ p.includes.map includeLine ++ [.blank]
  have code : p.sourceCode = ahead ++ p.namespaceOpening :: p.contentsCode := by
    simp [sourceCode, ahead, contentsCode, definitions, Code.spaced, List.append_assoc]
  refine ⟨Code.allLinesAt glueIndent 0 ahead, ?_⟩
  rw [sourceLines, Emitter.toList_lines_hold, code]
  simp only [Code.allLinesAt_append, Code.allLinesAt, namespaceOpening, Code.linesAt,
    Code.indentedLine_zero]
  simp

/-- The line that opens the namespace does not come again. -/
theorem contents_eq : p.contents = Code.allLinesAt glueIndent 0 p.contentsCode := by
  obtain ⟨ahead, lines⟩ := p.sourceLines_eq
  rw [contents, lines]
  apply Text.behindLast_append
  intro again
  have opens : p.namespaceLine.opensBlock := Text.opensBlock_append rfl rfl
  have opening : p.namespaceLine ∈ (Block.readAll
      (Code.allLinesAt glueIndent 0 p.contentsCode)).map (·.opening) := by
    rw [Block.map_opening_readAll, List.mem_filter]
    exact ⟨again, opens⟩
  rw [p.readAll_contentsCode] at opening
  obtain ⟨b, read, same⟩ := List.mem_map.mp opening
  obtain ⟨c, mem, written⟩ := List.mem_filterMap.mp read
  apply (p.isDefinition_definitions mem).not_namespace written (p.options.namespaceName ++ " \x7b")
  rw [same, namespaceLine, List.append_assoc]

/-- The blocks below the opening of the namespace. -/
def blocks : List Block := Block.readAll p.contents

theorem blocks_eq : p.blocks = p.definitions.filterMap Code.block? := by
  rw [blocks, contents_eq, readAll_contentsCode]

variable {p} in
/-- A block is what a member defines, or a routine that installs a table. -/
theorem mem_blocks_iff {b : Block} :
    b ∈ p.blocks ↔
      (∃ member ∈ p.members, ∃ c ∈ p.memberCode member, c.block? = some b) ∨
        ∃ c ∈ p.installers, c.block? = some b := by
  simp only [blocks_eq, definitions, List.filterMap_append, List.mem_append, List.mem_filterMap,
    List.mem_flatMap]
  refine or_congr ⟨?_, ?_⟩ Iff.rfl
  · exact fun ⟨c, ⟨member, mem, written⟩, read⟩ => ⟨member, mem, c, written, read⟩
  · exact fun ⟨member, mem, c, written, read⟩ => ⟨c, ⟨member, mem, written⟩, read⟩

/-- The names of the callbacks that begin with a line of their own. -/
def callbackNames : List Text := p.contents.filterMap Text.callbackName?

theorem callbackNames_eq :
    p.callbackNames = p.blocks.filterMap fun b => b.opening.callbackName? := by
  have only : ∀ t : Text, t.callbackName? = if t.opensBlock then t.callbackName? else none := by
    intro t
    cases named : t.callbackName? with
    | none => simp
    | some name => rw [t.opensBlock_of_callbackName? named, if_pos rfl]
  have openings : p.blocks.filterMap (fun b => b.opening.callbackName?) =
      (p.blocks.map (·.opening)).filterMap Text.callbackName? := by
    rw [List.filterMap_map]
    rfl
  rw [openings, blocks, Block.map_opening_readAll, List.filterMap_filter, callbackNames]
  congr 1
  exact funext only

end ModulePlan

end ScriptBinding
