import ScriptBinding.Proofs.Unit.Bodies

/-!
The native members that the callbacks of a unit call. A function is found by its name, except for
the one name that stands for creation; which declarations bear it is not decided by the check, so
that a global function may create and a constructor may not.
-/
namespace ScriptBinding

/-- The native member behind a property that a line reads or writes. -/
def Text.accessed? (t : Text) : Option Text :=
  let text : Text := t.dropWhile (· = .scalar ' ')
  if let some rest := after? "self->" text then before? "(v);" rest
  else do
    let (_, rest) ← Callback.Line.templateArgument? (← after? "return Converter<" text)
    before? "());" (← after? "ToValue(ctx, self->" rest)

namespace Block

/-- There are native calls in a block, and all of them are of one member. -/
def Invokes (b : Block) (target : CallTarget) (callee : Text) : Prop :=
  ∃ calls, b.calls? = some calls ∧ calls ≠ [] ∧ ∀ c ∈ calls, c.target = target ∧ c.callee = callee

theorem Invokes.callee_eq {b : Block} {target target' : CallTarget} {callee callee' : Text}
    (h : b.Invokes target callee) (h' : b.Invokes target' callee') : callee = callee' := by
  obtain ⟨calls, read, some, each⟩ := h
  obtain ⟨calls', read', -, each'⟩ := h'
  obtain rfl : calls = calls' := Option.some.inj (read.symm.trans read')
  obtain ⟨c, mem⟩ := List.exists_mem_of_ne_nil calls some
  exact (each c mem).2.symm.trans (each' c mem).2

def accesses (b : Block) : List Text := b.inside.filterMap Text.accessed?

end Block

/-- The body of a callback calls nothing but the callee of its plan. -/
theorem FunctionDecl.invokes_of_body {f : FunctionDecl} {backing : Text} (h : f.WellFormed)
    (word : backing.isIdentifier) {mode : CallMode} {strictArity : Bool} {b : Block}
    (body : b.inside =
      Code.allLinesAt glueIndent 1 ((f.callPlan mode backing strictArity).bodyCode backing)) :
    b.Invokes (if mode = .method then .receiver else .backing backing) f.callee := by
  refine ⟨_, calls?_of_body h word body, by simp [callPlan], ?_⟩
  simp only [List.forall_mem_map]
  intro point _
  refine ⟨?_, rfl⟩
  cases mode <;> rfl

namespace Text

theorem accessed?_indentedLine (depth : Int) (text : Text) :
    accessed? (indentedLine glueIndent depth text) = accessed? text := by
  rw [accessed?, accessed?, dropWhile_indentedLine]

theorem accessed?_getterLine {operator : Text} (plain : .scalar ':' ∉ operator) (name : Text) :
    accessed? ("return Converter<" ++ operator ++ ">::ToValue(ctx, self->" ++ name ++ "());") =
      some name := by
  simp only [List.append_assoc]
  show (Callback.Line.templateArgument? (operator ++ (">::" ++ ("ToValue(ctx, self->" ++
    (name ++ "());"))))).bind _ = _
  rw [Callback.templateArgument?_append plain]
  simp only [Option.bind_some, Option.bind_eq_bind, after?_append, before?_append]

theorem accessed?_setterLine (name : Text) :
    accessed? ("self->" ++ name ++ "(v);") = some name := by
  rw [List.append_assoc]
  show before? "(v);" (name ++ "(v);") = _
  exact before?_append name _

end Text

namespace PropertyDecl

variable (q : PropertyDecl) (className : Text)

theorem accesses_receiverLines (opening : Text) (rest : List Code) :
    (Block.mk opening (Code.allLinesAt glueIndent 1
      ((receiverLines className).map .line ++ rest))).accesses =
        (Code.allLinesAt glueIndent 1 rest).filterMap Text.accessed? := by
  have receiver : Text.accessed? ("auto* self = toScriptWrappable<" ++ className ++
    ">(this_val);") = none := rfl
  have insists : Text.accessed? "assert(self != nullptr);" = none := rfl
  simp only [Block.accesses, receiverLines, List.map_cons, List.map_nil, Code.allLinesAt_append,
    Code.allLinesAt, Code.linesAt, List.filterMap_append, List.filterMap_cons, List.filterMap_nil,
    Text.accessed?_indentedLine, receiver, insists]
  rfl

/-- A getter reads the native member of the property's name, and no other. -/
theorem accesses_getterCode (h : q.WellFormed) {b : Block}
    (read : (q.accessor.getterCode className).block? = some b) :
    b.opening.callbackName? = some (q.name ++ "AttributeGetCallback") ∧ b.accesses = [q.name] := by
  obtain rfl := Option.some.inj read
  refine ⟨Text.callbackName?_eq_some_iff.mpr rfl, ?_⟩
  have value := Text.accessed?_getterLine (ValueType.colon_not_mem_operator h.type) q.name
  simp only [List.map_append, accesses_receiverLines, List.map_cons, List.map_nil,
    Code.allLinesAt, Code.linesAt, List.cons_append, List.nil_append, List.filterMap_cons,
    List.filterMap_nil, Text.accessed?_indentedLine]
  exact congrArg (fun read => (read.toList : List Text)) value

/-- A setter writes one native member, whose name begins with a small letter. -/
theorem accesses_setterCode {b : Block}
    (read : (q.accessor.setterCode className q.setter).block? = some b) :
    b.opening.callbackName? = some (q.name ++ "AttributeSetCallback") ∧
      b.accesses = ["set" ++ q.name.capitalized] := by
  obtain rfl := Option.some.inj read
  refine ⟨Text.callbackName?_eq_some_iff.mpr rfl, ?_⟩
  have converted (operator : Text) : Text.accessed? ("auto&& v = Converter<" ++ operator ++
    ">::FromValue(ctx, value, exception_state);") = none := rfl
  have written := Text.accessed?_setterLine q.setter.native
  simp only [accesses_receiverLines]
  simp only [Code.allLinesAt, Code.linesAt, Statement.exceptionCheck, List.cons_append,
    List.nil_append, List.filterMap_cons, List.filterMap_nil, Text.accessed?_indentedLine,
    Accessor.convertLine, Setter.writeLine, converted, written]
  rfl

theorem calls?_getterCode {b : Block} (read : (q.accessor.getterCode className).block? = some b) :
    b.calls? = some [] := by
  obtain rfl := Option.some.inj read
  let operand : Text := q.accessor.operator.written ++ (">::ToValue(ctx, self->" ++ (q.name ++ "())"))
  let value : Text := "return Converter<" ++ q.accessor.operator.written ++
    ">::ToValue(ctx, self->" ++ q.name ++ "());"
  have split : value = "return Converter<" ++ (operand ++ ";") := by
    simp only [value, operand, List.append_assoc]
    rfl
  have returns : Callback.line? value =
      some (.instruction (.giveBack ("Converter<" ++ operand))) := by
    rw [split]
    show (Text.before? ";" (("Converter<" ++ operand) ++ ";")).map _ = _
    rw [Text.before?_append]
    rfl
  have body : Callback.ReadsAs ((receiverLines className ++ [value]).map .declare)
      [.declare "self", .insist "self", .giveBack ("Converter<" ++ operand)] :=
    .cons (.line rfl (Callback.line?_receiver className)) (.cons (.line rfl rfl) (.line rfl returns))
  exact body.calls? _

/-- The line of a setter that looks at the number of arguments is of no form that a callback's
body has. -/
theorem calls?_setterCode (s : Setter) {b : Block}
    (read : (q.accessor.setterCode className s).block? = some b) : b.calls? = none := by
  obtain rfl := Option.some.inj read
  have unread : Callback.line? (indentedLine glueIndent 1
      "JSValue value = argc > 0 ? argv[0] : JS_UNDEFINED;") = none := rfl
  refine Block.calls?_eq_none ?_ unread
  simp [Code.allLinesAt_append, Code.allLinesAt, Code.linesAt]

end PropertyDecl

theorem ModulePlan.calls?_installers {p : ModulePlan} {c : Code} (mem : c ∈ p.installers)
    {b : Block} (read : c.block? = some b) : b.calls? = none := by
  rw [installers, List.mem_append, List.mem_cons, List.mem_singleton] at mem
  rcases mem with (rfl | rfl) | mem
  · obtain rfl := Option.some.inj read
    rfl
  · obtain rfl := Option.some.inj read
    rfl
  · cases constructor : p.registrations.constructor? with
    | none => simp [constructor] at mem
    | some name =>
        simp only [constructor, List.mem_cons, List.not_mem_nil, or_false] at mem
        rcases mem with rfl | rfl | rfl
        all_goals
          obtain rfl := Option.some.inj read
          rfl

namespace Module

/-- Every member of a planned unit calls the native member that it declares, and the constructor
creates an instance. -/
structure CallsDeclared (m : Module) (p : ModulePlan) : Prop where
  functions : p.functions.map (·.callee) = m.functions.map (·.name)
  methods : p.methods.map (·.callee) = m.methods.map (·.name)
  constructor : ∀ c, p.classPlan? = some c →
    c.constructor.mode = .constructor ∧ c.constructor.callee = "Create" ∧
      c.constructor.result = .owned m.backing
  functionCalls : ∀ f ∈ m.functions, ∃ b ∈ p.blocks,
    b.opening.callbackName? = some f.name ∧ b.Invokes (.backing m.backing) f.name
  methodCalls : ∀ f ∈ m.methods, ∃ b ∈ p.blocks,
    b.opening.callbackName? = some f.name ∧ b.Invokes .receiver f.name
  constructorCalls : m.hasClass → ∃ b ∈ p.blocks,
    b.opening = p.constructorOpening ∧ b.Invokes (.backing m.backing) "Create"
  getterCalls : ∀ q ∈ m.properties, ∃ b ∈ p.blocks,
    b.opening.callbackName? = some (q.name ++ "AttributeGetCallback") ∧ b.accesses = [q.name]
  setterCalls : ∀ q ∈ m.properties, q.readOnly = false → ∃ b ∈ p.blocks,
    b.opening.callbackName? = some (q.name ++ "AttributeSetCallback") ∧
      b.accesses = ["set" ++ q.name.capitalized]
  onlyCreates : ∀ b ∈ p.blocks, ∀ target, b.Invokes target "Create" →
    b.opening = p.constructorOpening ∨ b.opening.callbackName? = some (Text.ofString "Create")

/-- The name that stands for creation is that of the constructor, and of no function. -/
structure CreatesByConstructor (m : Module) : Prop where
  functions : ∀ f ∈ m.functions, f.name ≠ constructorName
  constructors : ∀ c ∈ m.classes,
    c.constructor.name = constructorName ∨ c.constructor.name = "Create"

section
variable {m : Module} (h : m.WellFormed) (options : Options)

theorem callee_of_ne {f : FunctionDecl} (plain : f.name ≠ constructorName) : f.callee = f.name := by
  simp [FunctionDecl.callee, FunctionDecl.isConstructor, plain]

include h

theorem method_callee {f : FunctionDecl} (mem : f ∈ m.methods) : f.callee = f.name := by
  obtain ⟨c, declared, method⟩ := List.mem_flatMap.mp mem
  exact callee_of_ne ((h.classes c declared).notConstructor f method)

theorem invokes_function {f : FunctionDecl} (mem : f ∈ m.functions) :
    ∃ b ∈ (m.planned options).blocks,
      b.opening.callbackName? = some f.name ∧ b.Invokes (.backing m.backing) f.callee := by
  obtain ⟨b, written, named, body⟩ := exists_block_of_function options mem
  exact ⟨b, written, named, FunctionDecl.invokes_of_body (h.functions f mem) h.backing body⟩

theorem invokes_method {f : FunctionDecl} (mem : f ∈ m.methods) :
    ∃ b ∈ (m.planned options).blocks,
      b.opening.callbackName? = some f.name ∧ b.Invokes .receiver f.callee := by
  obtain ⟨b, written, named, body⟩ := exists_block_of_method options mem
  have formed := h.declared_wellFormed (List.mem_append_right _ mem)
  exact ⟨b, written, named, FunctionDecl.invokes_of_body formed h.backing body⟩

theorem invokes_constructor {c : ClassDecl} (mem : c ∈ m.classes) :
    ∃ b ∈ (m.planned options).blocks, b.opening = (m.planned options).constructorOpening ∧
      b.Invokes (.backing m.backing) c.constructor.callee := by
  obtain ⟨b, written, opening, body⟩ := exists_block_of_constructor options mem
  exact ⟨b, written, opening,
    FunctionDecl.invokes_of_body (h.classes c mem).constructor h.backing body⟩

/-- A block that calls something is the constructor, or the callback of a function that calls its
callee. -/
theorem exists_of_invokes {b : Block} (mem : b ∈ (m.planned options).blocks) {target : CallTarget}
    {callee : Text} (invokes : b.Invokes target callee) :
    b.opening = (m.planned options).constructorOpening ∨
      ∃ f ∈ m.declared, b.opening.callbackName? = some f.name ∧ callee = f.callee := by
  have uncalled {n : Option (List NativeCall)} (read : b.calls? = n) (none : n.getD [] = []) :
      False := by
    obtain ⟨calls, found, some, -⟩ := invokes
    obtain rfl := found.symm.trans read
    exact some none
  rcases ModulePlan.mem_blocks_iff.mp mem with ⟨_, planned, c, written, read⟩ | ⟨c, written, read⟩
  · obtain ⟨member, listed, rfl⟩ := List.mem_map.mp planned
    cases member with
    | function f =>
        obtain rfl := List.mem_singleton.mp written
        obtain rfl := Option.some.inj read
        have declared := mem_functions_iff.mpr listed
        exact .inr ⟨f, List.mem_append_left _ declared, Text.callbackName?_eq_some_iff.mpr rfl,
          invokes.callee_eq (FunctionDecl.invokes_of_body (h.functions f declared) h.backing rfl)⟩
    | cls d =>
        have declared := mem_classes_iff.mpr listed
        rcases (m.planned options).mem_memberCode_cls.mp written with
          rfl | ⟨_, accessor, rfl⟩ | ⟨_, accessor, s, -, rfl⟩ | ⟨_, callback, rfl⟩
        · exact .inl (congrArg Block.opening (Option.some.inj read)).symm
        · obtain ⟨q, -, rfl⟩ := List.mem_map.mp accessor
          exact (uncalled (q.calls?_getterCode _ read) rfl).elim
        · obtain ⟨q, -, rfl⟩ := List.mem_map.mp accessor
          exact (uncalled (q.calls?_setterCode _ s read) rfl).elim
        · obtain ⟨f, method, rfl⟩ := List.mem_map.mp callback
          obtain rfl := Option.some.inj read
          exact .inr ⟨f, List.mem_append_right _ (List.mem_flatMap.mpr ⟨d, declared, method⟩),
            Text.callbackName?_eq_some_iff.mpr rfl,
            invokes.callee_eq (FunctionDecl.invokes_of_body
              ((h.classes d declared).methods f method) h.backing rfl)⟩
  · exact (uncalled (ModulePlan.calls?_installers written read) rfl).elim

theorem callsDeclared_planned_iff :
    m.CallsDeclared (m.planned options) ↔ m.CreatesByConstructor := by
  have functions : (m.planned options).functions.map (·.callee) = m.functions.map (·.callee) := by
    rw [functions_planned, List.map_map]
    rfl
  have methods : (m.planned options).methods.map (·.callee) = m.methods.map (·.callee) := by
    rw [h.methods_planned, List.map_map]
    rfl
  have created {f : FunctionDecl} : f.callee = "Create" ↔
      f.name = constructorName ∨ f.name = "Create" := by
    rw [FunctionDecl.callee, FunctionDecl.isConstructor]
    by_cases named : f.name = constructorName <;> simp [named]
  constructor
  · intro calls
    refine ⟨fun f mem named => ?_, fun c mem => ?_⟩
    · have same := List.map_inj_left.mp (functions.symm.trans calls.functions) f mem
      rw [created.mpr (.inl named), named] at same
      exact absurd same (by decide)
    · have single : m.classes.head? = some c := by
        rcases h.classes_eq with none | ⟨d, single, -⟩
        · simp [none] at mem
        · simpa [single, eq_comm] using mem
      have planned := m.classPlan?_planned options
      rw [single] at planned
      exact created.mp (calls.constructor _ planned).2.1
  · intro creates
    have callee {f : FunctionDecl} (mem : f ∈ m.declared) : f.callee = f.name := by
      rcases List.mem_append.mp mem with mem | mem
      · exact callee_of_ne (creates.functions f mem)
      · exact method_callee h mem
    constructor
    · rw [functions]
      exact List.map_congr_left fun f mem => callee (List.mem_append_left _ mem)
    · rw [methods]
      exact List.map_congr_left fun f mem => callee (List.mem_append_right _ mem)
    · intro c planned
      rw [classPlan?_planned] at planned
      obtain ⟨d, first, rfl⟩ := Option.map_eq_some_iff.mp planned
      have mem := List.mem_of_mem_head? first
      exact ⟨rfl, created.mpr (creates.constructors d mem), rfl⟩
    · intro f mem
      obtain ⟨b, written, named, invokes⟩ := invokes_function h options mem
      exact ⟨b, written, named, callee (List.mem_append_left _ mem) ▸ invokes⟩
    · intro f mem
      obtain ⟨b, written, named, invokes⟩ := invokes_method h options mem
      exact ⟨b, written, named, callee (List.mem_append_right _ mem) ▸ invokes⟩
    · intro some
      obtain ⟨c, mem⟩ : ∃ c, c ∈ m.classes := by
        apply List.exists_mem_of_ne_nil
        simpa [hasClass] using some
      obtain ⟨b, written, opening, invokes⟩ := invokes_constructor h options mem
      exact ⟨b, written, opening, created.mpr (creates.constructors c mem) ▸ invokes⟩
    · intro q mem
      obtain ⟨b, written, read⟩ := exists_block_of_getter options mem
      exact ⟨b, written, q.accesses_getterCode m.backing (h.property_wellFormed mem) read⟩
    · intro q mem writable
      obtain ⟨b, written, read⟩ := exists_block_of_setter options mem writable
      exact ⟨b, written, q.accesses_setterCode m.backing read⟩
    · intro b written target invokes
      obtain constructor | ⟨f, mem, named, same⟩ := exists_of_invokes h options written invokes
      · exact .inl constructor
      · rw [same, callee mem]
        exact .inr named

end

/-- Every member of an accepted unit calls the native member that it declares, and no other member
creates, exactly if the name that stands for creation is kept for the constructor. -/
theorem callsDeclared_iff {m : Module} (valid : m.isValid) (options : Options) :
    ∃ p, m.plan options = .ok p ∧ (m.CallsDeclared p ↔ m.CreatesByConstructor) :=
  ⟨_, plan_eq_ok valid options, callsDeclared_planned_iff (wellFormed_of_isValid valid) options⟩

theorem callsDeclared_page :
    page.isValid ∧ ∃ p, page.plan .standard = .ok p ∧ page.CallsDeclared p := by
  obtain ⟨p, planned, calls⟩ := callsDeclared_iff isValid_page .standard
  exact ⟨isValid_page, p, planned, calls.mpr ⟨by decide, by decide⟩⟩

/-- A function that creates, and a constructor that does not. -/
def creating : Module :=
  { id := "page"
    backing := "Page"
    members :=
      [.function ⟨"constructor", [], .primitive .void⟩,
        .cls ⟨⟨"make", [], .primitive .void⟩, [], []⟩]
    implementation := [] }

theorem not_callsDeclared_creating :
    creating.isValid ∧ ∃ p, creating.plan .standard = .ok p ∧
      p.functions.map (·.callee) = ["Create"] ∧
      (p.classPlan?.map (·.constructor.callee)) = some (Text.ofString "make") ∧
      ¬ creating.CallsDeclared p := by
  have valid : creating.isValid := by decide
  refine ⟨valid, _, plan_eq_ok valid .standard, by decide, by decide, fun calls => ?_⟩
  have creates := (callsDeclared_planned_iff (wellFormed_of_isValid valid) .standard).mp calls
  exact creates.functions ⟨"constructor", [], .primitive .void⟩ (by decide) rfl

end Module

end ScriptBinding
