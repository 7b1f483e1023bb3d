import ScriptBinding.Interface.Check
import ScriptBinding.Proofs.Text.Name

/-!
Well-formed declarations, said without the check: which names can be spelled, which differ from
each other, where `void` may not stand and that required arguments come first. A unit has no
breach exactly if it is well formed, whatever the order and the number of its members.
-/
namespace ScriptBinding

namespace ValueType

/-- The type below all sequences. -/
def innermost : ValueType → ValueType
  | sequence element => element.innermost
  | type => type

/-- The interface that a type names can be spelled. -/
def Spellable (t : ValueType) : Prop :=
  ∀ name, t.innermost = interface name ∨ t.innermost = owned name → name.isIdentifier

theorem containsVoid_iff (t : ValueType) :
    t.containsVoid ↔ t.innermost = .primitive .void := by
  induction t with
  | primitive p => simp [containsVoid, innermost]
  | interface _ | promise | owned _ => simp [containsVoid, innermost]
  | sequence element ih => exact ih

theorem interfaceName?_eq_some_iff (t : ValueType) (name : Text) :
    t.interfaceName? = some name ↔ t.innermost = interface name ∨ t.innermost = owned name := by
  induction t with
  | primitive _ | promise => simp [interfaceName?, innermost]
  | interface _ | owned _ => simp [interfaceName?, innermost]
  | sequence element ih => exact ih

end ValueType

/-- A function that can be called as it is declared. -/
structure FunctionDecl.WellFormed (f : FunctionDecl) : Prop where
  name : f.name.isIdentifier
  argumentNames : ∀ a ∈ f.arguments, a.name.isIdentifier
  argumentsDistinct : (f.arguments.map (·.name)).Nodup
  argumentsNotVoid : ∀ a ∈ f.arguments, a.type.innermost ≠ .primitive .void
  argumentTypes : ∀ a ∈ f.arguments, a.type.Spellable
  result : f.result.Spellable
  requiredFirst : f.arguments.Pairwise fun a b => b.required → a.required

structure PropertyDecl.WellFormed (p : PropertyDecl) : Prop where
  name : p.name.isIdentifier
  notVoid : p.type.innermost ≠ .primitive .void
  type : p.type.Spellable

/-- A class in a unit whose global functions have these names. -/
structure ClassDecl.WellFormed (c : ClassDecl) (functions : List Text) : Prop where
  constructor : c.constructor.WellFormed
  properties : ∀ p ∈ c.properties, p.WellFormed
  propertiesDistinct : (c.properties.map (·.name)).Nodup
  methods : ∀ f ∈ c.methods, f.WellFormed
  methodsDistinct : (c.methods.map (·.name)).Nodup
  notConstructor : ∀ f ∈ c.methods, f.name ≠ constructorName
  apartFromFunctions : ∀ f ∈ c.methods, f.name ∉ functions
  apartFromProperties : ∀ f ∈ c.methods, f.name ∉ c.properties.map (·.name)

structure Module.WellFormed (m : Module) : Prop where
  id : m.id.isIdentifier
  backing : m.backing.isIdentifier
  oneClass : m.classes.length ≤ 1
  functions : ∀ f ∈ m.functions, f.WellFormed
  functionsDistinct : (m.functions.map (·.name)).Nodup
  apartFromClass : m.hasClass → m.backing ∉ m.functions.map (·.name)
  classes : ∀ c ∈ m.classes, c.WellFormed (m.functions.map (·.name))

namespace Check

@[simp] theorem require_eq_nil_iff (kept : Bool) (path : Path) (breach : Breach) :
    require kept path breach = [] ↔ kept := by
  cases kept <;> simp [require]

@[simp] theorem typeName_eq_nil_iff (path : Path) (t : ValueType) :
    typeName path t = [] ↔ t.Spellable := by
  simp only [ValueType.Spellable, ← ValueType.interfaceName?_eq_some_iff]
  cases h : t.interfaceName? <;> simp [typeName, h]

theorem not_containsVoid_iff (t : ValueType) :
    (!t.containsVoid) = true ↔ t.innermost ≠ .primitive .void := by
  rw [Bool.not_eq_true', ← Bool.not_eq_true, t.containsVoid_iff]

/-- No earlier item has a certain name. -/
theorem not_any_name_iff {α : Type} (nameOf : α → Text) (items : List α) (name : Text) :
    (!items.any fun a => nameOf a = name) = true ↔ ∀ a ∈ items, nameOf a ≠ name := by
  simp

theorem eachAfterFrom_eq_nil_iff {α : Type} {check : Nat → List α → α → List Violation}
    {Good : α → Prop} {Apart : α → α → Prop}
    (spec : ∀ i earlier a, check i earlier a = [] ↔ Good a ∧ ∀ b ∈ earlier, Apart b a)
    (items earlier : List α) (i : Nat) :
    eachAfterFrom check earlier i items = [] ↔
      (∀ a ∈ items, Good a) ∧ items.Pairwise Apart ∧
        ∀ a ∈ items, ∀ b ∈ earlier, Apart b a := by
  induction items generalizing earlier i with
  | nil => simp [eachAfterFrom]
  | cons first rest ih =>
      simp only [eachAfterFrom, List.append_eq_nil_iff, spec, ih, List.forall_mem_cons,
        List.pairwise_cons]
      constructor
      · rintro ⟨⟨good, apart⟩, goods, pairs, others⟩
        exact ⟨⟨good, goods⟩, ⟨fun a ha => (others a ha).1, pairs⟩,
          apart, fun a ha => (others a ha).2⟩
      · rintro ⟨⟨good, goods⟩, ⟨firsts, pairs⟩, apart, others⟩
        exact ⟨⟨good, apart⟩, goods, pairs, fun a ha => ⟨firsts a ha, others a ha⟩⟩

/-- Items that are each checked against those before them: every item is good by itself, and every
two are apart. -/
theorem eachAfter_eq_nil_iff {α : Type} {check : Nat → List α → α → List Violation}
    {Good : α → Prop} {Apart : α → α → Prop}
    (spec : ∀ i earlier a, check i earlier a = [] ↔ Good a ∧ ∀ b ∈ earlier, Apart b a)
    (items : List α) :
    eachAfter check items = [] ↔ (∀ a ∈ items, Good a) ∧ items.Pairwise Apart := by
  simp [eachAfter, eachAfterFrom_eq_nil_iff spec]

theorem eachAfter_alone_eq_nil_iff {α : Type} {check : Nat → α → List Violation}
    {Good : α → Prop} (spec : ∀ i a, check i a = [] ↔ Good a) (items : List α) :
    eachAfter (fun i _ => check i) items = [] ↔ ∀ a ∈ items, Good a := by
  have alone : ∀ i (earlier : List α) a,
      check i a = [] ↔ Good a ∧ ∀ b ∈ earlier, (fun _ _ => True : α → α → Prop) b a := by
    simp [spec]
  rw [eachAfter_eq_nil_iff alone]
  exact and_iff_left (List.pairwise_of_forall fun _ _ => trivial)

theorem firstOptional?_eq_none_iff (earlier : List Argument) :
    firstOptional? earlier = none ↔ ∀ b ∈ earlier, b.required ∨ b.name = [] := by
  simp only [firstOptional?, Option.map_eq_none_iff, List.find?_eq_none, List.mem_reverse]
  refine forall₂_congr fun b _ => ?_
  cases b.required <;> simp

theorem placement_eq_nil_iff (path : Path) (earlier : List Argument) (a : Argument) :
    placement path earlier a = [] ↔
      ∀ b ∈ earlier, a.required → b.required ∨ b.name = [] := by
  have first := firstOptional?_eq_none_iff earlier
  cases required : a.required with
  | false => simp [placement, required]
  | true => cases h : firstOptional? earlier <;> simp_all [placement]

theorem argument_eq_nil_iff (path : Path) (earlier : List Argument) (a : Argument) :
    argument path earlier a = [] ↔
      (a.name.isIdentifier ∧ a.type.innermost ≠ .primitive .void ∧ a.type.Spellable) ∧
        ∀ b ∈ earlier, b.name ≠ a.name ∧ (a.required → b.required ∨ b.name = []) := by
  simp only [argument, List.append_eq_nil_iff, require_eq_nil_iff, typeName_eq_nil_iff,
    placement_eq_nil_iff, not_containsVoid_iff, not_any_name_iff]
  constructor
  · rintro ⟨⟨⟨⟨name, distinct⟩, notVoid⟩, spelled⟩, placed⟩
    exact ⟨⟨name, notVoid, spelled⟩, fun b hb => ⟨distinct b hb, placed b hb⟩⟩
  · rintro ⟨⟨name, notVoid, spelled⟩, apart⟩
    exact ⟨⟨⟨⟨name, fun b hb => (apart b hb).1⟩, notVoid⟩, spelled⟩, fun b hb => (apart b hb).2⟩

/-- With names that can be spelled, the first optional argument is always remembered. -/
theorem requiredFirst_of_placed {arguments : List Argument}
    (names : ∀ a ∈ arguments, a.name.isIdentifier)
    (placed : arguments.Pairwise fun b a => a.required → b.required ∨ b.name = []) :
    arguments.Pairwise fun b a => a.required → b.required := by
  refine placed.imp_of_mem fun {b a} hb _ before required => ?_
  rcases before required with h | empty
  · exact h
  · exact absurd empty (Text.ne_nil_of_isIdentifier (names b hb))

theorem function_eq_nil_iff (path : Path) (f : FunctionDecl) :
    function path f = [] ↔ f.WellFormed := by
  simp only [function, List.append_eq_nil_iff, require_eq_nil_iff, typeName_eq_nil_iff,
    eachAfter_eq_nil_iff fun i => argument_eq_nil_iff (path.item "args" i), List.pairwise_and_iff]
  constructor
  · rintro ⟨⟨name, each, distinct, placed⟩, result⟩
    exact
      { name
        argumentNames := fun a ha => (each a ha).1
        argumentsDistinct := List.pairwise_map.mpr distinct
        argumentsNotVoid := fun a ha => (each a ha).2.1
        argumentTypes := fun a ha => (each a ha).2.2
        result
        requiredFirst := requiredFirst_of_placed (fun a ha => (each a ha).1) placed }
  · intro h
    refine ⟨⟨h.name, ?_, List.pairwise_map.mp h.argumentsDistinct, ?_⟩, h.result⟩
    · exact fun a ha => ⟨h.argumentNames a ha, h.argumentsNotVoid a ha, h.argumentTypes a ha⟩
    · exact h.requiredFirst.imp fun before required => .inl (before required)

theorem property_eq_nil_iff (path : Path) (earlier : List PropertyDecl) (p : PropertyDecl) :
    property path earlier p = [] ↔ p.WellFormed ∧ ∀ b ∈ earlier, b.name ≠ p.name := by
  simp only [property, List.append_eq_nil_iff, require_eq_nil_iff, typeName_eq_nil_iff,
    not_containsVoid_iff, not_any_name_iff]
  constructor
  · rintro ⟨⟨⟨name, distinct⟩, notVoid⟩, type⟩
    exact ⟨⟨name, notVoid, type⟩, distinct⟩
  · rintro ⟨⟨name, notVoid, type⟩, distinct⟩
    exact ⟨⟨⟨name, distinct⟩, notVoid⟩, type⟩

theorem method_eq_nil_iff (functions : List Text) (properties : List PropertyDecl) (path : Path)
    (earlier : List FunctionDecl) (f : FunctionDecl) :
    method functions properties path earlier f = [] ↔
      (f.WellFormed ∧ f.name ≠ constructorName ∧ f.name ∉ functions ∧
        f.name ∉ properties.map (·.name)) ∧ ∀ b ∈ earlier, b.name ≠ f.name := by
  have plain : (!f.isConstructor) = true ↔ f.name ≠ constructorName := by
    simp [FunctionDecl.isConstructor]
  have free : (!functions.contains f.name) = true ↔ f.name ∉ functions := by simp
  have other : (∀ b ∈ properties, b.name ≠ f.name) ↔ f.name ∉ properties.map (·.name) := by
    simp
  simp only [method, List.append_eq_nil_iff, require_eq_nil_iff, function_eq_nil_iff,
    not_any_name_iff, plain, free, other]
  constructor
  · rintro ⟨⟨⟨⟨formed, plain⟩, distinct⟩, free⟩, other⟩
    exact ⟨⟨formed, plain, free, other⟩, distinct⟩
  · rintro ⟨⟨formed, plain, free, other⟩, distinct⟩
    exact ⟨⟨⟨⟨formed, plain⟩, distinct⟩, free⟩, other⟩

theorem classDecl_eq_nil_iff (path : Path) (functions : List Text) (c : ClassDecl) :
    classDecl path functions c = [] ↔ c.WellFormed functions := by
  simp only [classDecl, List.append_eq_nil_iff, function_eq_nil_iff,
    eachAfter_eq_nil_iff fun i => property_eq_nil_iff (path.item "properties" i),
    eachAfter_eq_nil_iff fun i => method_eq_nil_iff functions c.properties (path.item "methods" i)]
  constructor
  · rintro ⟨⟨constructor, properties, propertiesDistinct⟩, methods, methodsDistinct⟩
    exact
      { constructor
        properties
        propertiesDistinct := List.pairwise_map.mpr propertiesDistinct
        methods := fun f hf => (methods f hf).1
        methodsDistinct := List.pairwise_map.mpr methodsDistinct
        notConstructor := fun f hf => (methods f hf).2.1
        apartFromFunctions := fun f hf => (methods f hf).2.2.1
        apartFromProperties := fun f hf => (methods f hf).2.2.2 }
  · intro h
    refine ⟨⟨h.constructor, h.properties, List.pairwise_map.mp h.propertiesDistinct⟩, ?_,
      List.pairwise_map.mp h.methodsDistinct⟩
    intro f hf
    exact ⟨h.methods f hf, h.notConstructor f hf, h.apartFromFunctions f hf,
      h.apartFromProperties f hf⟩

/-- Two members are not global functions of one name. -/
def DifferentlyNamed (b a : Member) : Prop :=
  ∀ g, b.function? = some g → ∀ f, a.function? = some f → g.name ≠ f.name

theorem isFunctionNamed_iff (name : Text) (member : Member) :
    isFunctionNamed name member ↔ ∃ f, member.function? = some f ∧ f.name = name := by
  cases member <;> simp [isFunctionNamed, Member.function?]

theorem globalFunction_eq_nil_iff (path : Path) (earlier : List Member) (member : Member) :
    globalFunction path earlier member = [] ↔
      (∀ f, member.function? = some f → f.WellFormed) ∧
        ∀ b ∈ earlier, DifferentlyNamed b member := by
  cases member with
  | cls decl => simp [globalFunction, Member.function?, DifferentlyNamed]
  | function decl =>
      have free : (!earlier.any (isFunctionNamed decl.name)) = true ↔
          ∀ b ∈ earlier, DifferentlyNamed b (.function decl) := by
        simp only [Bool.not_eq_true', List.any_eq_false, isFunctionNamed_iff, DifferentlyNamed,
          not_exists, not_and, Member.function?, Option.some.injEq, forall_eq']
      simp only [globalFunction, List.append_eq_nil_iff, require_eq_nil_iff, function_eq_nil_iff,
        free, Member.function?, Option.some.injEq, forall_eq']

theorem classMember_eq_nil_iff (path : Path) (functions : List Text) (member : Member) :
    classMember path functions member = [] ↔
      ∀ c, member.class? = some c → c.WellFormed functions := by
  cases member with
  | function decl => simp [classMember, Member.class?]
  | cls decl => simp [classMember, Member.class?, classDecl_eq_nil_iff]

end Check

namespace Module

theorem functions_nodup_iff (m : Module) :
    (m.functions.map (·.name)).Nodup ↔ m.members.Pairwise Check.DifferentlyNamed := by
  rw [List.Nodup, List.pairwise_map, functions, List.pairwise_filterMap]
  rfl

theorem forall_functions_iff (m : Module) (P : FunctionDecl → Prop) :
    (∀ f ∈ m.functions, P f) ↔ ∀ member ∈ m.members, ∀ f, member.function? = some f → P f := by
  simp only [functions, List.mem_filterMap]
  exact ⟨fun h member hm f hf => h f ⟨member, hm, hf⟩, fun h f ⟨member, hm, hf⟩ => h member hm f hf⟩

theorem forall_classes_iff (m : Module) (P : ClassDecl → Prop) :
    (∀ c ∈ m.classes, P c) ↔ ∀ member ∈ m.members, ∀ c, member.class? = some c → P c := by
  simp only [classes, List.mem_filterMap]
  exact ⟨fun h member hm c hc => h c ⟨member, hm, hc⟩, fun h c ⟨member, hm, hc⟩ => h member hm c hc⟩

theorem violations_eq_nil_iff (m : Module) : m.violations = [] ↔ m.WellFormed := by
  have functions := Check.eachAfter_eq_nil_iff
    (fun i => Check.globalFunction_eq_nil_iff (m.root.item "members" i)) m.members
  have classes := Check.eachAfter_alone_eq_nil_iff
    (fun i => Check.classMember_eq_nil_iff (m.root.item "members" i) (m.functions.map (·.name)))
    m.members
  rw [← forall_functions_iff, ← functions_nodup_iff] at functions
  rw [← forall_classes_iff] at classes
  have apart : (!(m.hasClass && (m.functions.map (·.name)).contains m.backing)) = true ↔
      (m.hasClass → m.backing ∉ m.functions.map (·.name)) := by
    cases m.hasClass <;> simp
  simp only [violations, List.append_eq_nil_iff, Check.require_eq_nil_iff, functions, classes,
    apart, decide_eq_true_eq]
  constructor
  · rintro ⟨⟨⟨⟨⟨id, backing⟩, functions, functionsDistinct⟩, apartFromClass⟩, oneClass⟩, classes⟩
    exact
      { id := id
        backing := backing
        oneClass := oneClass
        functions := functions
        functionsDistinct := functionsDistinct
        apartFromClass := apartFromClass
        classes := classes }
  · intro h
    exact ⟨⟨⟨⟨⟨h.id, h.backing⟩, h.functions, h.functionsDistinct⟩, h.apartFromClass⟩, h.oneClass⟩,
      h.classes⟩

/-- The check accepts exactly the well-formed units. -/
theorem isValid_iff_wellFormed (m : Module) : m.isValid ↔ m.WellFormed := by
  rw [isValid, List.isEmpty_iff, violations_eq_nil_iff]

end Module

end ScriptBinding
