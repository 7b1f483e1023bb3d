import ScriptBinding.Proofs.Assembly.Planned
import ScriptBinding.Proofs.Callback.Plan
import ScriptBinding.Proofs.Interface.RoundTrip

/-!
Where the operator for any value comes from. It stands for `any`, for an interface that is named
like it, and for every type without an operator of its own. In a unit that was loaded and accepted
the last are the results that are sequences of `void`, since a result is not asked what stands below
its sequences.
-/
namespace ScriptBinding

namespace Operator

/-- What stands below all sequences and optional values. -/
def innermost : Operator → Operator
  | ⟨_, [o]⟩ => o.innermost
  | o => o

theorem innermost_sequence (o : Operator) : o.sequence.innermost = o.innermost := by
  rw [sequence, innermost]

theorem innermost_optional (o : Operator) : o.optional.innermost = o.innermost := by
  rw [optional, innermost]

end Operator

namespace ValueType

/-- The sequences in a type, the outermost first. -/
def sequences : ValueType → List ValueType
  | sequence element => sequence element :: element.sequences
  | primitive _ | interface _ | promise | owned _ => []

def IsSequenceOfVoid : ValueType → Prop
  | sequence element => element.innermost = .primitive .void
  | primitive _ | interface _ | promise | owned _ => False

instance : (t : ValueType) → Decidable t.IsSequenceOfVoid
  | sequence element => inferInstanceAs (Decidable (element.innermost = .primitive .void))
  | primitive _ | interface _ | promise | owned _ => inferInstanceAs (Decidable False)

/-- What stands below all sequences is declared as any value. -/
def DeclaresAny (t : ValueType) : Prop :=
  t.innermost = .primitive .any ∨ t.innermost = .interface Operator.any.name

instance (t : ValueType) : Decidable t.DeclaresAny :=
  inferInstanceAs
    (Decidable (t.innermost = .primitive .any ∨ t.innermost = .interface Operator.any.name))

theorem IsSequenceOfVoid.innermost {t : ValueType} (h : t.IsSequenceOfVoid) :
    t.innermost = .primitive .void := by
  cases t with
  | primitive _ | interface _ | promise | owned _ => exact h.elim
  | sequence element => exact h

theorem innermost_of_mem_sequences {t s : ValueType} (mem : s ∈ t.sequences) :
    s.innermost = t.innermost := by
  induction t with
  | primitive _ | interface _ | promise | owned _ => exact absurd mem List.not_mem_nil
  | sequence element ih =>
      rcases List.mem_cons.mp mem with rfl | mem
      · rfl
      · exact ih mem

theorem forall_sequences_iff (t : ValueType) :
    (∀ s ∈ t.sequences, s.innermost ≠ .primitive .void) ↔ ¬ t.IsSequenceOfVoid := by
  cases t with
  | primitive _ | interface _ | promise | owned _ => simp [sequences, IsSequenceOfVoid]
  | sequence element =>
      constructor
      · exact fun each => each (sequence element) List.mem_cons_self
      · exact fun other s mem void => other ((innermost_of_mem_sequences mem).symm.trans void)

/-- Of the types that can be written down, only `void` has no operator of its own. -/
theorem innermost_operator_eq_any_iff {t : ValueType} (h : t.Representable) :
    t.operator.innermost = .any ↔ t.innermost = .primitive .void ∨ t.DeclaresAny := by
  induction t with
  | primitive p =>
      cases p with
      | unlisted kind other => exact absurd h other
      | _ => simp [DeclaresAny, innermost]; decide
  | interface name =>
      simp [DeclaresAny, innermost, operator, Operator.any, Operator.plain, Operator.innermost]
  | promise | owned _ => exact h.elim
  | sequence element ih =>
      rw [operator, Operator.innermost_sequence]
      exact ih h

end ValueType

/-- A conversion of any value is one of an argument that is declared so. -/
def Conversion.AnyDeclared (c : Conversion) : Prop :=
  c.operator.innermost = .any → c.argument.type.DeclaresAny

def Accessor.AnyDeclared (a : Accessor) : Prop :=
  a.operator.innermost = .any → a.property.type.DeclaresAny

/-- A result that is converted as any value is declared so by the function. -/
def CallResult.AnyDeclared (r : CallResult) (f : FunctionDecl) : Prop :=
  ∀ operator, r = .converted operator → operator.innermost = .any → f.result.DeclaresAny

/-- An argument or a property that is not `void` has an operator of its own, or is declared as any
value. -/
theorem ValueType.declaresAny_of_innermost {t : ValueType} (shown : t.Representable)
    (some : t.innermost ≠ .primitive .void) (converted : t.operator.innermost = .any) :
    t.DeclaresAny :=
  ((innermost_operator_eq_any_iff shown).mp converted).resolve_left some

theorem PropertyDecl.anyDeclared_accessor {q : PropertyDecl} (formed : q.WellFormed)
    (shown : q.Representable) : q.accessor.AnyDeclared :=
  ValueType.declaresAny_of_innermost shown.type formed.notVoid

namespace FunctionDecl

variable {f : FunctionDecl}

theorem anyDeclared_of_mem_slots (formed : f.WellFormed) (shown : f.Representable) {c : Conversion}
    (mem : c ∈ f.slots) : c.argument ∈ f.arguments ∧ c.AnyDeclared := by
  obtain ⟨slot, a, declared, rfl⟩ := f.exists_of_mem_slots mem
  refine ⟨declared, fun converted => ?_⟩
  have bottom : a.type.operator.innermost = .any := by
    rw [← converted, conversionIn]
    split
    · rfl
    · exact (Operator.innermost_optional _).symm
  exact ValueType.declaresAny_of_innermost (shown.arguments a declared).type
    (formed.argumentsNotVoid a declared) bottom

/-- Only a sequence of `void` is given back as any value without being declared so. -/
theorem anyDeclared_callResult_iff (shown : f.Representable) {mode : CallMode}
    (other : mode ≠ .constructor) (backing : Text) :
    (f.callResult mode backing).AnyDeclared f ↔ ¬ f.result.IsSequenceOfVoid := by
  have shown := shown.result
  rw [callResult, if_neg other]
  cases result : f.result with
  | promise | owned _ => simp [CallResult.AnyDeclared, ValueType.IsSequenceOfVoid]
  | interface name =>
      simp [CallResult.AnyDeclared, ValueType.IsSequenceOfVoid, ValueType.DeclaresAny, result,
        ValueType.innermost, ValueType.operator, Operator.any, Operator.plain, Operator.innermost]
  | primitive p =>
      rw [result] at shown
      cases p with
      | unlisted kind other => exact absurd shown other
      | void => simp [CallResult.AnyDeclared, ValueType.IsSequenceOfVoid]
      | any =>
          simp [CallResult.AnyDeclared, ValueType.IsSequenceOfVoid, ValueType.DeclaresAny, result,
            ValueType.innermost]
      | boolean | int32 | int64 | double | string | object | function =>
          simp only [CallResult.AnyDeclared, CallResult.converted.injEq, forall_eq',
            ValueType.IsSequenceOfVoid, not_false_eq_true, iff_true]
          exact fun converted => absurd converted (by decide)
  | sequence element =>
      rw [result] at shown
      have bottom := ValueType.innermost_operator_eq_any_iff (t := .sequence element) shown
      simp only [CallResult.AnyDeclared, result, CallResult.converted.injEq, forall_eq']
      rw [bottom]
      constructor
      · intro given void
        rcases given (.inl void) with any | any
        · exact absurd (void.symm.trans any) (by simp)
        · exact absurd (void.symm.trans any) (by simp)
      · rintro other (void | any)
        · exact absurd void other
        · exact any

end FunctionDecl

/-- The functions of a member with the way in which each is called, in the order of their plans. -/
def Member.calls : Member → List (CallMode × FunctionDecl)
  | function f => [(.function, f)]
  | cls c => (.constructor, c.constructor) :: c.methods.map (.method, ·)

def MemberPlan.calls : MemberPlan → List CallPlan
  | function q => [q]
  | cls c => c.constructor :: c.methods

def MemberPlan.accessors : MemberPlan → List Accessor
  | function _ => []
  | cls c => c.accessors

def Module.calls (m : Module) : List (CallMode × FunctionDecl) := m.members.flatMap Member.calls

namespace ModulePlan

def calls (p : ModulePlan) : List CallPlan := p.members.flatMap MemberPlan.calls

def accessors (p : ModulePlan) : List Accessor := p.members.flatMap MemberPlan.accessors

end ModulePlan

namespace Module

variable {m : Module}

theorem calls_planned (options : Options) :
    (m.planned options).calls =
      m.calls.map fun call => call.2.callPlan call.1 m.backing options.strictArity := by
  rw [ModulePlan.calls, planned, calls, List.flatMap_map, List.map_flatMap]
  congr 1
  funext member
  cases member with
  | function f => rfl
  | cls c => simp [Member.plan, ClassDecl.plan, MemberPlan.calls, Member.calls]

theorem accessors_planned (options : Options) :
    (m.planned options).accessors = m.properties.map PropertyDecl.accessor := by
  rw [ModulePlan.accessors, planned, properties, List.flatMap_map, List.map_flatMap]
  exact flatMap_classes m.members _ _ fun member => by
    cases member <;> simp [Member.plan, ClassDecl.plan, MemberPlan.accessors, Member.class?]

theorem mem_calls_iff {mode : CallMode} {f : FunctionDecl} :
    (mode, f) ∈ m.calls ↔ mode = .function ∧ f ∈ m.functions ∨ ∃ c ∈ m.classes,
      mode = .constructor ∧ f = c.constructor ∨ mode = .method ∧ f ∈ c.methods := by
  simp only [calls, List.mem_flatMap, mem_functions_iff, mem_classes_iff]
  constructor
  · rintro ⟨member | c, listed, mem⟩
    · obtain ⟨rfl, rfl⟩ := Prod.mk.inj (List.mem_singleton.mp mem)
      exact .inl ⟨rfl, listed⟩
    · refine .inr ⟨c, listed, ?_⟩
      rcases List.mem_cons.mp mem with same | mem
      · exact .inl (Prod.mk.inj same)
      · obtain ⟨g, declared, same⟩ := List.mem_map.mp mem
        obtain ⟨rfl, rfl⟩ := Prod.mk.inj same
        exact .inr ⟨rfl, declared⟩
  · rintro (⟨rfl, listed⟩ | ⟨c, listed, ⟨rfl, rfl⟩ | ⟨rfl, mem⟩⟩)
    · exact ⟨_, listed, List.mem_singleton_self _⟩
    · exact ⟨_, listed, List.mem_cons_self⟩
    · exact ⟨_, listed, List.mem_cons_of_mem _ (List.mem_map_of_mem mem)⟩

theorem WellFormed.of_mem_calls (h : m.WellFormed) {call : CallMode × FunctionDecl}
    (mem : call ∈ m.calls) : call.2.WellFormed := by
  rcases mem_calls_iff.mp mem with ⟨-, mem⟩ | ⟨c, listed, ⟨-, same⟩ | ⟨-, mem⟩⟩
  · exact h.functions _ mem
  · exact same ▸ (h.classes c listed).constructor
  · exact (h.classes c listed).methods _ mem

section
variable (h : m.Representable)
include h

theorem Representable.of_mem_calls {call : CallMode × FunctionDecl} (mem : call ∈ m.calls) :
    call.2.Representable := by
  rcases mem_calls_iff.mp mem with ⟨-, mem⟩ | ⟨c, listed, inside⟩
  · exact h.members _ (mem_functions_iff.mp mem)
  · have shown : c.Representable := h.members _ (mem_classes_iff.mp listed)
    rcases inside with ⟨-, same⟩ | ⟨-, mem⟩
    · exact same ▸ shown.constructor
    · exact shown.methods _ mem

theorem Representable.of_mem_properties {q : PropertyDecl} (mem : q ∈ m.properties) :
    q.Representable := by
  obtain ⟨c, listed, mem⟩ := List.mem_flatMap.mp mem
  have shown : c.Representable := h.members _ (mem_classes_iff.mp listed)
  exact shown.properties q mem

end

theorem mem_types_iff {t : ValueType} :
    t ∈ m.types ↔ (∃ call ∈ m.calls, t ∈ call.2.types) ∨ ∃ q ∈ m.properties, q.type = t := by
  have member (member : Member) : t ∈ member.types ↔
      (∃ call ∈ member.calls, t ∈ call.2.types) ∨
        ∃ c, member.class? = some c ∧ ∃ q ∈ c.properties, q.type = t := by
    cases member with
    | function f => simp [Member.types, Member.calls, Member.class?]
    | cls c => simp [Member.types, ClassDecl.types, Member.calls, Member.class?, or_comm, or_assoc]
  simp only [types, calls, properties, classes, List.mem_flatMap, List.mem_filterMap, member]
  constructor
  · rintro ⟨member, listed, ⟨call, mem, typed⟩ | ⟨c, found, q, mem, typed⟩⟩
    · exact .inl ⟨call, ⟨member, listed, mem⟩, typed⟩
    · exact .inr ⟨q, ⟨c, ⟨member, listed, found⟩, mem⟩, typed⟩
  · rintro (⟨call, ⟨member, listed, mem⟩, typed⟩ | ⟨q, ⟨c, ⟨member, listed, found⟩, mem⟩, typed⟩)
    · exact ⟨member, listed, .inl ⟨call, mem, typed⟩⟩
    · exact ⟨member, listed, .inr ⟨c, found, q, mem, typed⟩⟩

/-- Sequences of `void` can only stand in results. -/
theorem forall_types_iff (h : m.WellFormed) :
    (∀ t ∈ m.types, ∀ s ∈ t.sequences, s.innermost ≠ .primitive .void) ↔
      ∀ call ∈ m.calls, ¬ call.2.result.IsSequenceOfVoid := by
  simp only [ValueType.forall_sequences_iff, mem_types_iff]
  constructor
  · exact fun each call mem => each _ (.inl ⟨call, mem, List.mem_cons_self⟩)
  · rintro results t (⟨call, mem, listed⟩ | ⟨q, mem, rfl⟩)
    · rcases List.mem_cons.mp listed with rfl | listed
      · exact results call mem
      · obtain ⟨a, declared, rfl⟩ := List.mem_map.mp listed
        exact fun void => (h.of_mem_calls mem).argumentsNotVoid a declared void.innermost
    · exact fun void => (h.property_wellFormed mem).notVoid void.innermost

/-- In a loaded and accepted unit, an argument or a property is converted as any value only if it is
declared so, and the results are as well exactly if none is a sequence of `void`. Nothing else in
the unit is one. -/
theorem any_operators_declared_iff {path : Path} {node : Json} {m : Module}
    (loaded : Load.oneModule path node = .ok m) (valid : m.isValid) :
    (∀ call ∈ m.calls, ∀ a ∈ call.2.arguments, a.type.innermost ≠ .primitive .void) ∧
      (∀ q ∈ m.properties, q.type.innermost ≠ .primitive .void) ∧
      ((∀ t ∈ m.types, ∀ s ∈ t.sequences, s.innermost ≠ .primitive .void) ↔
        ∀ call ∈ m.calls, ¬ call.2.result.IsSequenceOfVoid) ∧
      ∀ options, ∃ p, m.plan options = .ok p ∧
        List.Forall₂ (fun call q => ∀ c ∈ q.conversions,
          c.argument ∈ call.2.arguments ∧ c.AnyDeclared) m.calls p.calls ∧
        (∀ a ∈ p.accessors, a.property ∈ m.properties ∧ a.AnyDeclared) ∧
        (List.Forall₂ (fun call q => q.result.AnyDeclared call.2) m.calls p.calls ↔
          ∀ call ∈ m.calls, call.1 ≠ .constructor → ¬ call.2.result.IsSequenceOfVoid) := by
  have formed := wellFormed_of_isValid valid
  have shown := (Load.representable_of_oneModule loaded).1
  refine ⟨fun call mem => (formed.of_mem_calls mem).argumentsNotVoid,
    fun q mem => (formed.property_wellFormed mem).notVoid, forall_types_iff formed,
    fun options => ⟨_, plan_eq_ok valid options, ?_, ?_, ?_⟩⟩
  · rw [calls_planned, List.forall₂_map_right_iff, List.forall₂_same]
    intro call mem c listed
    rw [FunctionDecl.conversions_callPlan] at listed
    exact FunctionDecl.anyDeclared_of_mem_slots (formed.of_mem_calls mem) (shown.of_mem_calls mem)
      listed
  · rw [accessors_planned, List.forall_mem_map]
    exact fun q mem => ⟨mem, PropertyDecl.anyDeclared_accessor (formed.property_wellFormed mem)
      (shown.of_mem_properties mem)⟩
  · rw [calls_planned, List.forall₂_map_right_iff, List.forall₂_same]
    refine forall₂_congr fun call mem => ?_
    show (call.2.callResult call.1 m.backing).AnyDeclared call.2 ↔ _
    by_cases other : call.1 = .constructor
    · simp [other, FunctionDecl.callResult, CallResult.AnyDeclared]
    · rw [FunctionDecl.anyDeclared_callResult_iff (shown.of_mem_calls mem) other]
      exact (imp_iff_right other).symm

/-- A function that gives back any number of values of one type. -/
def history (element : Text) : Json :=
  .obj [("id", .str "history"), ("backing_type", .str "History"),
    ("members", .arr [.obj [("kind", .str "function"), ("name", .str "entries"),
      ("return", .obj [("sequence", .str element)])]])]

theorem any_operators_declared_history :
    ∃ m, Load.oneModule (.ofRoot "module") (history "any") = .ok m ∧ m.isValid ∧
      (∀ t ∈ m.types, ∀ s ∈ t.sequences, s.innermost ≠ .primitive .void) ∧
      ∃ p, m.plan .standard = .ok p ∧
        List.Forall₂ (fun call q => q.result.AnyDeclared call.2) m.calls p.calls := by
  let m : Module := ⟨"history", "History",
    [.function ⟨"entries", [], .sequence (.primitive .any)⟩], []⟩
  have loaded : Load.oneModule (.ofRoot "module") (history "any") = .ok m := rfl
  have valid : m.isValid := by decide
  have others : ∀ call ∈ m.calls, ¬ call.2.result.IsSequenceOfVoid := by decide
  obtain ⟨-, -, types, plans⟩ := any_operators_declared_iff loaded valid
  obtain ⟨p, planned, -, -, results⟩ := plans .standard
  exact ⟨m, loaded, valid, types.mpr others, p, planned,
    results.mpr fun call mem _ => others call mem⟩

/-- A result may be a sequence of `void`; it is then converted as any value. -/
theorem not_any_operators_declared_history :
    ∃ m, Load.oneModule (.ofRoot "module") (history "void") = .ok m ∧ m.isValid ∧
      (∃ t ∈ m.types, ∃ s ∈ t.sequences, s.innermost = .primitive .void) ∧
      ∃ p, m.plan .standard = .ok p ∧
        ∃ q ∈ p.calls, q.result = .converted (.sequence .any) ∧
          ∀ t ∈ m.types, ¬ t.DeclaresAny := by
  let m : Module := ⟨"history", "History",
    [.function ⟨"entries", [], .sequence (.primitive .void)⟩], []⟩
  have valid : m.isValid := by decide
  refine ⟨m, rfl, valid, ?_, _, plan_eq_ok valid _, ?_⟩
  · exact ⟨.sequence (.primitive .void), by decide, _, List.mem_cons_self, rfl⟩
  · exact ⟨_, List.mem_cons_self, rfl, by decide⟩

end Module

end ScriptBinding
