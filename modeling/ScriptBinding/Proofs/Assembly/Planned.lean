import Mathlib.Data.List.Basic
import ScriptBinding.Assembly.Plan
import ScriptBinding.Proofs.Interface.WellFormed

/-!
The plan of a valid unit, written down. Tables merge in order to one table after the other, as long
as at most one of them brings a constructor; a valid unit has one class at most, so that its plan is
always made.
-/
namespace ScriptBinding

namespace Registrations

/-- Tables one after the other, with the first constructor among them. -/
def joined (rs : List Registrations) : Registrations where
  globalFunctions := rs.flatMap (·.globalFunctions)
  constructor? := (rs.filterMap (·.constructor?)).head?
  prototypeMethods := rs.flatMap (·.prototypeMethods)
  prototypeProperties := rs.flatMap (·.prototypeProperties)

theorem joined_singleton (r : Registrations) : joined [r] = r := by
  obtain ⟨_, constructor?, _, _⟩ := r
  cases constructor? <;> simp [joined]

theorem merge_eq_ok {r s : Registrations}
    (one : ([r, s].filterMap (·.constructor?)).length ≤ 1) : r.merge s = .ok (joined [r, s]) := by
  cases first : r.constructor? with
  | none =>
      cases second : s.constructor? <;>
        simp [merge, mergeConstructors, joined, first, second, bind, Except.bind]
  | some name =>
      cases second : s.constructor? with
      | none => simp [merge, mergeConstructors, joined, first, second, bind, Except.bind]
      | some other => simp [first, second] at one

theorem joined_empty_cons (rest : List Registrations) : joined (empty :: rest) = joined rest := rfl

theorem joined_cons_cons (r s : Registrations) (rest : List Registrations) :
    joined (joined [r, s] :: rest) = joined (r :: s :: rest) := by
  cases first : r.constructor? <;> cases second : s.constructor? <;>
    simp [joined, first, second]

/-- Merging from the left succeeds if at most one constructor is met. -/
theorem foldlM_merge_eq_ok {first : Registrations} {rest : List Registrations}
    (one : ((first :: rest).filterMap (·.constructor?)).length ≤ 1) :
    rest.foldlM merge first = .ok (joined (first :: rest)) := by
  induction rest generalizing first with
  | nil =>
      rw [List.foldlM_nil, joined_singleton]
      rfl
  | cons second rest ih =>
      have pair : ([first, second].filterMap (·.constructor?)).length ≤ 1 := by
        cases h : first.constructor? <;> cases h' : second.constructor? <;>
          simp [h, h'] at one ⊢
      have later : ((joined [first, second] :: rest).filterMap (·.constructor?)).length ≤ 1 := by
        cases h : first.constructor? <;> cases h' : second.constructor? <;>
          simp [joined, h, h'] at one ⊢ <;> exact one
      rw [List.foldlM_cons, merge_eq_ok pair]
      show rest.foldlM merge (joined [first, second]) = _
      rw [ih later, joined_cons_cons]

end Registrations

def ModulePlan.methods (p : ModulePlan) : List CallPlan := p.classPlan?.toList.flatMap (·.methods)

namespace Module

def methods (m : Module) : List FunctionDecl := m.classes.flatMap (·.methods)

def properties (m : Module) : List PropertyDecl := m.classes.flatMap (·.properties)

theorem mem_functions_iff {m : Module} {f : FunctionDecl} :
    f ∈ m.functions ↔ .function f ∈ m.members := by
  rw [functions, List.mem_filterMap]
  constructor
  · rintro ⟨member, listed, found⟩
    cases member with
    | function g => exact Option.some.inj found ▸ listed
    | cls _ => exact absurd found (by simp [Member.function?])
  · exact fun listed => ⟨_, listed, rfl⟩

theorem mem_classes_iff {m : Module} {c : ClassDecl} : c ∈ m.classes ↔ .cls c ∈ m.members := by
  rw [classes, List.mem_filterMap]
  constructor
  · rintro ⟨member, listed, found⟩
    cases member with
    | function _ => exact absurd found (by simp [Member.class?])
    | cls d => exact Option.some.inj found ▸ listed
  · exact fun listed => ⟨_, listed, rfl⟩

/-- The functions whose callbacks are named as declared. -/
def declared (m : Module) : List FunctionDecl := m.functions ++ m.methods

/-- The tables of a unit, a row for each declaration. -/
def tables (m : Module) : Registrations where
  globalFunctions := m.functions.map FunctionDecl.row
  constructor? := if m.hasClass then some m.backing else none
  prototypeMethods := m.methods.map FunctionDecl.row
  prototypeProperties := m.properties.map fun p => p.accessor.row

/-- What members contribute one by one, gathered from the functions among them. -/
theorem flatMap_functions {α : Type} (members : List Member) (tables : Member → List α)
    (row : FunctionDecl → α) (spec : ∀ member, tables member = (member.function?.map row).toList) :
    members.flatMap tables = (members.filterMap Member.function?).map row := by
  rw [List.filterMap_eq_flatMap_toList, List.map_flatMap]
  congr 1
  funext member
  rw [spec]
  cases member.function? <;> rfl

theorem flatMap_classes {α : Type} (members : List Member) (tables : Member → List α)
    (rows : ClassDecl → List α)
    (spec : ∀ member, tables member = member.class?.toList.flatMap rows) :
    members.flatMap tables = (members.filterMap Member.class?).flatMap rows := by
  rw [List.filterMap_eq_flatMap_toList, List.flatMap_assoc]
  congr 1
  funext member
  exact spec member

/-- The plan of a unit whose tables are those of its declarations. -/
def planned (m : Module) (options : Options) : ModulePlan where
  module := m
  options := options
  members := m.members.map (Member.plan m.backing options.strictArity)
  registrations := m.tables

theorem functions_planned (m : Module) (options : Options) :
    (m.planned options).functions =
      m.functions.map fun f => f.callPlan .function m.backing options.strictArity := by
  simp only [ModulePlan.functions, planned, functions, List.filterMap_map, List.map_filterMap]
  congr 1
  funext member
  cases member <;> rfl

theorem classPlans_planned (m : Module) (options : Options) :
    (m.planned options).members.filterMap MemberPlan.class? =
      m.classes.map fun c => c.plan m.backing options.strictArity := by
  rw [planned, classes, List.filterMap_map, List.map_filterMap]
  congr 1
  funext member
  cases member <;> rfl

theorem classPlan?_planned (m : Module) (options : Options) :
    (m.planned options).classPlan? =
      m.classes.head?.map fun c => c.plan m.backing options.strictArity := by
  rw [ModulePlan.classPlan?, ← List.head?_filterMap, classPlans_planned, List.head?_map]

theorem constructors_registrations (m : Module) :
    (m.members.map (Member.registrations m.backing)).filterMap (·.constructor?) =
      m.classes.map fun _ => m.backing := by
  rw [List.filterMap_eq_flatMap_toList, List.flatMap_map, List.map_eq_flatMap]
  exact flatMap_classes m.members _ _ fun member => by cases member <;> rfl

theorem joined_registrations (m : Module) :
    .joined (m.members.map (Member.registrations m.backing)) = m.tables := by
  have constructor? : (m.classes.map fun _ => m.backing).head? =
      if m.hasClass then some m.backing else none := by
    cases h : m.classes <;> simp [hasClass, h]
  simp only [Registrations.joined, tables, Registrations.mk.injEq, List.flatMap_map,
    constructors_registrations, constructor?, true_and]
  refine ⟨?_, ?_, ?_⟩
  · exact flatMap_functions m.members _ _ fun member => by cases member <;> rfl
  · rw [methods, List.map_flatMap]
    exact flatMap_classes m.members _ _ fun member => by
      cases member <;> simp [Member.class?, Member.registrations, Registrations.empty,
        ClassDecl.registrations]
  · rw [properties, List.map_flatMap]
    exact flatMap_classes m.members _ _ fun member => by
      cases member <;> simp [Member.class?, Member.registrations, Registrations.empty,
        ClassDecl.registrations]

namespace WellFormed

variable {m : Module} (h : m.WellFormed)
include h

theorem classes_eq :
    m.classes = [] ∨ ∃ c, m.classes = [c] ∧ c.WellFormed (m.functions.map (·.name)) := by
  have one := h.oneClass
  have each := h.classes
  cases classes : m.classes with
  | nil => exact .inl rfl
  | cons c rest =>
      rw [classes, List.length_cons] at one
      obtain rfl : rest = [] := List.length_eq_zero_iff.mp (by omega)
      exact .inr ⟨c, rfl, each c (classes ▸ List.mem_cons_self)⟩

theorem declared_wellFormed {f : FunctionDecl} (mem : f ∈ m.declared) : f.WellFormed := by
  rcases List.mem_append.mp mem with mem | mem
  · exact h.functions f mem
  · obtain ⟨c, listed, mem⟩ := List.mem_flatMap.mp mem
    exact (h.classes c listed).methods f mem

theorem property_wellFormed {q : PropertyDecl} (mem : q ∈ m.properties) : q.WellFormed := by
  obtain ⟨c, listed, mem⟩ := List.mem_flatMap.mp mem
  exact (h.classes c listed).properties q mem

theorem methods_planned (options : Options) :
    (m.planned options).methods =
      m.methods.map fun f => f.callPlan .method m.backing options.strictArity := by
  rw [ModulePlan.methods, classPlan?_planned]
  rcases h.classes_eq with none | ⟨c, single, -⟩
  · simp [methods, none]
  · simp [methods, single, ClassDecl.plan]

end WellFormed

theorem wellFormed_of_isValid {m : Module} (valid : m.isValid) : m.WellFormed :=
  m.violations_eq_nil_iff.mp (List.isEmpty_iff.mp valid)

/-- The tables of the members of a valid unit always merge. -/
theorem foldlM_merge_registrations {m : Module} (valid : m.isValid) :
    (m.members.map (Member.registrations m.backing)).foldlM Registrations.merge
      Registrations.empty = .ok m.tables := by
  have single : m.classes.length ≤ 1 := (wellFormed_of_isValid valid).oneClass
  have one : ((.empty :: m.members.map (Member.registrations m.backing)).filterMap
      (·.constructor?)).length ≤ 1 := by
    simpa [Registrations.empty, m.constructors_registrations] using single
  have merged := Registrations.foldlM_merge_eq_ok one
  rwa [Registrations.joined_empty_cons, m.joined_registrations] at merged

/-- A valid unit is always planned. -/
theorem plan_eq_ok {m : Module} (valid : m.isValid) (options : Options) :
    m.plan options = .ok (m.planned options) := by
  simp [plan, valid, foldlM_merge_registrations valid, planned, bind, Except.bind]

end Module

/-- A unit with a declaration of every kind. -/
def page : Module :=
  { id := "page"
    backing := "Page"
    members :=
      [.function ⟨"open", [⟨"url", .primitive .string, true⟩, ⟨"depth", .primitive .int32, false⟩],
          .primitive .void⟩,
        .cls
          { constructor := ⟨"constructor", [⟨"host", .primitive .string, true⟩], .primitive .void⟩
            properties := [⟨"title", .primitive .string, false⟩, ⟨"root", .interface "Node", true⟩]
            methods := [⟨"close", [], .promise⟩] }]
    implementation := [] }

theorem isValid_page : page.isValid := by decide

end ScriptBinding
