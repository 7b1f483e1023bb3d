import Mathlib.Data.List.Nodup
import ScriptBinding.Proofs.Interface.WellFormed

/-!
What is wrong with declarations, said without the check: every rule about names, types and classes is
stated for the element that it is about, beside the elements before it. A function or a property is
reported for exactly what is wrong with it, and for each breach once.
-/
namespace ScriptBinding

/-- The type names this interface, below all its sequences. -/
def ValueType.RefersTo (t : ValueType) (name : Text) : Prop :=
  t.innermost = interface name ∨ t.innermost = owned name

/-- What is wrong with an argument that comes after some others. -/
inductive Argument.Breaks (a : Argument) (earlier : List Argument) : Breach → Prop
  | name (bad : ¬ a.name.isIdentifier) : a.Breaks earlier (.badName a.name)
  | repeated (taken : a.name ∈ earlier.map (·.name)) : a.Breaks earlier (.repeatedArgument a.name)
  | void (bottom : a.type.innermost = .primitive .void) : a.Breaks earlier (.voidArgument a.name)
  | type {name : Text} (named : a.type.RefersTo name) (bad : ¬ name.isIdentifier) :
      a.Breaks earlier (.badTypeName name)

/-- What is wrong with a function at a path. -/
inductive FunctionDecl.Breaks (f : FunctionDecl) (path : Path) : Violation → Prop
  | name (bad : ¬ f.name.isIdentifier) : f.Breaks path ⟨path, .badName f.name⟩
  | argument {k : Nat} {a : Argument} {breach : Breach} (declared : f.arguments[k]? = some a)
      (broken : a.Breaks (f.arguments.take k) breach) : f.Breaks path ⟨path.item "args" k, breach⟩
  | result {name : Text} (named : f.result.RefersTo name) (bad : ¬ name.isIdentifier) :
      f.Breaks path ⟨path.key "return", .badTypeName name⟩

/-- What is wrong with a property that comes after some others. -/
inductive PropertyDecl.Breaks (p : PropertyDecl) (earlier : List PropertyDecl) : Breach → Prop
  | name (bad : ¬ p.name.isIdentifier) : p.Breaks earlier (.badName p.name)
  | repeated (taken : p.name ∈ earlier.map (·.name)) : p.Breaks earlier (.repeatedProperty p.name)
  | void (bottom : p.type.innermost = .primitive .void) : p.Breaks earlier (.voidProperty p.name)
  | type {name : Text} (named : p.type.RefersTo name) (bad : ¬ name.isIdentifier) :
      p.Breaks earlier (.badTypeName name)

/-- What is wrong with a method as a member of its class, in a unit whose global functions have these
names. -/
inductive ClassDecl.BreaksMethod (c : ClassDecl) (functions : List Text) (f : FunctionDecl)
    (earlier : List FunctionDecl) : Breach → Prop
  | constructor (named : f.name = constructorName) :
      c.BreaksMethod functions f earlier .constructorMethod
  | repeated (taken : f.name ∈ earlier.map (·.name)) :
      c.BreaksMethod functions f earlier (.repeatedMethod f.name)
  | function (taken : f.name ∈ functions) :
      c.BreaksMethod functions f earlier (.methodAndFunction f.name)
  | property (taken : f.name ∈ c.properties.map (·.name)) :
      c.BreaksMethod functions f earlier (.methodAndProperty f.name)

/-- What is wrong with a class at a path. -/
inductive ClassDecl.Breaks (c : ClassDecl) (functions : List Text) (path : Path) :
    Violation → Prop
  | constructor {v : Violation} (broken : c.constructor.Breaks (path.key "constructor") v) :
      c.Breaks functions path v
  | property {j : Nat} {p : PropertyDecl} {breach : Breach} (declared : c.properties[j]? = some p)
      (broken : p.Breaks (c.properties.take j) breach) :
      c.Breaks functions path ⟨path.item "properties" j, breach⟩
  | function {j : Nat} {f : FunctionDecl} {v : Violation} (declared : c.methods[j]? = some f)
      (broken : f.Breaks (path.item "methods" j) v) : c.Breaks functions path v
  | method {j : Nat} {f : FunctionDecl} {breach : Breach} (declared : c.methods[j]? = some f)
      (broken : c.BreaksMethod functions f (c.methods.take j) breach) :
      c.Breaks functions path ⟨path.item "methods" j, breach⟩

/-- What is wrong with a unit, the order of required and optional arguments aside. -/
inductive Module.Breaks (m : Module) : Violation → Prop
  | id (bad : ¬ m.id.isIdentifier) : m.Breaks ⟨m.root, .badModuleId m.id⟩
  | backing (bad : ¬ m.backing.isIdentifier) : m.Breaks ⟨m.root, .badBacking m.backing⟩
  | functionAndClass (cls : m.hasClass) (taken : m.backing ∈ m.functions.map (·.name)) :
      m.Breaks ⟨m.root, .functionAndClass m.backing⟩
  | severalClasses (several : 1 < m.classes.length) :
      m.Breaks ⟨m.root, .severalClasses m.classes.length⟩
  | function {i : Nat} {f : FunctionDecl} {v : Violation}
      (declared : m.members[i]? = some (.function f))
      (broken : f.Breaks (m.root.item "members" i) v) : m.Breaks v
  | repeatedFunction {i : Nat} {f g : FunctionDecl} (declared : m.members[i]? = some (.function f))
      (earlier : .function g ∈ m.members.take i) (same : g.name = f.name) :
      m.Breaks ⟨m.root.item "members" i, .repeatedFunction f.name⟩
  | cls {i : Nat} {c : ClassDecl} {v : Violation} (declared : m.members[i]? = some (.cls c))
      (broken : c.Breaks (m.functions.map (·.name)) (m.root.item "members" i) v) : m.Breaks v

namespace Path

/-- A place at a path or below it. -/
def Within (p q : Path) : Prop := ∃ steps, q = ⟨p.root, p.steps ++ steps⟩

variable {p q : Path} {name name' : Text} {i j : Nat}

theorem Within.refl (p : Path) : p.Within p := ⟨[], by rw [List.append_nil]⟩

theorem Within.of_key (h : (p.key name).Within q) : p.Within q := by
  obtain ⟨steps, rfl⟩ := h
  exact ⟨.key name :: steps, by simp [key]⟩

theorem Within.of_item (h : (p.item name i).Within q) : (p.key name).Within q := by
  obtain ⟨steps, rfl⟩ := h
  exact ⟨.index i :: steps, by simp [item, index]⟩

theorem not_key_within : ¬ (p.key name).Within p := by
  rintro ⟨steps, same⟩
  have long := congrArg (List.length ∘ Path.steps) same
  simp [key] at long

theorem key_ne : p.key name ≠ p := fun same =>
  not_key_within ⟨[], by rw [List.append_nil]; exact same.symm⟩

theorem Within.key_inj (h : (p.key name).Within q) (h' : (p.key name').Within q) :
    name = name' := by
  obtain ⟨steps, rfl⟩ := h
  obtain ⟨others, same⟩ := h'
  simp only [key, Path.mk.injEq, List.append_assoc, List.append_cancel_left_eq,
    List.singleton_append, List.cons.injEq, PathStep.key.injEq] at same
  exact same.2.1

theorem Within.item_inj (h : (p.item name i).Within q) (h' : (p.item name j).Within q) : i = j := by
  obtain ⟨steps, rfl⟩ := h
  obtain ⟨others, same⟩ := h'
  simp only [item, index, Path.mk.injEq, List.append_assoc, List.append_cancel_left_eq,
    List.singleton_append, List.cons.injEq, PathStep.index.injEq] at same
  exact same.2.1

end Path

namespace Check

section
variable {α : Type} {check : Nat → List α → α → List Violation} {items : List α} {v : Violation}

theorem mem_eachAfterFrom_iff {earlier : List α} {start : Nat} :
    v ∈ eachAfterFrom check earlier start items ↔
      ∃ i a, items[i]? = some a ∧ v ∈ check (start + i) ((items.take i).reverse ++ earlier) a := by
  induction items generalizing earlier start with
  | nil => simp [eachAfterFrom]
  | cons first rest ih =>
      rw [eachAfterFrom, List.mem_append, ih]
      constructor
      · rintro (here | ⟨i, a, found, later⟩)
        · exact ⟨0, first, rfl, here⟩
        · refine ⟨i + 1, a, found, ?_⟩
          rw [show start + (i + 1) = start + 1 + i by omega]
          simpa using later
      · rintro ⟨i, a, found, reported⟩
        cases i with
        | zero =>
            obtain rfl := Option.some.inj found
            exact .inl reported
        | succ i =>
            refine .inr ⟨i, a, found, ?_⟩
            rw [show start + 1 + i = start + (i + 1) by omega]
            simpa using reported

/-- What is reported about a list is reported about one of its items, beside those before it. -/
theorem mem_eachAfter_iff :
    v ∈ eachAfter check items ↔
      ∃ i a, items[i]? = some a ∧ v ∈ check i (items.take i).reverse a := by
  simp [eachAfter, mem_eachAfterFrom_iff]

variable {path : Path} {name : Text}
  (within : ∀ i earlier a, ∀ v ∈ check i earlier a, (path.item name i).Within v.path)
include within

theorem within_of_mem_eachAfter (mem : v ∈ eachAfter check items) :
    (path.key name).Within v.path := by
  obtain ⟨i, a, -, reported⟩ := mem_eachAfter_iff.mp mem
  exact (within i _ a v reported).of_item

/-- Items that are each reported at a place of their own are reported once. -/
theorem nodup_eachAfter (each : ∀ i earlier a, (check i earlier a).Nodup) :
    (eachAfter check items).Nodup := by
  suffices ∀ earlier start, (eachAfterFrom check earlier start items).Nodup from this [] 0
  induction items with
  | nil => exact fun _ _ => List.nodup_nil
  | cons first rest ih =>
      intro earlier start
      refine (each start earlier first).append (ih _ _) fun v here later => ?_
      obtain ⟨i, a, -, reported⟩ := mem_eachAfterFrom_iff.mp later
      have same := (within _ _ _ v here).item_inj (within _ _ _ v reported)
      omega

end

section
variable {path : Path} {breach : Breach} {v : Violation}

theorem mem_require_iff {kept : Bool} :
    v ∈ require kept path breach ↔ ¬ kept ∧ v = ⟨path, breach⟩ := by
  cases kept <;> simp [require]

theorem not_kept_iff {broken : Bool} : ¬ (!broken) = true ↔ broken := by
  cases broken <;> simp

theorem require_sublist (kept : Bool) : (require kept path breach).Sublist [⟨path, breach⟩] := by
  cases kept <;> simp [require]

theorem mem_typeName_iff {t : ValueType} :
    v ∈ typeName path t ↔
      ∃ name, t.RefersTo name ∧ ¬ name.isIdentifier ∧ v = ⟨path, .badTypeName name⟩ := by
  simp only [ValueType.RefersTo, ← ValueType.interfaceName?_eq_some_iff]
  cases named : t.interfaceName? <;> simp [typeName, named, mem_require_iff]

theorem typeName_sublist (path : Path) (t : ValueType) :
    ∃ name, (typeName path t).Sublist [⟨path, .badTypeName name⟩] := by
  cases named : t.interfaceName? with
  | none => exact ⟨[], by simp [typeName, named]⟩
  | some name => exact ⟨name, by simpa [typeName, named] using require_sublist _⟩

theorem placement_sublist (path : Path) (earlier : List Argument) (a : Argument) :
    ∃ optional, (placement path earlier a).Sublist
      [⟨path, .requiredAfterOptional a.name optional⟩] := by
  rw [placement]
  split
  · split
    · exact ⟨_, List.Sublist.refl _⟩
    · exact ⟨[], List.nil_sublist _⟩
  · exact ⟨[], List.nil_sublist _⟩

theorem any_name_reverse_iff {α : Type} {nameOf : α → Text} {items : List α} {name : Text} :
    (items.reverse.any fun a => nameOf a = name) ↔ name ∈ items.map nameOf := by
  simp

end

section
variable {path : Path} {v : Violation}

theorem argument_sublist (path : Path) (earlier : List Argument) (a : Argument) :
    ∃ name optional, (argument path earlier a).Sublist
      [⟨path, .badName a.name⟩, ⟨path, .repeatedArgument a.name⟩, ⟨path, .voidArgument a.name⟩,
        ⟨path, .badTypeName name⟩, ⟨path, .requiredAfterOptional a.name optional⟩] := by
  obtain ⟨name, named⟩ := typeName_sublist path a.type
  obtain ⟨optional, placed⟩ := placement_sublist path earlier a
  exact ⟨name, optional, ((((require_sublist _).append (require_sublist _)).append
    (require_sublist _)).append named).append placed⟩

theorem nodup_argument (earlier : List Argument) (a : Argument) :
    (argument path earlier a).Nodup := by
  obtain ⟨name, optional, listed⟩ := argument_sublist path earlier a
  exact listed.nodup (by simp)

theorem path_of_mem_argument {earlier : List Argument} {a : Argument}
    (mem : v ∈ argument path earlier a) : v.path = path := by
  obtain ⟨name, optional, listed⟩ := argument_sublist path earlier a
  have found := listed.subset mem
  simp only [List.mem_cons, List.not_mem_nil, or_false] at found
  rcases found with rfl | rfl | rfl | rfl | rfl <;> rfl

theorem mem_argument_iff {earlier : List Argument} {a : Argument}
    (other : v.breach.category ≠ ("arity" : Text)) :
    v ∈ argument path earlier.reverse a ↔
      ∃ breach, a.Breaks earlier breach ∧ v = ⟨path, breach⟩ := by
  have placed : v ∉ placement path earlier.reverse a := by
    obtain ⟨optional, listed⟩ := placement_sublist path earlier.reverse a
    intro mem
    obtain rfl := List.mem_singleton.mp (listed.subset mem)
    exact other rfl
  simp only [argument, List.mem_append, mem_require_iff, not_kept_iff, mem_typeName_iff,
    any_name_reverse_iff, ValueType.containsVoid_iff, placed, or_false]
  constructor
  · rintro (((⟨bad, rfl⟩ | ⟨taken, rfl⟩) | ⟨bottom, rfl⟩) | ⟨name, named, bad, rfl⟩)
    · exact ⟨_, .name bad, rfl⟩
    · exact ⟨_, .repeated taken, rfl⟩
    · exact ⟨_, .void bottom, rfl⟩
    · exact ⟨_, .type named bad, rfl⟩
  · rintro ⟨breach, broken, rfl⟩
    cases broken with
    | name bad => exact .inl (.inl (.inl ⟨bad, rfl⟩))
    | repeated taken => exact .inl (.inl (.inr ⟨taken, rfl⟩))
    | void bottom => exact .inl (.inr ⟨bottom, rfl⟩)
    | type named bad => exact .inr ⟨_, named, bad, rfl⟩

end

section
variable {path : Path} {f : FunctionDecl} {v : Violation}

theorem within_of_mem_arguments (i : Nat) (earlier : List Argument) (a : Argument) :
    ∀ v ∈ argument (path.item "args" i) earlier a, (path.item "args" i).Within v.path := by
  intro v mem
  rw [path_of_mem_argument mem]
  exact .refl _

theorem mem_function_iff (other : v.breach.category ≠ ("arity" : Text)) :
    v ∈ function path f ↔ f.Breaks path v := by
  simp only [function, List.mem_append, mem_require_iff, mem_typeName_iff, mem_eachAfter_iff,
    mem_argument_iff other]
  constructor
  · rintro ((⟨bad, rfl⟩ | ⟨k, a, declared, breach, broken, rfl⟩) | ⟨name, named, bad, rfl⟩)
    · exact .name bad
    · exact .argument declared broken
    · exact .result named bad
  · intro broken
    cases broken with
    | name bad => exact .inl (.inl ⟨bad, rfl⟩)
    | argument declared broken => exact .inl (.inr ⟨_, _, declared, _, broken, rfl⟩)
    | result named bad => exact .inr ⟨_, named, bad, rfl⟩

theorem cases_of_mem_function (mem : v ∈ function path f) :
    v = ⟨path, .badName f.name⟩ ∨ (path.key "args").Within v.path ∨
      (path.key "return").Within v.path := by
  rw [function, List.mem_append, List.mem_append, mem_require_iff, mem_typeName_iff] at mem
  rcases mem with (⟨-, rfl⟩ | mem) | ⟨name, -, -, rfl⟩
  · exact .inl rfl
  · exact .inr (.inl (within_of_mem_eachAfter within_of_mem_arguments mem))
  · exact .inr (.inr (.refl _))

theorem within_of_mem_function (mem : v ∈ function path f) : path.Within v.path := by
  rcases cases_of_mem_function mem with rfl | below | below
  · exact .refl _
  · exact below.of_key
  · exact below.of_key

/-- What is said of a function at its own path is that it has no good name. -/
theorem breach_of_mem_function {breach : Breach} (mem : ⟨path, breach⟩ ∈ function path f) :
    breach = .badName f.name := by
  rcases cases_of_mem_function mem with same | below | below
  · exact congrArg Violation.breach same
  · exact absurd below Path.not_key_within
  · exact absurd below Path.not_key_within

theorem nodup_function : (function path f).Nodup := by
  obtain ⟨name, named⟩ := typeName_sublist (path.key "return") f.result
  have arguments : (eachAfter (fun i => argument (path.item "args" i)) f.arguments).Nodup :=
    nodup_eachAfter within_of_mem_arguments fun i => nodup_argument
  refine (List.Nodup.append ((require_sublist _).nodup (List.nodup_singleton _)) arguments
    fun v here later => ?_).append (named.nodup (List.nodup_singleton _)) fun v here later => ?_
  · obtain rfl := (mem_require_iff.mp here).2
    exact Path.not_key_within (within_of_mem_eachAfter within_of_mem_arguments later)
  · obtain rfl := List.mem_singleton.mp (named.subset later)
    rcases List.mem_append.mp here with here | here
    · exact Path.key_ne (congrArg Violation.path (mem_require_iff.mp here).2)
    · have below := within_of_mem_eachAfter within_of_mem_arguments here
      exact absurd (below.key_inj (.refl _)) (by decide)

end

section
variable {path : Path} {p : PropertyDecl} {v : Violation}

theorem property_sublist (path : Path) (p : PropertyDecl) (earlier : List PropertyDecl) :
    ∃ name, (property path earlier p).Sublist
      [⟨path, .badName p.name⟩, ⟨path, .repeatedProperty p.name⟩, ⟨path, .voidProperty p.name⟩,
        ⟨path, .badTypeName name⟩] := by
  obtain ⟨name, named⟩ := typeName_sublist path p.type
  exact ⟨name, (((require_sublist _).append (require_sublist _)).append
    (require_sublist _)).append named⟩

theorem nodup_property (earlier : List PropertyDecl) (p : PropertyDecl) :
    (property path earlier p).Nodup := by
  obtain ⟨name, listed⟩ := property_sublist path p earlier
  exact listed.nodup (by simp)

theorem path_of_mem_property {earlier : List PropertyDecl} (mem : v ∈ property path earlier p) :
    v.path = path := by
  obtain ⟨name, listed⟩ := property_sublist path p earlier
  have found := listed.subset mem
  simp only [List.mem_cons, List.not_mem_nil, or_false] at found
  rcases found with rfl | rfl | rfl | rfl <;> rfl

theorem mem_property_iff {earlier : List PropertyDecl} :
    v ∈ property path earlier.reverse p ↔
      ∃ breach, p.Breaks earlier breach ∧ v = ⟨path, breach⟩ := by
  simp only [property, List.mem_append, mem_require_iff, not_kept_iff, mem_typeName_iff,
    any_name_reverse_iff, ValueType.containsVoid_iff]
  constructor
  · rintro (((⟨bad, rfl⟩ | ⟨taken, rfl⟩) | ⟨bottom, rfl⟩) | ⟨name, named, bad, rfl⟩)
    · exact ⟨_, .name bad, rfl⟩
    · exact ⟨_, .repeated taken, rfl⟩
    · exact ⟨_, .void bottom, rfl⟩
    · exact ⟨_, .type named bad, rfl⟩
  · rintro ⟨breach, broken, rfl⟩
    cases broken with
    | name bad => exact .inl (.inl (.inl ⟨bad, rfl⟩))
    | repeated taken => exact .inl (.inl (.inr ⟨taken, rfl⟩))
    | void bottom => exact .inl (.inr ⟨bottom, rfl⟩)
    | type named bad => exact .inr ⟨_, named, bad, rfl⟩

end

end Check

end ScriptBinding
