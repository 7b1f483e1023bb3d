import ScriptBinding.Proofs.Interface.Reported

/-!
Required arguments that come behind optional ones. Such an argument is reported at its own place,
once, and nothing else is reported as a breach of this rule. The check remembers the first optional
argument by its name, so that one without a name is passed over; all other arguments are reported
as the rule says.
-/
namespace ScriptBinding

theorem Path.item_inj {p q : Path} {name : Text} {i j : Nat} :
    p.item name i = q.item name j ↔ p = q ∧ i = j := by
  constructor
  · intro same
    obtain ⟨root, steps⟩ := p
    obtain ⟨root', steps'⟩ := q
    simp only [item, key, index, Path.mk.injEq] at same ⊢
    obtain ⟨rfl, same⟩ := same
    obtain ⟨keys, last⟩ := List.append_inj' same rfl
    exact ⟨⟨rfl, (List.append_inj' keys rfl).1⟩, by simpa using last⟩
  · rintro ⟨rfl, rfl⟩
    rfl

/-- A function is declared at a path of a unit: as a member, as the constructor of a class, or as a
method. -/
inductive Module.DeclaresAt (m : Module) : Path → FunctionDecl → Prop
  | function {i : Nat} {f : FunctionDecl} (declared : m.members[i]? = some (.function f)) :
      m.DeclaresAt (m.root.item "members" i) f
  | constructor {i : Nat} {c : ClassDecl} (declared : m.members[i]? = some (.cls c)) :
      m.DeclaresAt ((m.root.item "members" i).key "constructor") c.constructor
  | method {i j : Nat} {c : ClassDecl} {f : FunctionDecl}
      (declared : m.members[i]? = some (.cls c)) (listed : c.methods[j]? = some f) :
      m.DeclaresAt ((m.root.item "members" i).item "methods" j) f

/-- A path has one declaration at most. -/
theorem Module.DeclaresAt.unique {m : Module} {p q : Path} {f g : FunctionDecl}
    (h : m.DeclaresAt p f) (h' : m.DeclaresAt q g) (same : p = q) : f = g := by
  cases h with
  | function declared =>
      cases h' with
      | function declared' =>
          obtain ⟨-, rfl⟩ := Path.item_inj.mp same
          exact Member.function.inj (Option.some.inj (declared.symm.trans declared'))
      | constructor _ | method _ _ => simp [Path.item, Path.key, Path.index] at same
  | constructor declared =>
      cases h' with
      | function _ | method _ _ => simp [Path.item, Path.key, Path.index] at same
      | constructor declared' =>
          obtain rfl : _ = _ := by simpa [Path.item, Path.key, Path.index] using same
          rw [Member.cls.inj (Option.some.inj (declared.symm.trans declared'))]
  | method declared listed =>
      cases h' with
      | function _ | constructor _ => simp [Path.item, Path.key, Path.index] at same
      | method declared' listed' =>
          obtain ⟨outer, rfl⟩ := Path.item_inj.mp same
          obtain ⟨-, rfl⟩ := Path.item_inj.mp outer
          obtain rfl := Member.cls.inj (Option.some.inj (declared.symm.trans declared'))
          exact Option.some.inj (listed.symm.trans listed')

def Argument.isOptional (a : Argument) : Bool := !a.required

def Argument.isNamedOptional (a : Argument) : Bool := a.isOptional && !a.name.isEmpty

/-- The breach of the argument with index `i`, if it is required: it follows the first argument that
counts as optional. -/
def FunctionDecl.misplacement? (f : FunctionDecl) (counts : Argument → Bool) (i : Nat) :
    Option Breach := do
  let a ← f.arguments[i]?
  let optional ← (f.arguments.take i).find? counts
  if a.required then some (.requiredAfterOptional a.name optional.name) else none

theorem FunctionDecl.misplacement?_eq_some_iff {f : FunctionDecl} {counts : Argument → Bool}
    {i : Nat} {breach : Breach} :
    f.misplacement? counts i = some breach ↔
      ∃ a, f.arguments[i]? = some a ∧ ∃ o, (f.arguments.take i).find? counts = some o ∧
        a.required ∧ breach = .requiredAfterOptional a.name o.name := by
  simp only [misplacement?, Option.bind_eq_bind, Option.bind_eq_some_iff,
    Option.ite_none_right_eq_some, Option.some.injEq, @eq_comm Breach breach]

theorem Breach.category_eq_arity_iff {b : Breach} :
    b.category = ("arity" : Text) ↔ ∃ name optional, b = .requiredAfterOptional name optional := by
  constructor
  · intro arity
    by_contra other
    simp only [not_exists] at other
    exact Breach.category_ne_arity other arity
  · rintro ⟨name, optional, rfl⟩
    rfl

namespace Check

variable {path place : Path} {name optional : Text}

theorem mem_placement_iff {earlier : List Argument} {a : Argument} {v : Violation} :
    v ∈ placement path earlier.reverse a ↔
      ∃ o, earlier.find? Argument.isNamedOptional = some o ∧ a.required ∧
        v = ⟨path, .requiredAfterOptional a.name o.name⟩ := by
  have counts : (fun b : Argument => !b.required && !b.name.isEmpty) = Argument.isNamedOptional :=
    rfl
  rw [placement, firstOptional?, List.reverse_reverse, counts]
  cases a.required <;> cases earlier.find? Argument.isNamedOptional <;> simp

theorem mem_function_arity_iff {f : FunctionDecl} :
    ⟨place, .requiredAfterOptional name optional⟩ ∈ function path f ↔
      ∃ i, f.misplacement? Argument.isNamedOptional i =
        some (.requiredAfterOptional name optional) ∧ place = path.item "args" i := by
  have argument (i : Nat) (a : Argument) :
      ⟨place, .requiredAfterOptional name optional⟩ ∈
          argument (path.item "args" i) (f.arguments.take i).reverse a ↔
        ⟨place, .requiredAfterOptional name optional⟩ ∈
          placement (path.item "args" i) (f.arguments.take i).reverse a := by
    simp [argument, mem_require_iff, mem_typeName_iff]
  simp only [function, List.mem_append, mem_require_iff, mem_typeName_iff, mem_eachAfter_iff,
    argument, mem_placement_iff, Violation.mk.injEq, reduceCtorEq, and_false, exists_false,
    or_false, false_or]
  constructor
  · rintro ⟨i, a, found, o, first, required, rfl, breach⟩
    have broken := FunctionDecl.misplacement?_eq_some_iff.mpr ⟨a, found, o, first, required, breach⟩
    exact ⟨i, broken, rfl⟩
  · rintro ⟨i, misplaced, rfl⟩
    obtain ⟨a, found, o, first, required, breach⟩ :=
      FunctionDecl.misplacement?_eq_some_iff.mp misplaced
    exact ⟨i, a, found, o, first, required, rfl, breach⟩

theorem mem_classDecl_arity_iff {functions : List Text} {c : ClassDecl} :
    ⟨place, .requiredAfterOptional name optional⟩ ∈ classDecl path functions c ↔
      ⟨place, .requiredAfterOptional name optional⟩ ∈
          function (path.key "constructor") c.constructor ∨
        ∃ j f, c.methods[j]? = some f ∧
          ⟨place, .requiredAfterOptional name optional⟩ ∈ function (path.item "methods" j) f := by
  simp only [classDecl, property, method, List.mem_append, mem_eachAfter_iff, mem_require_iff,
    mem_typeName_iff, Violation.mk.injEq, reduceCtorEq, and_false, exists_false, or_false]

end Check

namespace Module

open Check

variable {m : Module}

/-- The rule about the order of arguments is broken where a required one follows an optional one
that has a name. -/
theorem mem_violations_arity_iff {place : Path} {name optional : Text} :
    ⟨place, .requiredAfterOptional name optional⟩ ∈ m.violations ↔
      ∃ path f, m.DeclaresAt path f ∧
        ⟨place, .requiredAfterOptional name optional⟩ ∈ function path f := by
  have member (path : Path) (earlier : List Member) (member : Member) :
      ⟨place, .requiredAfterOptional name optional⟩ ∈ globalFunction path earlier member ↔
        ∃ f, member = .function f ∧
          ⟨place, .requiredAfterOptional name optional⟩ ∈ Check.function path f := by
    cases member <;> simp [globalFunction, mem_require_iff]
  simp only [violations, List.mem_append, mem_require_iff, mem_eachAfter_iff, member,
    mem_classMember_iff, mem_classDecl_arity_iff, Violation.mk.injEq, reduceCtorEq, and_false,
    or_false, false_or]
  constructor
  · rintro (⟨i, _, declared, f, rfl, broken⟩ | ⟨i, _, declared, c, rfl, broken⟩)
    · exact ⟨_, f, .function declared, broken⟩
    · rcases broken with broken | ⟨j, f, listed, broken⟩
      · exact ⟨_, _, .constructor declared, broken⟩
      · exact ⟨_, f, .method declared listed, broken⟩
  · rintro ⟨_, f, h, broken⟩
    cases h with
    | function declared => exact .inl ⟨_, _, declared, f, rfl, broken⟩
    | constructor declared => exact .inr ⟨_, _, declared, _, rfl, .inl broken⟩
    | method declared listed => exact .inr ⟨_, _, declared, _, rfl, .inr ⟨_, f, listed, broken⟩⟩

/-- What is reported at a place about the order of arguments. -/
def misplacedAt (m : Module) (place : Path) : List Violation :=
  m.violations.filter fun v => v.path = place ∧ v.breach.category = ("arity" : Text)

theorem mem_misplacedAt_iff {path : Path} {f : FunctionDecl} (h : m.DeclaresAt path f) {i : Nat}
    {v : Violation} :
    v ∈ m.misplacedAt (path.item "args" i) ↔
      ∃ breach, f.misplacement? Argument.isNamedOptional i = some breach ∧
        v = ⟨path.item "args" i, breach⟩ := by
  rw [misplacedAt, List.mem_filter, decide_eq_true_eq]
  constructor
  · obtain ⟨place, breach⟩ := v
    rintro ⟨reported, rfl, arity⟩
    obtain ⟨name, optional, rfl⟩ := Breach.category_eq_arity_iff.mp arity
    obtain ⟨path', g, declared, broken⟩ := mem_violations_arity_iff.mp reported
    obtain ⟨j, misplaced, same⟩ := mem_function_arity_iff.mp broken
    obtain ⟨paths, rfl⟩ := Path.item_inj.mp same
    obtain rfl := h.unique declared paths
    exact ⟨_, misplaced, rfl⟩
  · rintro ⟨breach, misplaced, rfl⟩
    obtain ⟨a, -, o, -, -, rfl⟩ := FunctionDecl.misplacement?_eq_some_iff.mp misplaced
    have broken : _ ∈ function path f := mem_function_arity_iff.mpr ⟨i, misplaced, rfl⟩
    exact ⟨mem_violations_arity_iff.mpr ⟨path, f, h, broken⟩, rfl, rfl⟩

end Module

/-- What is to be reported about the argument with index `i` of a function at a path. -/
def FunctionDecl.misplaced (f : FunctionDecl) (path : Path) (counts : Argument → Bool) (i : Nat) :
    List Violation :=
  (f.misplacement? counts i).toList.map (Violation.mk (path.item "args" i))

namespace Module

variable {m : Module}

theorem DeclaresAt.misplacedAt_eq {path : Path} {f : FunctionDecl} (h : m.DeclaresAt path f)
    (i : Nat) :
    m.misplacedAt (path.item "args" i) = f.misplaced path Argument.isNamedOptional i := by
  have once : (m.misplacedAt (path.item "args" i)).Nodup := nodup_violations.filter _
  have same (v : Violation) := mem_misplacedAt_iff h (i := i) (v := v)
  rw [FunctionDecl.misplaced]
  cases misplaced : f.misplacement? Argument.isNamedOptional i with
  | none => exact List.eq_nil_iff_forall_not_mem.mpr fun v mem => by simp [same, misplaced] at mem
  | some breach =>
      have alone : (m.misplacedAt (path.item "args" i)).Perm [⟨path.item "args" i, breach⟩] := by
        rw [List.perm_ext_iff_of_nodup once (List.nodup_singleton _)]
        intro v
        rw [same, misplaced, List.mem_singleton]
        simp
      exact List.perm_singleton.mp alone

end Module

namespace Argument

variable {arguments : List Argument}

theorem find?_isNamedOptional_eq_some {o : Argument} (first : arguments.find? isOptional = some o)
    (named : o.name ≠ []) : arguments.find? isNamedOptional = some o := by
  rw [List.find?_eq_some_iff_append] at first ⊢
  obtain ⟨optional, ahead, behind, split, others⟩ := first
  refine ⟨by simp [isNamedOptional, optional, named], ahead, behind, split, fun a mem => ?_⟩
  have required : a.isOptional = false := by simpa using others a mem
  simp [isNamedOptional, required]

theorem isNamedOptional_iff {a : Argument} : a.isNamedOptional ↔ a.isOptional ∧ a.name ≠ [] := by
  simp [isNamedOptional]

theorem exists_find?_isOptional {o : Argument} (first : arguments.find? isNamedOptional = some o) :
    ∃ o', arguments.find? isOptional = some o' := by
  have optional := (isNamedOptional_iff.mp (List.find?_some first)).1
  rw [← Option.isSome_iff_exists, List.find?_isSome]
  exact ⟨o, List.mem_of_find?_eq_some first, optional⟩

end Argument

theorem FunctionDecl.misplaced_eq_iff {f : FunctionDecl} {path : Path}
    {counts counts' : Argument → Bool} {i : Nat} :
    f.misplaced path counts i = f.misplaced path counts' i ↔
      f.misplacement? counts i = f.misplacement? counts' i := by
  rw [misplaced, misplaced]
  cases f.misplacement? counts i <;> cases f.misplacement? counts' i <;> simp

/-- Passing over the optional arguments without a name makes no difference exactly if none of them
is the first. -/
theorem FunctionDecl.misplacement?_isNamedOptional_eq_iff {f : FunctionDecl} {i : Nat} :
    f.misplacement? Argument.isNamedOptional i = f.misplacement? Argument.isOptional i ↔
      ∀ name optional, f.misplacement? Argument.isOptional i =
        some (.requiredAfterOptional name optional) → optional ≠ [] := by
  constructor
  · intro same name optional misplaced
    rw [← same] at misplaced
    obtain ⟨a, -, o, first, -, breach⟩ := misplacement?_eq_some_iff.mp misplaced
    obtain ⟨-, rfl⟩ := Breach.requiredAfterOptional.inj breach
    exact (Argument.isNamedOptional_iff.mp (List.find?_some first)).2
  · intro named
    cases misplaced : f.misplacement? Argument.isOptional i with
    | some breach =>
        obtain ⟨a, found, o, first, required, rfl⟩ := misplacement?_eq_some_iff.mp misplaced
        have same := Argument.find?_isNamedOptional_eq_some first (named _ _ misplaced)
        exact misplacement?_eq_some_iff.mpr ⟨a, found, o, same, required, rfl⟩
    | none =>
        refine Option.eq_none_iff_forall_ne_some.mpr fun breach counted => ?_
        obtain ⟨a, found, o, first, required, -⟩ := misplacement?_eq_some_iff.mp counted
        obtain ⟨o', first'⟩ := Argument.exists_find?_isOptional first
        have some := misplacement?_eq_some_iff.mpr ⟨a, found, o', first', required, rfl⟩
        exact Option.some_ne_none _ (some.symm.trans misplaced)

namespace Module

/-- The order of arguments is a matter of declared functions only. A required argument of one is
reported once, at its place, if an optional argument that has a name comes before it, and then with
the name of the first; this is all that is to be reported exactly if no required argument comes
behind optional ones of which the first has no name. -/
theorem misplaced_reported_iff (m : Module) :
    (∀ v ∈ m.violations, v.breach.category = ("arity" : Text) →
      ∃ path f i, m.DeclaresAt path f ∧ v.path = path.item "args" i) ∧
    ∀ path f, m.DeclaresAt path f →
      (∀ i, m.misplacedAt (path.item "args" i) = f.misplaced path Argument.isNamedOptional i) ∧
      ((∀ i, m.misplacedAt (path.item "args" i) = f.misplaced path Argument.isOptional i) ↔
        ∀ i name optional, f.misplacement? Argument.isOptional i =
          some (.requiredAfterOptional name optional) → optional ≠ []) := by
  constructor
  · rintro ⟨place, breach⟩ reported arity
    obtain ⟨name, optional, rfl⟩ := Breach.category_eq_arity_iff.mp arity
    obtain ⟨path, f, declared, broken⟩ := mem_violations_arity_iff.mp reported
    obtain ⟨i, -, same⟩ := Check.mem_function_arity_iff.mp broken
    exact ⟨path, f, i, declared, same⟩
  · intro path f declared
    refine ⟨declared.misplacedAt_eq, forall_congr' fun i => ?_⟩
    rw [declared.misplacedAt_eq, FunctionDecl.misplaced_eq_iff,
      FunctionDecl.misplacement?_isNamedOptional_eq_iff]

/-- A unit with a function whose one optional argument, of this name, is declared first. -/
def reordered (optional : Text) : Module :=
  { id := "page"
    backing := "Page"
    members :=
      [.function ⟨"open", [⟨optional, .primitive .int32, false⟩, ⟨"url", .primitive .string, true⟩],
        .primitive .void⟩]
    implementation := [] }

theorem misplaced_reported_reordered :
    let m := reordered "depth"
    let path := m.root.item "members" 0
    ∃ f, m.DeclaresAt path f ∧
      m.misplacedAt (path.item "args" 1) =
        [⟨path.item "args" 1, .requiredAfterOptional "url" "depth"⟩] := by
  intro m path
  have declared : m.DeclaresAt path _ := .function rfl
  exact ⟨_, declared, ((misplaced_reported_iff m).2 path _ declared).1 1⟩

/-- An optional argument without a name is not remembered, and the required one behind it is not
reported. -/
theorem not_misplaced_reported_reordered :
    let m := reordered []
    let path := m.root.item "members" 0
    ∃ f, m.DeclaresAt path f ∧
      f.misplaced path Argument.isOptional 1 =
        [⟨path.item "args" 1, .requiredAfterOptional "url" []⟩] ∧
      m.misplacedAt (path.item "args" 1) = [] := by
  intro m path
  exact ⟨_, .function rfl, rfl, rfl⟩

end Module

end ScriptBinding
