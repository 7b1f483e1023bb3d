import ScriptBinding.Proofs.Interface.Breaches

/-!
What the check reports about classes and about a unit as a whole. What is reported about one element
stands at its place or below it, so that two elements never bring the same violation; and about one
element every breach is reported once.
-/
namespace ScriptBinding

namespace Check

section
variable {functions : List Text} {c : ClassDecl} {path : Path} {f : FunctionDecl} {v : Violation}

/-- What is said of a method as a member of its class. -/
def membership (functions : List Text) (properties : List PropertyDecl) (path : Path)
    (earlier : List FunctionDecl) (f : FunctionDecl) : List Violation :=
  require (!f.isConstructor) path .constructorMethod ++
  require (!earlier.any (·.name = f.name)) path (.repeatedMethod f.name) ++
  require (!functions.contains f.name) path (.methodAndFunction f.name) ++
  require (!properties.any (·.name = f.name)) path (.methodAndProperty f.name)

theorem method_eq (properties : List PropertyDecl) (earlier : List FunctionDecl) :
    method functions properties path earlier f =
      function path f ++ membership functions properties path earlier f := by
  simp only [method, membership, List.append_assoc]

theorem membership_sublist (properties : List PropertyDecl) (earlier : List FunctionDecl) :
    (membership functions properties path earlier f).Sublist
      [⟨path, .constructorMethod⟩, ⟨path, .repeatedMethod f.name⟩,
        ⟨path, .methodAndFunction f.name⟩, ⟨path, .methodAndProperty f.name⟩] :=
  (((require_sublist _).append (require_sublist _)).append (require_sublist _)).append
    (require_sublist _)

theorem mem_membership_iff {earlier : List FunctionDecl} :
    v ∈ membership functions c.properties path earlier.reverse f ↔
      ∃ breach, c.BreaksMethod functions f earlier breach ∧ v = ⟨path, breach⟩ := by
  have plain : f.isConstructor ↔ f.name = constructorName := by simp [FunctionDecl.isConstructor]
  have free : functions.contains f.name ↔ f.name ∈ functions := by simp
  have other : (c.properties.any fun p => p.name = f.name) ↔
      f.name ∈ c.properties.map (·.name) := by simp
  simp only [membership, List.mem_append, mem_require_iff, not_kept_iff, any_name_reverse_iff,
    plain, free, other]
  constructor
  · rintro (((⟨named, rfl⟩ | ⟨taken, rfl⟩) | ⟨taken, rfl⟩) | ⟨taken, rfl⟩)
    · exact ⟨_, .constructor named, rfl⟩
    · exact ⟨_, .repeated taken, rfl⟩
    · exact ⟨_, .function taken, rfl⟩
    · exact ⟨_, .property taken, rfl⟩
  · rintro ⟨breach, broken, rfl⟩
    cases broken with
    | constructor named => exact .inl (.inl (.inl ⟨named, rfl⟩))
    | repeated taken => exact .inl (.inl (.inr ⟨taken, rfl⟩))
    | function taken => exact .inl (.inr ⟨taken, rfl⟩)
    | property taken => exact .inr ⟨taken, rfl⟩

theorem within_of_mem_method {properties : List PropertyDecl} {earlier : List FunctionDecl}
    (mem : v ∈ method functions properties path earlier f) : path.Within v.path := by
  rw [method_eq, List.mem_append] at mem
  rcases mem with mem | mem
  · exact within_of_mem_function mem
  · have found := (membership_sublist properties earlier).subset mem
    simp only [List.mem_cons, List.not_mem_nil, or_false] at found
    rcases found with rfl | rfl | rfl | rfl <;> exact .refl _

theorem nodup_method (properties : List PropertyDecl) (earlier : List FunctionDecl) :
    (method functions properties path earlier f).Nodup := by
  have listed : (membership functions properties path earlier f).Sublist _ :=
    membership_sublist properties earlier
  rw [method_eq]
  refine nodup_function.append (listed.nodup (by simp)) fun v own shared => ?_
  have found := listed.subset shared
  simp only [List.mem_cons, List.not_mem_nil, or_false] at found
  rcases found with rfl | rfl | rfl | rfl <;> exact nomatch breach_of_mem_function own

theorem within_of_mem_properties (i : Nat) (earlier : List PropertyDecl) (p : PropertyDecl) :
    ∀ v ∈ property (path.item "properties" i) earlier p,
      (path.item "properties" i).Within v.path := by
  intro v mem
  rw [path_of_mem_property mem]
  exact .refl _

theorem within_of_mem_methods (properties : List PropertyDecl) (i : Nat)
    (earlier : List FunctionDecl) (f : FunctionDecl) :
    ∀ v ∈ method functions properties (path.item "methods" i) earlier f,
      (path.item "methods" i).Within v.path :=
  fun _ mem => within_of_mem_method mem

theorem mem_classDecl_iff (other : v.breach.category ≠ ("arity" : Text)) :
    v ∈ classDecl path functions c ↔ c.Breaks functions path v := by
  simp only [classDecl, method_eq, List.mem_append, mem_eachAfter_iff, mem_function_iff other,
    mem_property_iff, mem_membership_iff]
  constructor
  · rintro ((broken | ⟨j, p, declared, breach, broken, rfl⟩) |
      ⟨j, f, declared, broken | ⟨breach, broken, rfl⟩⟩)
    · exact .constructor broken
    · exact .property declared broken
    · exact .function declared broken
    · exact .method declared broken
  · intro broken
    cases broken with
    | constructor broken => exact .inl (.inl broken)
    | property declared broken => exact .inl (.inr ⟨_, _, declared, _, broken, rfl⟩)
    | function declared broken => exact .inr ⟨_, _, declared, .inl broken⟩
    | method declared broken => exact .inr ⟨_, _, declared, .inr ⟨_, broken, rfl⟩⟩

/-- What is said of a class stands below one of its three members. -/
theorem exists_key_of_mem_classDecl (mem : v ∈ classDecl path functions c) :
    ∃ name, (path.key name).Within v.path := by
  rw [classDecl, List.mem_append, List.mem_append] at mem
  rcases mem with (mem | mem) | mem
  · exact ⟨_, within_of_mem_function mem⟩
  · exact ⟨_, within_of_mem_eachAfter within_of_mem_properties mem⟩
  · exact ⟨_, within_of_mem_eachAfter (within_of_mem_methods _) mem⟩

theorem nodup_classDecl : (classDecl path functions c).Nodup := by
  have properties : (eachAfter (fun i => property (path.item "properties" i)) c.properties).Nodup :=
    nodup_eachAfter within_of_mem_properties fun i => nodup_property
  have methods : (eachAfter (fun i => method functions c.properties (path.item "methods" i))
      c.methods).Nodup :=
    nodup_eachAfter (within_of_mem_methods _) fun i earlier f => nodup_method _ earlier
  refine (nodup_function.append properties fun v own later => ?_).append methods
    fun v earlier later => ?_
  · have below := within_of_mem_eachAfter within_of_mem_properties later
    exact absurd ((within_of_mem_function own).key_inj below) (by decide)
  · have below := within_of_mem_eachAfter (within_of_mem_methods _) later
    rcases List.mem_append.mp earlier with own | property
    · exact absurd ((within_of_mem_function own).key_inj below) (by decide)
    · exact absurd ((within_of_mem_eachAfter within_of_mem_properties property).key_inj below)
        (by decide)

end

section
variable {functions : List Text} {path : Path} {member : Member} {v : Violation}

theorem mem_globalFunction_iff {earlier : List Member}
    (other : v.breach.category ≠ ("arity" : Text)) :
    v ∈ globalFunction path earlier.reverse member ↔
      ∃ f, member = .function f ∧ (f.Breaks path v ∨
        (∃ g, .function g ∈ earlier ∧ g.name = f.name) ∧ v = ⟨path, .repeatedFunction f.name⟩) := by
  cases member with
  | cls c => simp [globalFunction]
  | function f =>
      have taken : (earlier.reverse.any (isFunctionNamed f.name)) ↔
          ∃ g, .function g ∈ earlier ∧ g.name = f.name := by
        rw [List.any_reverse, List.any_eq_true]
        constructor
        · rintro ⟨b, listed, named⟩
          cases b with
          | function g => exact ⟨g, listed, of_decide_eq_true named⟩
          | cls _ => exact absurd named Bool.false_ne_true
        · rintro ⟨g, listed, same⟩
          exact ⟨_, listed, decide_eq_true same⟩
      simp only [globalFunction, List.mem_append, mem_function_iff other, mem_require_iff,
        not_kept_iff, taken, Member.function.injEq, exists_eq_left']

theorem within_of_mem_globalFunction {earlier : List Member}
    (mem : v ∈ globalFunction path earlier member) : path.Within v.path := by
  cases member with
  | cls c => exact nomatch mem
  | function f =>
      rcases List.mem_append.mp mem with own | repeated
      · exact within_of_mem_function own
      · rw [(mem_require_iff.mp repeated).2]
        exact .refl _

theorem nodup_globalFunction (earlier : List Member) (member : Member) :
    (globalFunction path earlier member).Nodup := by
  cases member with
  | cls c => exact List.nodup_nil
  | function f =>
      refine nodup_function.append ((require_sublist _).nodup (List.nodup_singleton _))
        fun v own repeated => ?_
      obtain rfl := (mem_require_iff.mp repeated).2
      exact nomatch breach_of_mem_function own

theorem mem_classMember_iff :
    v ∈ classMember path functions member ↔
      ∃ c, member = .cls c ∧ v ∈ classDecl path functions c := by
  cases member <;> simp [classMember]

theorem within_of_mem_classMember (mem : v ∈ classMember path functions member) :
    path.Within v.path := by
  obtain ⟨c, -, mem⟩ := mem_classMember_iff.mp mem
  obtain ⟨name, below⟩ := exists_key_of_mem_classDecl mem
  exact below.of_key

theorem nodup_classMember (member : Member) : (classMember path functions member).Nodup := by
  cases member with
  | function f => exact List.nodup_nil
  | cls c => exact nodup_classDecl

end

end Check

namespace Module

open Check

section
variable (m : Module)

/-- What is said of the names of a unit. -/
def nameViolations : List Violation :=
  require m.id.isIdentifier m.root (.badModuleId m.id) ++
  require m.backing.isIdentifier m.root (.badBacking m.backing)

/-- What is said of the classes of a unit as a whole. -/
def classCountViolations : List Violation :=
  require (!(m.hasClass && (m.functions.map (·.name)).contains m.backing)) m.root
    (.functionAndClass m.backing) ++
  require (m.classes.length ≤ 1) m.root (.severalClasses m.classes.length)

def functionViolations : List Violation :=
  eachAfter (fun i => globalFunction (m.root.item "members" i)) m.members

def classViolations : List Violation :=
  eachAfter (fun i _ => classMember (m.root.item "members" i) (m.functions.map (·.name))) m.members

/-- What is said of a unit at its root. -/
def rootViolations : List Violation := m.nameViolations ++ m.classCountViolations

theorem violations_perm :
    m.violations.Perm (m.rootViolations ++ (m.functionViolations ++ m.classViolations)) := by
  have moved := (List.perm_append_comm_assoc m.functionViolations m.classCountViolations
    m.classViolations).append_left m.nameViolations
  simpa only [violations, rootViolations, nameViolations, classCountViolations, functionViolations,
    classViolations, List.append_assoc] using moved

theorem rootViolations_sublist :
    m.rootViolations.Sublist
      [⟨m.root, .badModuleId m.id⟩, ⟨m.root, .badBacking m.backing⟩,
        ⟨m.root, .functionAndClass m.backing⟩, ⟨m.root, .severalClasses m.classes.length⟩] :=
  ((require_sublist _).append (require_sublist _)).append
    ((require_sublist _).append (require_sublist _))

end

variable {m : Module} {v : Violation}

theorem path_of_mem_rootViolations (mem : v ∈ m.rootViolations) : v.path = m.root := by
  have found := m.rootViolations_sublist.subset mem
  simp only [List.mem_cons, List.not_mem_nil, or_false] at found
  rcases found with rfl | rfl | rfl | rfl <;> rfl

theorem mem_rootViolations_iff :
    v ∈ m.rootViolations ↔
      ¬ m.id.isIdentifier ∧ v = ⟨m.root, .badModuleId m.id⟩ ∨
      ¬ m.backing.isIdentifier ∧ v = ⟨m.root, .badBacking m.backing⟩ ∨
      (m.hasClass ∧ m.backing ∈ m.functions.map (·.name)) ∧
        v = ⟨m.root, .functionAndClass m.backing⟩ ∨
      1 < m.classes.length ∧ v = ⟨m.root, .severalClasses m.classes.length⟩ := by
  have clash : (m.hasClass && (m.functions.map (·.name)).contains m.backing) = true ↔
      m.hasClass ∧ m.backing ∈ m.functions.map (·.name) := by
    rw [Bool.and_eq_true, List.contains_iff_mem]
  simp only [rootViolations, nameViolations, classCountViolations, List.mem_append,
    mem_require_iff, not_kept_iff, clash, decide_eq_true_eq, Nat.not_le, or_assoc]

theorem within_of_mem_functionMembers (i : Nat) (earlier : List Member) (member : Member) :
    ∀ v ∈ globalFunction (m.root.item "members" i) earlier member,
      (m.root.item "members" i).Within v.path :=
  fun _ mem => within_of_mem_globalFunction mem

theorem within_of_mem_classMembers (functions : List Text) (i : Nat) (earlier : List Member)
    (member : Member) :
    ∀ v ∈ (fun i (_ : List Member) => classMember (m.root.item "members" i) functions) i earlier
      member, (m.root.item "members" i).Within v.path :=
  fun _ mem => within_of_mem_classMember mem

/-- What is said of a member stands below the root. -/
theorem within_of_mem_memberViolations (mem : v ∈ m.functionViolations ++ m.classViolations) :
    (m.root.key "members").Within v.path := by
  rcases List.mem_append.mp mem with mem | mem
  · exact within_of_mem_eachAfter within_of_mem_functionMembers mem
  · exact within_of_mem_eachAfter (within_of_mem_classMembers _) mem

theorem nodup_memberViolations : (m.functionViolations ++ m.classViolations).Nodup := by
  have functions : m.functionViolations.Nodup :=
    nodup_eachAfter within_of_mem_functionMembers fun i => nodup_globalFunction
  have classes : m.classViolations.Nodup :=
    nodup_eachAfter (within_of_mem_classMembers _) fun i _ => nodup_classMember
  refine functions.append classes fun v function cls => ?_
  obtain ⟨i, a, found, said⟩ := mem_eachAfter_iff.mp function
  obtain ⟨j, b, found', said'⟩ := mem_eachAfter_iff.mp cls
  obtain rfl := (within_of_mem_globalFunction said).item_inj (within_of_mem_classMember said')
  obtain ⟨c, rfl, -⟩ := mem_classMember_iff.mp said'
  rw [found'] at found
  obtain rfl := Option.some.inj found
  exact nomatch said

/-- Nothing is reported twice. -/
theorem nodup_violations : m.violations.Nodup := by
  rw [m.violations_perm.nodup_iff]
  refine (m.rootViolations_sublist.nodup (by simp)).append nodup_memberViolations
    fun v root member => ?_
  have below := within_of_mem_memberViolations member
  rw [path_of_mem_rootViolations root] at below
  exact Path.not_key_within below

theorem mem_violations_iff (other : v.breach.category ≠ ("arity" : Text)) :
    v ∈ m.violations ↔ m.Breaks v := by
  rw [m.violations_perm.mem_iff]
  simp only [List.mem_append, mem_rootViolations_iff, functionViolations, classViolations,
    mem_eachAfter_iff, mem_globalFunction_iff other, mem_classMember_iff, mem_classDecl_iff other]
  constructor
  · rintro ((⟨bad, rfl⟩ | ⟨bad, rfl⟩ | ⟨⟨cls, taken⟩, rfl⟩ | ⟨several, rfl⟩) |
      ⟨i, _, declared, f, rfl, broken | ⟨⟨g, earlier, same⟩, rfl⟩⟩ |
      ⟨i, _, declared, c, rfl, broken⟩)
    · exact .id bad
    · exact .backing bad
    · exact .functionAndClass cls taken
    · exact .severalClasses several
    · exact .function declared broken
    · exact .repeatedFunction declared earlier same
    · exact .cls declared broken
  · intro broken
    cases broken with
    | id bad => exact .inl (.inl ⟨bad, rfl⟩)
    | backing bad => exact .inl (.inr (.inl ⟨bad, rfl⟩))
    | functionAndClass cls taken => exact .inl (.inr (.inr (.inl ⟨⟨cls, taken⟩, rfl⟩)))
    | severalClasses several => exact .inl (.inr (.inr (.inr ⟨several, rfl⟩)))
    | function declared broken => exact .inr (.inl ⟨_, _, declared, _, rfl, .inl broken⟩)
    | repeatedFunction declared earlier same =>
        exact .inr (.inl ⟨_, _, declared, _, rfl, .inr ⟨⟨_, earlier, same⟩, rfl⟩⟩)
    | cls declared broken => exact .inr (.inr ⟨_, _, declared, _, rfl, broken⟩)

end Module

theorem Breach.category_ne_arity {b : Breach}
    (other : ∀ name optional, b ≠ .requiredAfterOptional name optional) :
    b.category ≠ ("arity" : Text) := by
  cases b with
  | requiredAfterOptional name optional => exact absurd rfl (other name optional)
  | badTypeName _ | voidArgument _ | voidProperty _ =>
      exact (by decide : ("types" : Text) ≠ "arity")
  | severalClasses _ | secondConstructor => exact (by decide : ("classes" : Text) ≠ "arity")
  | badName _ | badModuleId _ | badBacking _ | repeatedFunction _ | repeatedArgument _
  | repeatedProperty _ | repeatedMethod _ | constructorMethod | methodAndFunction _
  | methodAndProperty _ | functionAndClass _ =>
      exact (by decide : ("names" : Text) ≠ "arity")

section
variable {functions : List Text} {path : Path} {v : Violation}

/-! No rule stated here is about the order of required and optional arguments. -/

theorem FunctionDecl.Breaks.category_ne {f : FunctionDecl} (h : f.Breaks path v) :
    v.breach.category ≠ ("arity" : Text) := by
  cases h with
  | name _ | result _ _ => exact Breach.category_ne_arity nofun
  | argument _ broken => cases broken <;> exact Breach.category_ne_arity nofun

theorem ClassDecl.Breaks.category_ne {c : ClassDecl} (h : c.Breaks functions path v) :
    v.breach.category ≠ ("arity" : Text) := by
  cases h with
  | constructor broken | function _ broken => exact broken.category_ne
  | property _ broken | method _ broken =>
      cases broken <;> exact Breach.category_ne_arity nofun

theorem Module.Breaks.category_ne {m : Module} (h : m.Breaks v) :
    v.breach.category ≠ ("arity" : Text) := by
  cases h with
  | id _ | backing _ | functionAndClass _ _ | severalClasses _ | repeatedFunction _ _ _ =>
      exact Breach.category_ne_arity nofun
  | function _ broken => exact broken.category_ne
  | cls _ broken => exact broken.category_ne

end

/-- The order of required and optional arguments aside, the check reports every breach of a rule at
the element that breaks it, nothing else, and nothing twice. -/
theorem Module.breaches_reported_once (m : Module) :
    let reported := m.violations.filter fun v => v.breach.category ≠ ("arity" : Text)
    reported.Nodup ∧ ∀ v, v ∈ reported ↔ m.Breaks v := by
  refine ⟨nodup_violations.filter _, fun v => ?_⟩
  rw [List.mem_filter, decide_eq_true_eq]
  constructor
  · rintro ⟨mem, other⟩
    exact (mem_violations_iff other).mp mem
  · intro broken
    exact ⟨(mem_violations_iff broken.category_ne).mpr broken, broken.category_ne⟩

/-- Of two functions of one name the second is reported. -/
example :
    (Module.mk "a" "A" (List.replicate 2 (.function ⟨"f", [], .primitive .void⟩)) []).violations.map
        Violation.written =
      (["error:a.members[1]: [names] duplicate function 'f'"] : List Text) := by
  decide

end ScriptBinding
