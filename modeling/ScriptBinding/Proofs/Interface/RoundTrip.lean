import ScriptBinding.Interface.Report
import ScriptBinding.Proofs.Interface.Loading
import ScriptBinding.Proofs.Interface.Representable

/-!
Units that are reported and loaded again. A representable unit comes back as it was, and what is
loaded, from whatever node, is representable.
-/
namespace ScriptBinding

namespace Load

/-- What is reported is loaded again as it was, at any place. -/
def RoundTrips {α : Type} (report : Except Unreportable Json)
    (load : Path → Json → Except LoadError α) (a : α) : Prop :=
  ∃ node, report = .ok node ∧ ∀ path, load path node = .ok a

theorem type_roundTrips {t : ValueType} (h : t.Representable) {depth : Nat}
    (shallow : t.nesting ≤ depth) : RoundTrips t.report (type depth) t := by
  induction t generalizing depth with
  | primitive p =>
      refine ⟨.str p.name, rfl, ?_⟩
      intro path
      rw [type, ValueType.ofName, Primitive.ofName?_name h]
  | interface name =>
      refine ⟨.str name, rfl, ?_⟩
      intro path
      rw [type, ValueType.ofName, Primitive.ofName?_eq_none h]
  | sequence element ih =>
      cases depth with
      | zero => exact absurd shallow (Nat.not_succ_le_zero _)
      | succ depth =>
          obtain ⟨node, reported, loaded⟩ := ih h (Nat.le_of_succ_le_succ shallow)
          refine ⟨.obj [("sequence", node)], by rw [ValueType.report, reported]; rfl, ?_⟩
          intro path
          rw [type, sequenceType, if_pos rfl]
          simp only [loaded]
          rfl
  | promise | owned _ => exact h.elim

theorem result_roundTrips {t : ValueType} (h : t.RepresentableResult) {depth : Nat}
    (shallow : t.nesting ≤ depth) : RoundTrips t.reportResult (result depth) t := by
  cases t with
  | primitive p =>
      refine ⟨.str p.name, rfl, ?_⟩
      intro path
      have notPromise : p.name ≠ "Promise" := by
        intro same
        have listed : p.name ∈ Primitive.kinds := h
        rw [same] at listed
        exact absurd listed (by decide)
      simp only [result, if_neg notPromise, Primitive.ofName?_name h]
  | interface name =>
      refine ⟨.obj [("converted", .str name)], rfl, ?_⟩
      intro path
      exact map_eq_ok_iff.mpr ⟨name, text_eq_ok_iff.mpr ⟨rfl, h⟩, rfl⟩
  | sequence element =>
      obtain ⟨node, reported, loaded⟩ := type_roundTrips (t := .sequence element) h shallow
      refine ⟨node, reported, ?_⟩
      intro path
      obtain ⟨inner, -, made⟩ := bind_eq_ok_iff.mp reported
      obtain rfl := Except.ok.inj made
      exact loaded path
  | promise => exact ⟨.str "Promise", rfl, fun path => rfl⟩
  | owned name =>
      refine ⟨.str name, rfl, ?_⟩
      intro path
      simp only [result, if_neg h.2, Primitive.ofName?_eq_none h.1]

section
variable {α : Type} {load : Path → Json → Except LoadError α} {as : List α}

theorem eachFrom_roundTrips {report : α → Except Unreportable Json}
    (h : ∀ a ∈ as, RoundTrips (report a) load a) :
    ∃ nodes, as.mapM report = .ok nodes ∧ ∀ (place : Nat → Path) (start : Nat),
      eachFrom (fun i node => load (place i) node) start nodes = .ok as := by
  induction as with
  | nil => exact ⟨[], rfl, fun _ _ => rfl⟩
  | cons a rest ih =>
      obtain ⟨first, others⟩ := List.forall_mem_cons.mp h
      obtain ⟨node, reported, loaded⟩ := first
      obtain ⟨nodes, others_reported, others_loaded⟩ := ih others
      refine ⟨node :: nodes, ?_, ?_⟩
      · rw [List.mapM_cons, reported, others_reported]
        rfl
      · intro place start
        rw [eachFrom, loaded, others_loaded]
        rfl

end

theorem argument_roundTrips {a : Argument} (h : a.Representable)
    (shallow : a.type.nesting ≤ typeDepth) : RoundTrips a.report argument a := by
  obtain ⟨node, reported, loaded⟩ := type_roundTrips h.type shallow
  refine ⟨.obj [("name", .str a.name), ("type", node), ("required", .bool a.required)], ?_, ?_⟩
  · rw [Argument.report, reported]
    rfl
  · intro path
    exact argument_eq_ok_iff.mpr ⟨_, rfl, text_str _ h.name, loaded _, rfl⟩

theorem property_roundTrips {p : PropertyDecl} (h : p.Representable)
    (shallow : p.type.nesting ≤ typeDepth) : RoundTrips p.report property p := by
  obtain ⟨node, reported, loaded⟩ := type_roundTrips h.type shallow
  refine ⟨.obj [("name", .str p.name), ("type", node), ("readonly", .bool p.readOnly)], ?_, ?_⟩
  · rw [PropertyDecl.report, reported]
    rfl
  · intro path
    exact property_eq_ok_iff.mpr ⟨_, rfl, text_str _ h.name, loaded _, rfl⟩

/-- The members of a function are loaded as it was with any others behind them, and whatever name
it might have had. -/
theorem function_roundTrips {f : FunctionDecl} (h : f.Representable) (shallow : Shallow f.types) :
    ∃ members, f.reportMembers = .ok members ∧ Json.find? members "kind" = none ∧
      ∀ others defaultName path, function defaultName path (.obj (members ++ others)) = .ok f := by
  obtain ⟨resultShallow, argumentsShallow⟩ := List.forall_mem_cons.mp shallow
  obtain ⟨result, resultReported, resultLoaded⟩ := result_roundTrips h.result resultShallow
  obtain ⟨nodes, reported, loaded⟩ := eachFrom_roundTrips fun a mem =>
    argument_roundTrips (h.arguments a mem) (argumentsShallow a.type (List.mem_map_of_mem mem))
  refine ⟨[("name", .str f.name), ("args", .arr nodes), ("return", result)], ?_, rfl, ?_⟩
  · rw [FunctionDecl.reportMembers, reported, resultReported]
    rfl
  · intro others defaultName path
    exact function_eq_ok_iff.mpr ⟨_, rfl, text_str _ h.name, loaded _ 0, resultLoaded _⟩

theorem functionAlone_roundTrips {f : FunctionDecl} (h : f.Representable)
    (shallow : Shallow f.types) (defaultName : Text) :
    RoundTrips f.report (function defaultName) f := by
  obtain ⟨members, reported, -, loaded⟩ := function_roundTrips h shallow
  refine ⟨.obj members, ?_, ?_⟩
  · rw [FunctionDecl.report, reported]
    rfl
  · intro path
    simpa using loaded [] defaultName path

theorem classDecl_roundTrips {c : ClassDecl} (h : c.Representable) (shallow : Shallow c.types) :
    ∃ members, c.report = .ok (.obj members) ∧ Json.member members "kind" = .str "class" ∧
      ∀ path, classDecl path members = .ok c := by
  obtain ⟨before, ofMethods⟩ := List.forall_mem_append.mp shallow
  obtain ⟨ofConstructor, ofProperties⟩ := List.forall_mem_append.mp before
  obtain ⟨made, madeReported, madeLoaded⟩ :=
    functionAlone_roundTrips h.constructor ofConstructor constructorName
  obtain ⟨properties, propertiesReported, propertiesLoaded⟩ := eachFrom_roundTrips fun p mem =>
    property_roundTrips (h.properties p mem) (ofProperties p.type (List.mem_map_of_mem mem))
  obtain ⟨methods, methodsReported, methodsLoaded⟩ := eachFrom_roundTrips fun f mem =>
    functionAlone_roundTrips (h.methods f mem)
      (fun t listed => ofMethods t (List.mem_flatMap.mpr ⟨f, mem, listed⟩)) []
  refine ⟨[("kind", .str "class"), ("constructor", made), ("properties", .arr properties),
    ("methods", .arr methods)], ?_, rfl, ?_⟩
  · rw [ClassDecl.report, madeReported, propertiesReported, methodsReported]
    rfl
  · intro path
    refine classDecl_eq_ok_iff.mpr ⟨?_, propertiesLoaded _ 0, methodsLoaded _ 0⟩
    obtain ⟨members, -, same⟩ := map_eq_ok_iff.mp madeReported
    exact same ▸ madeLoaded _

theorem member_roundTrips {m : Member} (h : m.Representable) (shallow : Shallow m.types) :
    RoundTrips m.report member m := by
  cases m with
  | function f =>
      obtain ⟨members, reported, unmarked, loaded⟩ := function_roundTrips h shallow
      let kind : Text × Json := ("kind", .str "function")
      have marked : Json.member (members ++ [kind]) "kind" = .str "function" := by
        rw [Json.find?] at unmarked
        simp [Json.member, Json.find?, List.lookup_append, unmarked, kind]
      refine ⟨.obj (members ++ [kind]), ?_, ?_⟩
      · rw [Member.report, reported]
        rfl
      · intro path
        exact member_eq_ok_iff.mpr ⟨_, rfl, .inl ⟨f, rfl, marked, loaded _ [] path⟩⟩
  | cls c =>
      obtain ⟨members, reported, kind, loaded⟩ := classDecl_roundTrips h shallow
      refine ⟨.obj members, reported, ?_⟩
      intro path
      exact member_eq_ok_iff.mpr ⟨members, rfl, .inr ⟨c, rfl, kind, loaded path⟩⟩

theorem oneModule_roundTrips {m : Module} (h : m.Representable) (shallow : Shallow m.types) :
    RoundTrips m.report oneModule m := by
  obtain ⟨members, reported, loaded⟩ := eachFrom_roundTrips fun member mem =>
    member_roundTrips (h.members member mem) fun t listed =>
      shallow t (List.mem_flatMap.mpr ⟨member, mem, listed⟩)
  let fields : List (Text × Json) :=
    [("id", .str m.id), ("backing_type", .str m.backing), ("members", .arr members)]
  let implementation : List (Text × Json) :=
    if m.implementation.isEmpty then [] else [("impl", .str m.implementation)]
  refine ⟨.obj (fields ++ implementation), ?_, ?_⟩
  · rw [Module.report, reported]
    rfl
  · intro path
    refine oneModule_eq_ok_iff.mpr
      ⟨_, rfl, text_str _ h.id, loaded _ 0, text_str _ h.backing, ?_⟩
    cases named : m.implementation with
    | nil => simp only [implementation, named]; rfl
    | cons p rest => simp only [implementation, named]; rfl

/-- A type that is loaded has a notation of its own, and is nested no deeper than it is read. -/
theorem representable_of_type {depth : Nat} {path : Path} {node : Json} {t : ValueType}
    (loaded : type depth path node = .ok t) : t.Representable ∧ t.nesting ≤ depth := by
  induction depth using Nat.strongRecOn generalizing path node t with
  | ind depth ih =>
      obtain ⟨name, -, rfl⟩ | ⟨_, -, inner, _, _, element, rfl, rfl, found, -⟩ :=
        cases_of_type loaded
      · rw [ValueType.ofName]
        cases found : Primitive.ofName? name with
        | some p => exact ⟨Primitive.mem_kinds_of_ofName? found, Nat.zero_le depth⟩
        | none => exact ⟨Primitive.not_mem_kinds_of_ofName? found, Nat.zero_le depth⟩
      · obtain ⟨representable, shallow⟩ := ih inner (Nat.lt_succ_self inner) found
        exact ⟨representable, Nat.succ_le_succ shallow⟩

theorem representable_of_result {depth : Nat} {path : Path} {node : Json} {t : ValueType}
    (loaded : result depth path node = .ok t) :
    t.RepresentableResult ∧ t.nesting ≤ depth := by
  obtain ⟨-, rfl⟩ | ⟨name, -, rfl | ⟨p, found, rfl⟩ | ⟨absent, other, rfl⟩⟩ |
    ⟨_, rfl, ⟨_, _, name, -, read, rfl⟩ | typed⟩ := cases_of_result loaded
  · have listed : Primitive.void.name ∈ Primitive.kinds := by decide
    exact ⟨listed, Nat.zero_le depth⟩
  · exact ⟨trivial, Nat.zero_le depth⟩
  · exact ⟨Primitive.mem_kinds_of_ofName? found, Nat.zero_le depth⟩
  · exact ⟨⟨Primitive.not_mem_kinds_of_ofName? absent, other⟩, Nat.zero_le depth⟩
  · exact ⟨(text_eq_ok_iff.mp read).2, Nat.zero_le depth⟩
  · have fits := representable_of_type typed
    rw [type] at typed
    obtain ⟨_, _, _, element, -, rfl, -⟩ := sequence_of_sequenceType typed
    exact fits

theorem representable_of_argument {path : Path} {node : Json} {a : Argument}
    (loaded : argument path node = .ok a) : a.Representable ∧ a.type.nesting ≤ typeDepth := by
  obtain ⟨members, -, named, typed, -⟩ := argument_eq_ok_iff.mp loaded
  obtain ⟨representable, shallow⟩ := representable_of_type typed
  exact ⟨⟨(text_eq_ok_iff.mp named).2, representable⟩, shallow⟩

theorem representable_of_property {path : Path} {node : Json} {p : PropertyDecl}
    (loaded : property path node = .ok p) : p.Representable ∧ p.type.nesting ≤ typeDepth := by
  obtain ⟨members, -, named, typed, -⟩ := property_eq_ok_iff.mp loaded
  obtain ⟨representable, shallow⟩ := representable_of_type typed
  exact ⟨⟨(text_eq_ok_iff.mp named).2, representable⟩, shallow⟩

theorem ne_nil_of_nameOr {defaultName : Text} {path : Path} {node : Json} {t : Text}
    (named : nameOr defaultName path node = .ok t) : t ≠ [] := by
  rw [nameOr.eq_def] at named
  split at named
  · obtain rfl := Except.ok.inj named
    exact List.cons_ne_nil _ _
  · exact (text_eq_ok_iff.mp named).2

theorem representable_of_function {defaultName : Text} {path : Path} {node : Json}
    {f : FunctionDecl} (loaded : function defaultName path node = .ok f) :
    f.Representable ∧ Shallow f.types := by
  obtain ⟨members, -, named, listed, resulted⟩ := function_eq_ok_iff.mp loaded
  obtain ⟨result, resultShallow⟩ := representable_of_result resulted
  have arguments := forall_of_each (fun _ _ _ => representable_of_argument) listed
  refine ⟨⟨ne_nil_of_nameOr named, fun a mem => (arguments a mem).1, result⟩, ?_⟩
  refine List.forall_mem_cons.mpr ⟨resultShallow, ?_⟩
  intro t mem
  obtain ⟨a, declared, rfl⟩ := List.mem_map.mp mem
  exact (arguments a declared).2

theorem representable_of_constructorOr {path : Path} {node : Json} {f : FunctionDecl}
    (made : constructorOr path node = .ok f) : f.Representable ∧ Shallow f.types := by
  rw [constructorOr.eq_def] at made
  split at made
  · obtain rfl := Except.ok.inj made
    have listed : Primitive.void.name ∈ Primitive.kinds := by decide
    refine ⟨⟨by decide, fun a mem => absurd mem List.not_mem_nil, listed⟩, ?_⟩
    exact List.forall_mem_singleton.mpr (Nat.zero_le typeDepth)
  · exact representable_of_function made

theorem representable_of_classDecl {path : Path} {members : List (Text × Json)} {c : ClassDecl}
    (loaded : classDecl path members = .ok c) : c.Representable ∧ Shallow c.types := by
  obtain ⟨made, listed, followed⟩ := classDecl_eq_ok_iff.mp loaded
  obtain ⟨constructor, ofConstructor⟩ := representable_of_constructorOr made
  have properties := forall_of_each (fun _ _ _ => representable_of_property) listed
  have methods := forall_of_each (fun _ _ _ => representable_of_function) followed
  refine ⟨⟨constructor, fun p mem => (properties p mem).1, fun f mem => (methods f mem).1⟩, ?_⟩
  refine List.forall_mem_append.mpr ⟨List.forall_mem_append.mpr ⟨ofConstructor, ?_⟩, ?_⟩
  · intro t mem
    obtain ⟨p, declared, rfl⟩ := List.mem_map.mp mem
    exact (properties p declared).2
  · intro t mem
    obtain ⟨f, declared, listed⟩ := List.mem_flatMap.mp mem
    exact (methods f declared).2 t listed

theorem representable_of_member {path : Path} {node : Json} {m : Member}
    (loaded : member path node = .ok m) : m.Representable ∧ Shallow m.types := by
  obtain ⟨members, -, ⟨f, rfl, -, read⟩ | ⟨c, rfl, -, read⟩⟩ := member_eq_ok_iff.mp loaded
  · exact representable_of_function read
  · exact representable_of_classDecl read

theorem representable_of_oneModule {path : Path} {node : Json} {m : Module}
    (loaded : oneModule path node = .ok m) : m.Representable ∧ Shallow m.types := by
  obtain ⟨fields, -, named, listed, backed, -⟩ := oneModule_eq_ok_iff.mp loaded
  have members := forall_of_each (fun _ _ _ => representable_of_member) listed
  refine ⟨⟨(text_eq_ok_iff.mp named).2, (text_eq_ok_iff.mp backed).2,
    fun member mem => (members member mem).1⟩, ?_⟩
  intro t mem
  obtain ⟨member, declared, listed⟩ := List.mem_flatMap.mp mem
  exact (members member declared).2 t listed

end Load

/-- A unit comes back from its report exactly if it is representable. Every unit that is loaded is
representable, and so comes back. -/
theorem Module.roundTrips_iff_representable :
    (∀ (m : Module) (path : Path), Shallow m.types →
      ((∃ node, m.report = .ok node ∧ Load.oneModule path node = .ok m) ↔ m.Representable)) ∧
    ∀ (path : Path) (node : Json) (m : Module), Load.oneModule path node = .ok m →
      m.Representable ∧
        ∃ reported, m.report = .ok reported ∧ Load.oneModule path reported = .ok m := by
  refine ⟨?_, ?_⟩
  · intro m path shallow
    refine ⟨fun ⟨node, _, loaded⟩ => (Load.representable_of_oneModule loaded).1, ?_⟩
    intro representable
    obtain ⟨node, reported, loaded⟩ := Load.oneModule_roundTrips representable shallow
    exact ⟨node, reported, loaded path⟩
  · intro path node m loaded
    obtain ⟨representable, shallow⟩ := Load.representable_of_oneModule loaded
    obtain ⟨reported, found, again⟩ := Load.oneModule_roundTrips representable shallow
    exact ⟨representable, reported, found, again path⟩

/-- A unit with a type in each of the places where a bare name means something else. -/
def canvas : Module :=
  { id := "canvas"
    backing := "Canvas"
    members :=
      [.cls
        { constructor := ⟨"constructor", [], .primitive .void⟩
          properties := [⟨"root", .interface "Node", true⟩]
          methods :=
            [⟨"child", [⟨"path", .sequence (.primitive .int32), true⟩], .owned "Node"⟩,
              ⟨"parent", [], .interface "Node"⟩] }]
    implementation := [] }

theorem Module.roundTrips_canvas :
    let blank : Json := .obj [("id", .str "canvas"), ("backing_type", .str "Canvas")]
    let path := Path.ofRoot "module"
    Shallow canvas.types ∧ canvas.Representable ∧
      (∃ node, canvas.report = .ok node ∧ Load.oneModule path node = .ok canvas) ∧
      Load.oneModule path blank = .ok ⟨"canvas", "Canvas", [], []⟩ ∧
      Module.Representable ⟨"canvas", "Canvas", [], []⟩ := by
  intro blank path
  have shallow : Shallow canvas.types := by decide
  have representable : canvas.Representable := by decide
  have loaded : Load.oneModule path blank = .ok ⟨"canvas", "Canvas", [], []⟩ := rfl
  exact ⟨shallow, representable,
    (roundTrips_iff_representable.1 canvas path shallow).mpr representable, loaded,
    (roundTrips_iff_representable.2 path blank _ loaded).1⟩

end ScriptBinding
