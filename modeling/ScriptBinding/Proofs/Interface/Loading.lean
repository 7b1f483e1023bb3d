import Mathlib.Data.List.Forall2
import ScriptBinding.Interface.Load

/-!
What it takes for a node to be loaded: one statement for each kind of declaration, which names the
members that are read and what is read from them.
-/
namespace ScriptBinding

namespace Primitive

theorem ofName?_name {p : Primitive} (listed : p.name ∈ kinds) : ofName? p.name = some p := by
  cases p with
  | unlisted kind other => exact absurd listed other
  | void | boolean | int32 | int64 | double | string | object | any | function => rfl

theorem ofName?_eq_none {name : Text} (other : name ∉ kinds) : ofName? name = none := by
  have names : listed.map Prod.fst = kinds := rfl
  rw [ofName?, List.lookup_eq_none_iff]
  intro pair mem
  rw [bne_iff_ne]
  intro same
  apply other
  rw [same, ← names]
  exact List.mem_map_of_mem mem

theorem mem_kinds_of_ofName? {name : Text} {p : Primitive} (found : ofName? name = some p) :
    p.name ∈ kinds := by
  have every : ∀ pair ∈ listed, pair.2.name ∈ kinds := by decide
  obtain ⟨_, _, split, -⟩ := List.lookup_eq_some_iff.mp found
  exact every (name, p) (split ▸ List.mem_append_right _ List.mem_cons_self)

theorem not_mem_kinds_of_ofName? {name : Text} (absent : ofName? name = none) : name ∉ kinds := by
  have names : listed.map Prod.fst = kinds := rfl
  intro mem
  rw [← names] at mem
  obtain ⟨pair, named, rfl⟩ := List.mem_map.mp mem
  have other := List.lookup_eq_none_iff.mp absent pair named
  simp at other

end Primitive

namespace Load

theorem bind_eq_ok_iff {ε α β : Type} {x : Except ε α} {f : α → Except ε β} {b : β} :
    (x >>= f) = .ok b ↔ ∃ a, x = .ok a ∧ f a = .ok b := by
  cases x with
  | error e => simp [bind, Except.bind]
  | ok a => simp [bind, Except.bind]

theorem map_eq_ok_iff {ε α β : Type} {x : Except ε α} {f : α → β} {b : β} :
    x.map f = .ok b ↔ ∃ a, x = .ok a ∧ f a = b := by
  cases x with
  | error e => simp [Except.map]
  | ok a => simp [Except.map]

theorem eq_ok_of_toOption {ε α : Type} {x : Except ε α} {a : α} (h : x.toOption = some a) :
    x = .ok a := by
  cases x with
  | error e => exact nomatch h
  | ok b => exact congrArg _ (Option.some.inj h)

theorem mapM_eq_ok_iff {ε α β : Type} {f : α → Except ε β} {as : List α} {bs : List β} :
    as.mapM f = .ok bs ↔ List.Forall₂ (fun a b => f a = .ok b) as bs := by
  induction as generalizing bs with
  | nil => cases bs <;> simp [pure, Except.pure]
  | cons a rest ih =>
      simp only [List.mapM_cons, bind_eq_ok_iff, List.forall₂_cons_left_iff, ih]
      constructor
      · rintro ⟨b, first, others, behind, same⟩
        exact ⟨b, others, first, behind, (Except.ok.inj same).symm⟩
      · rintro ⟨b, others, first, behind, rfl⟩
        exact ⟨b, first, others, behind, rfl⟩

theorem exists_of_mapM {ε α β : Type} {f : α → Except ε β} {as : List α} {bs : List β}
    (h : as.mapM f = .ok bs) : ∀ b ∈ bs, ∃ a ∈ as, f a = .ok b := by
  rw [mapM_eq_ok_iff] at h
  induction h with
  | nil => exact fun _ mem => absurd mem List.not_mem_nil
  | @cons a b as bs first _ ih =>
      refine List.forall_mem_cons.mpr ⟨⟨a, List.mem_cons_self, first⟩, fun c mem => ?_⟩
      obtain ⟨d, listed, found⟩ := ih c mem
      exact ⟨d, List.mem_cons_of_mem a listed, found⟩

theorem object_eq_ok_iff {path : Path} {node : Json} {members : List (Text × Json)} :
    object path node = .ok members ↔ node = .obj members := by
  cases node <;> simp [object]

theorem items_eq_ok_iff {path : Path} {node : Json} {nodes : List Json} :
    items path node = .ok nodes ↔ node = .null ∧ nodes = [] ∨ node = .arr nodes := by
  cases node <;> simp [items, eq_comm]

theorem text_eq_ok_iff {path : Path} {node : Json} {t : Text} :
    text path node = .ok t ↔ node = .str t ∧ t ≠ [] := by
  cases node with
  | str u =>
      cases u with
      | nil => simp [text]
      | cons p rest =>
          simp only [text, List.isEmpty_cons, Bool.false_eq_true, if_false, Except.ok.injEq,
            Json.str.injEq, iff_self_and]
          intro same
          simp [← same]
  | null | bool _ | int _ | real _ | arr _ | obj _ => simp [text]

theorem text_str (path : Path) {t : Text} (some : t ≠ []) : text path (.str t) = .ok t :=
  text_eq_ok_iff.mpr ⟨rfl, some⟩

theorem sequence_of_sequenceType {depth : Nat} {path : Path} {node : Json}
    {members : List (Text × Json)} {t : ValueType}
    (loaded : sequenceType depth path node members = .ok t) :
    ∃ inner at_element value element, depth = inner + 1 ∧ t = .sequence element ∧
      type inner at_element value = .ok element ∧ (Text.ofString "sequence", value) ∈ members := by
  induction members with
  | nil => exact nomatch loaded
  | cons pair rest ih =>
      obtain ⟨name, value⟩ := pair
      by_cases here : name = "sequence"
      · cases depth with
        | zero =>
            rw [sequenceType, if_pos here] at loaded
            exact nomatch loaded
        | succ inner =>
            rw [sequenceType, if_pos here] at loaded
            obtain ⟨element, found, rfl⟩ := map_eq_ok_iff.mp loaded
            exact ⟨inner, _, value, element, rfl, rfl, found, here ▸ List.mem_cons_self⟩
      · rw [sequenceType.eq_def] at loaded
        simp only [if_neg here] at loaded
        obtain ⟨inner, place, value, element, deep, same, found, mem⟩ := ih loaded
        exact ⟨inner, place, value, element, deep, same, found, List.mem_cons_of_mem _ mem⟩

/-- A type is read from its name, or from the element a `sequence` gives. -/
theorem cases_of_type {depth : Nat} {path : Path} {node : Json} {t : ValueType}
    (loaded : type depth path node = .ok t) :
    (∃ name, node = .str name ∧ t = .ofName name) ∨
      ∃ members, node = .obj members ∧ ∃ inner place value element, depth = inner + 1 ∧
        t = .sequence element ∧ type inner place value = .ok element ∧
        (Text.ofString "sequence", value) ∈ members := by
  cases node with
  | str name =>
      rw [type] at loaded
      exact .inl ⟨name, rfl, (Except.ok.inj loaded).symm⟩
  | obj members =>
      rw [type] at loaded
      exact .inr ⟨members, rfl, sequence_of_sequenceType loaded⟩
  | null | bool _ | int _ | real _ | arr _ => simp [type] at loaded

/-- A result is read as a type is, but that it may be absent, a promise, a value of its own class or
an interface it is converted to. -/
theorem cases_of_result {depth : Nat} {path : Path} {node : Json} {t : ValueType}
    (loaded : result depth path node = .ok t) :
    (node = .null ∧ t = .primitive .void) ∨
      (∃ name, node = .str name ∧
        (t = .promise ∨ (∃ p, Primitive.ofName? name = some p ∧ t = .primitive p) ∨
          Primitive.ofName? name = none ∧ name ≠ Text.ofString "Promise" ∧ t = .owned name)) ∨
      ∃ members, node = .obj members ∧
        ((∃ place value name, Json.find? members "converted" = some value ∧
            text place value = .ok name ∧ t = .interface name) ∨
          type depth path node = .ok t) := by
  cases node with
  | null => exact .inl ⟨rfl, (Except.ok.inj loaded).symm⟩
  | str name =>
      rw [result] at loaded
      refine .inr (.inl ⟨name, rfl, ?_⟩)
      by_cases promise : name = "Promise"
      · rw [if_pos promise] at loaded
        exact .inl (Except.ok.inj loaded).symm
      · rw [if_neg promise] at loaded
        cases found : Primitive.ofName? name with
        | some p =>
            rw [found] at loaded
            exact .inr (.inl ⟨p, rfl, (Except.ok.inj loaded).symm⟩)
        | none =>
            rw [found] at loaded
            exact .inr (.inr ⟨rfl, promise, (Except.ok.inj loaded).symm⟩)
  | obj members =>
      rw [result] at loaded
      refine .inr (.inr ⟨members, rfl, ?_⟩)
      cases converted : Json.find? members "converted" with
      | some value =>
          rw [converted] at loaded
          obtain ⟨name, read, rfl⟩ := map_eq_ok_iff.mp loaded
          exact .inl ⟨_, value, name, rfl, read, rfl⟩
      | none =>
          rw [converted] at loaded
          exact .inr loaded
  | bool _ | int _ | real _ | arr _ => simp [result, type] at loaded

section
variable {α : Type} {load : Path → Json → Except LoadError α} {as : List α}

theorem exists_of_eachFrom {place : Nat → Path} {start : Nat} {nodes : List Json}
    (loaded : eachFrom (fun i node => load (place i) node) start nodes = .ok as) :
    ∀ a ∈ as, ∃ path, ∃ node ∈ nodes, load path node = .ok a := by
  induction nodes generalizing start as with
  | nil =>
      obtain rfl := Except.ok.inj loaded
      exact fun a mem => absurd mem List.not_mem_nil
  | cons node rest ih =>
      rw [eachFrom] at loaded
      obtain ⟨a, first, loaded⟩ := bind_eq_ok_iff.mp loaded
      obtain ⟨others, behind, same⟩ := bind_eq_ok_iff.mp loaded
      obtain rfl := Except.ok.inj same
      refine List.forall_mem_cons.mpr ⟨⟨_, node, List.mem_cons_self, first⟩, fun b mem => ?_⟩
      obtain ⟨path, other, listed, found⟩ := ih behind b mem
      exact ⟨path, other, List.mem_cons_of_mem node listed, found⟩

/-- Whatever is loaded out of an array is loaded from one of its items. -/
theorem exists_of_each {path : Path} {members : List (Text × Json)} {name : Text}
    (loaded : each path members name load = .ok as) :
    ∀ a ∈ as, ∃ place nodes node, Json.member members name = .arr nodes ∧ node ∈ nodes ∧
      load place node = .ok a := by
  obtain ⟨nodes, listed, loaded⟩ := bind_eq_ok_iff.mp loaded
  intro a mem
  obtain ⟨place, node, among, found⟩ := exists_of_eachFrom loaded a mem
  rcases items_eq_ok_iff.mp listed with ⟨-, rfl⟩ | value
  · exact absurd among List.not_mem_nil
  · exact ⟨place, nodes, node, value, among, found⟩

theorem forall_of_each {P : α → Prop} {path : Path} {members : List (Text × Json)} {name : Text}
    (h : ∀ path node a, load path node = .ok a → P a)
    (loaded : each path members name load = .ok as) : ∀ a ∈ as, P a := by
  intro a mem
  obtain ⟨place, _, node, -, -, found⟩ := exists_of_each loaded a mem
  exact h place node a found

end

section
variable {path : Path} {node : Json}

theorem argument_eq_ok_iff {a : Argument} :
    argument path node = .ok a ↔ ∃ members, node = .obj members ∧
      text (path.key "name") (Json.member members "name") = .ok a.name ∧
      type typeDepth (path.key "type") (Json.member members "type") = .ok a.type ∧
      flag (path.key "required") true (Json.member members "required") = .ok a.required := by
  simp only [argument, bind_eq_ok_iff, object_eq_ok_iff, Except.ok.injEq]
  constructor
  · rintro ⟨members, rfl, name, named, type, typed, required, flagged, rfl⟩
    exact ⟨members, rfl, named, typed, flagged⟩
  · rintro ⟨members, rfl, named, typed, flagged⟩
    exact ⟨members, rfl, a.name, named, a.type, typed, a.required, flagged, rfl⟩

theorem property_eq_ok_iff {p : PropertyDecl} :
    property path node = .ok p ↔ ∃ members, node = .obj members ∧
      text (path.key "name") (Json.member members "name") = .ok p.name ∧
      type typeDepth (path.key "type") (Json.member members "type") = .ok p.type ∧
      flag (path.key "readonly") false (Json.member members "readonly") = .ok p.readOnly := by
  simp only [property, bind_eq_ok_iff, object_eq_ok_iff, Except.ok.injEq]
  constructor
  · rintro ⟨members, rfl, name, named, type, typed, readOnly, flagged, rfl⟩
    exact ⟨members, rfl, named, typed, flagged⟩
  · rintro ⟨members, rfl, named, typed, flagged⟩
    exact ⟨members, rfl, p.name, named, p.type, typed, p.readOnly, flagged, rfl⟩

/-- The name of a function, which may be left out where there is a default. -/
def nameOr (defaultName : Text) (path : Path) (node : Json) : Except LoadError Text :=
  match node, defaultName with
  | .null, c :: rest => .ok (c :: rest)
  | node, _ => text path node

theorem function_eq_bind (defaultName : Text) :
    function defaultName path node = (do
      let members ← object path node
      let name ← nameOr defaultName (path.key "name") (Json.member members "name")
      let arguments ← each path members "args" argument
      let result ← result typeDepth (path.key "return") (Json.member members "return")
      .ok ⟨name, arguments, result⟩) := by
  rw [function]
  congr 1
  funext members
  cases Json.member members "name" <;> cases defaultName <;> rfl

theorem function_eq_ok_iff {defaultName : Text} {f : FunctionDecl} :
    function defaultName path node = .ok f ↔ ∃ members, node = .obj members ∧
      nameOr defaultName (path.key "name") (Json.member members "name") = .ok f.name ∧
      each path members "args" argument = .ok f.arguments ∧
      result typeDepth (path.key "return") (Json.member members "return") = .ok f.result := by
  simp only [function_eq_bind, bind_eq_ok_iff, object_eq_ok_iff, Except.ok.injEq]
  constructor
  · rintro ⟨members, rfl, name, named, arguments, listed, result, resulted, rfl⟩
    exact ⟨members, rfl, named, listed, resulted⟩
  · rintro ⟨members, rfl, named, listed, resulted⟩
    exact ⟨members, rfl, f.name, named, f.arguments, listed, f.result, resulted, rfl⟩

/-- The constructor of a class, which may be left out. -/
def constructorOr (path : Path) (node : Json) : Except LoadError FunctionDecl :=
  match node with
  | .null => .ok ⟨constructorName, [], .primitive .void⟩
  | node => function constructorName path node

theorem classDecl_eq_bind (members : List (Text × Json)) :
    classDecl path members = (do
      let constructor ←
        constructorOr (path.key "constructor") (Json.member members "constructor")
      let properties ← each path members "properties" property
      let methods ← each path members "methods" (function [])
      .ok ⟨constructor, properties, methods⟩) := by
  rw [classDecl]
  cases Json.member members "constructor" <;> rfl

theorem classDecl_eq_ok_iff {members : List (Text × Json)} {c : ClassDecl} :
    classDecl path members = .ok c ↔
      constructorOr (path.key "constructor") (Json.member members "constructor") =
        .ok c.constructor ∧
      each path members "properties" property = .ok c.properties ∧
      each path members "methods" (function []) = .ok c.methods := by
  simp only [classDecl_eq_bind, bind_eq_ok_iff, Except.ok.injEq]
  constructor
  · rintro ⟨constructor, made, properties, listed, methods, followed, rfl⟩
    exact ⟨made, listed, followed⟩
  · rintro ⟨made, listed, followed⟩
    exact ⟨c.constructor, made, c.properties, listed, c.methods, followed, rfl⟩

theorem member_eq_ok_iff {m : Member} :
    member path node = .ok m ↔ ∃ members, node = .obj members ∧
      ((∃ f, m = .function f ∧ Json.member members "kind" = .str "function" ∧
          function [] path node = .ok f) ∨
        ∃ c, m = .cls c ∧ Json.member members "kind" = .str "class" ∧
          classDecl path members = .ok c) := by
  simp only [member, bind_eq_ok_iff, object_eq_ok_iff]
  constructor
  · rintro ⟨members, rfl, loaded⟩
    refine ⟨members, rfl, ?_⟩
    cases kind : Json.member members "kind" with
    | str name =>
        simp only [kind] at loaded
        by_cases isFunction : name = "function"
        · rw [if_pos isFunction] at loaded
          obtain ⟨f, read, rfl⟩ := map_eq_ok_iff.mp loaded
          exact .inl ⟨f, rfl, congrArg Json.str isFunction, read⟩
        · rw [if_neg isFunction] at loaded
          by_cases isClass : name = "class"
          · rw [if_pos isClass] at loaded
            obtain ⟨c, read, rfl⟩ := map_eq_ok_iff.mp loaded
            exact .inr ⟨c, rfl, congrArg Json.str isClass, read⟩
          · rw [if_neg isClass] at loaded
            exact nomatch loaded
    | null | bool _ | int _ | real _ | arr _ | obj _ =>
        simp only [kind] at loaded
        exact nomatch loaded
  · rintro ⟨members, rfl, ⟨f, rfl, kind, loaded⟩ | ⟨c, rfl, kind, loaded⟩⟩
    · refine ⟨members, rfl, ?_⟩
      simp only [kind]
      exact map_eq_ok_iff.mpr ⟨f, loaded, rfl⟩
    · refine ⟨members, rfl, ?_⟩
      simp only [kind]
      exact map_eq_ok_iff.mpr ⟨c, loaded, rfl⟩

/-- The header of an implementation, which may be left out. -/
def implementationOr (path : Path) (node : Json) : Except LoadError Text :=
  match node with
  | .null => .ok []
  | node => text path node

theorem oneModule_eq_bind :
    oneModule path node = (do
      let fields ← object path node
      let id ← text (path.key "id") (Json.member fields "id")
      let members ← each path fields "members" member
      let backing ← text (path.key "backing_type") (Json.member fields "backing_type")
      let implementation ← implementationOr (path.key "impl") (Json.member fields "impl")
      .ok ⟨id, backing, members, implementation⟩) := by
  rw [oneModule]
  congr 1
  funext fields
  cases Json.member fields "impl" <;> rfl

theorem oneModule_eq_ok_iff {m : Module} :
    oneModule path node = .ok m ↔ ∃ fields, node = .obj fields ∧
      text (path.key "id") (Json.member fields "id") = .ok m.id ∧
      each path fields "members" member = .ok m.members ∧
      text (path.key "backing_type") (Json.member fields "backing_type") = .ok m.backing ∧
      implementationOr (path.key "impl") (Json.member fields "impl") = .ok m.implementation := by
  simp only [oneModule_eq_bind, bind_eq_ok_iff, object_eq_ok_iff, Except.ok.injEq]
  constructor
  · rintro ⟨fields, rfl, id, named, members, listed, backing, backed, implementation, found, rfl⟩
    exact ⟨fields, rfl, named, listed, backed, found⟩
  · rintro ⟨fields, rfl, named, listed, backed, found⟩
    exact ⟨fields, rfl, m.id, named, m.members, listed, m.backing, backed, m.implementation, found,
      rfl⟩

end

end Load

end ScriptBinding
