import ScriptBinding.Interface.Report
import ScriptBinding.Proofs.Interface.Names
import ScriptBinding.Proofs.Interface.RoundTrip
import ScriptBinding.Proofs.Json.Values

/-!
The strings of a unit on the way from the value it is loaded from to its report. Loading makes up no
string of its own but the name of a constructor, and so its names are as joined as the strings of
that value; a report of joined names is read again from its text.
-/
namespace ScriptBinding

namespace Text

theorem joined_ofString (s : String) : (s : Text).Joined :=
  Json.joined_of_not_hasSurrogate (not_hasSurrogate_ofString s)

end Text

namespace Load

section
variable {path : Path} {node : Json} {members : List (Text × Json)}

theorem joined_member (joined : ∀ m ∈ members, m.2.Joined) (name : Text) :
    (Json.member members name).Joined := by
  rw [Json.member, Json.find?]
  cases found : members.lookup name with
  | none => exact .null
  | some v =>
      obtain ⟨_, _, split, -⟩ := List.lookup_eq_some_iff.mp found
      exact joined (name, v) (split ▸ List.mem_append_right _ List.mem_cons_self)

theorem joined_of_text {t : Text} (joined : node.Joined) (loaded : text path node = .ok t) :
    t.Joined := by
  obtain ⟨rfl, -⟩ := text_eq_ok_iff.mp loaded
  exact Json.joined_str_iff.mp joined

/-- What holds of all that is loaded from joined values holds of all that is loaded from an array
of them. -/
theorem forall_of_each_joined {α : Type} {P : α → Prop} {load : Path → Json → Except LoadError α}
    {as : List α} {name : Text} (h : ∀ path node a, node.Joined → load path node = .ok a → P a)
    (joined : ∀ m ∈ members, m.2.Joined) (loaded : each path members name load = .ok as) :
    ∀ a ∈ as, P a := by
  intro a mem
  obtain ⟨place, nodes, node, value, among, found⟩ := exists_of_each loaded a mem
  have each := Json.joined_arr_iff.mp (value ▸ joined_member joined name)
  exact h place node a (each node among) found

theorem joined_of_ofName {name : Text} (joined : name.Joined) :
    ∀ interface ∈ (ValueType.ofName name).interfaceName?, interface.Joined := by
  rw [ValueType.ofName]
  cases Primitive.ofName? name with
  | some p => exact fun _ mem => absurd mem (Option.not_mem_none _)
  | none =>
      rintro _ ⟨⟩
      exact joined

theorem joined_of_type {depth : Nat} {t : ValueType} (joined : node.Joined)
    (loaded : type depth path node = .ok t) : ∀ name ∈ t.interfaceName?, name.Joined := by
  induction depth using Nat.strongRecOn generalizing path node t with
  | ind depth ih =>
      obtain ⟨name, rfl, rfl⟩ | ⟨members, rfl, inner, _, value, element, rfl, rfl, found, mem⟩ :=
        cases_of_type loaded
      · exact joined_of_ofName (Json.joined_str_iff.mp joined)
      · have below : ∀ name ∈ element.interfaceName?, name.Joined :=
          ih inner (Nat.lt_succ_self inner) (Json.joined_obj_iff.mp joined _ mem) found
        exact below

theorem joined_of_result {depth : Nat} {t : ValueType} (joined : node.Joined)
    (loaded : result depth path node = .ok t) : ∀ name ∈ t.interfaceName?, name.Joined := by
  obtain ⟨-, rfl⟩ | ⟨name, rfl, rfl | ⟨p, -, rfl⟩ | ⟨-, -, rfl⟩⟩ |
    ⟨members, rfl, ⟨_, value, name, converted, read, rfl⟩ | typed⟩ := cases_of_result loaded
  · exact fun _ mem => absurd mem (Option.not_mem_none _)
  · exact fun _ mem => absurd mem (Option.not_mem_none _)
  · exact fun _ mem => absurd mem (Option.not_mem_none _)
  · rintro _ ⟨⟩
    exact Json.joined_str_iff.mp joined
  · have listed := joined_member (Json.joined_obj_iff.mp joined) "converted"
    rw [Json.member, converted] at listed
    rintro _ ⟨⟩
    exact joined_of_text listed read
  · exact joined_of_type joined typed

theorem joined_of_argument {a : Argument} (joined : node.Joined)
    (loaded : argument path node = .ok a) :
    a.name.Joined ∧ ∀ name ∈ a.type.interfaceName?, name.Joined := by
  obtain ⟨members, rfl, named, typed, -⟩ := argument_eq_ok_iff.mp loaded
  have values := joined_member (Json.joined_obj_iff.mp joined)
  exact ⟨joined_of_text (values _) named, joined_of_type (values _) typed⟩

theorem joined_of_property {p : PropertyDecl} (joined : node.Joined)
    (loaded : property path node = .ok p) : ∀ name ∈ p.names, name.Joined := by
  obtain ⟨members, rfl, named, typed, -⟩ := property_eq_ok_iff.mp loaded
  have values := joined_member (Json.joined_obj_iff.mp joined)
  exact PropertyDecl.forall_mem_names_iff.mpr
    ⟨joined_of_text (values _) named, joined_of_type (values _) typed⟩

theorem joined_of_nameOr {defaultName name : Text} (joined : node.Joined)
    (default : defaultName.Joined) (loaded : nameOr defaultName path node = .ok name) :
    name.Joined := by
  rw [nameOr.eq_def] at loaded
  split at loaded
  · exact Except.ok.inj loaded ▸ default
  · exact joined_of_text joined loaded

theorem joined_of_function {defaultName : Text} {f : FunctionDecl} (joined : node.Joined)
    (default : defaultName.Joined) (loaded : function defaultName path node = .ok f) :
    ∀ name ∈ f.names, name.Joined := by
  obtain ⟨members, rfl, named, listed, resulted⟩ := function_eq_ok_iff.mp loaded
  have values := Json.joined_obj_iff.mp joined
  exact FunctionDecl.forall_mem_names_iff.mpr
    ⟨joined_of_nameOr (joined_member values _) default named,
      forall_of_each_joined (fun _ _ _ => joined_of_argument) values listed,
      joined_of_result (joined_member values _) resulted⟩

theorem joined_of_constructorOr {f : FunctionDecl} (joined : node.Joined)
    (made : constructorOr path node = .ok f) : ∀ name ∈ f.names, name.Joined := by
  rw [constructorOr.eq_def] at made
  split at made
  · obtain rfl := Except.ok.inj made
    exact List.forall_mem_singleton.mpr (Text.joined_ofString _)
  · exact joined_of_function joined (Text.joined_ofString _) made

theorem joined_of_classDecl {c : ClassDecl} (joined : ∀ m ∈ members, m.2.Joined)
    (loaded : classDecl path members = .ok c) : ∀ name ∈ c.names, name.Joined := by
  obtain ⟨made, listed, followed⟩ := classDecl_eq_ok_iff.mp loaded
  have methods := forall_of_each_joined
    (fun _ _ _ joined => joined_of_function joined List.isChain_nil) joined followed
  exact ClassDecl.forall_mem_names_iff.mpr
    ⟨joined_of_constructorOr (joined_member joined _) made,
      forall_of_each_joined (fun _ _ _ => joined_of_property) joined listed, methods⟩

theorem joined_of_memberDecl {m : Member} (joined : node.Joined)
    (loaded : member path node = .ok m) : ∀ name ∈ m.names, name.Joined := by
  obtain ⟨members, rfl, ⟨f, rfl, -, read⟩ | ⟨c, rfl, -, read⟩⟩ := member_eq_ok_iff.mp loaded
  · exact joined_of_function joined List.isChain_nil read
  · exact joined_of_classDecl (Json.joined_obj_iff.mp joined) read

theorem joined_of_oneModule {m : Module} (joined : node.Joined)
    (loaded : oneModule path node = .ok m) :
    m.implementation.Joined ∧ ∀ name ∈ m.names, name.Joined := by
  obtain ⟨fields, rfl, named, listed, backed, found⟩ := oneModule_eq_ok_iff.mp loaded
  have values := Json.joined_obj_iff.mp joined
  refine ⟨?_, Module.forall_mem_names_iff.mpr
    ⟨joined_of_text (joined_member values _) named, joined_of_text (joined_member values _) backed,
      forall_of_each_joined (fun _ _ _ => joined_of_memberDecl) values listed⟩⟩
  rw [implementationOr.eq_def] at found
  split at found
  · exact Except.ok.inj found ▸ List.isChain_nil
  · exact joined_of_text (joined_member values _) found

end

end Load

/-- An object whose members are named by characters. -/
theorem Json.legible_obj (keys : List String) {members : List (Text × Json)}
    (named : members.map Prod.fst = keys.map Text.ofString)
    (distinct : (keys.map Text.ofString).Nodup) (each : members.Forall (·.2.Legible)) :
    (obj members).Legible := by
  refine .obj (fun m mem => ?_) (named ▸ distinct) (List.forall_iff_forall_mem.mp each)
  have listed := List.mem_map_of_mem (f := Prod.fst) mem
  rw [named] at listed
  obtain ⟨key, -, same⟩ := List.mem_map.mp listed
  exact same ▸ Text.joined_ofString key

theorem Json.legible_name (s : String) : (Json.str s).Legible := .str (Text.joined_ofString s)

theorem Primitive.joined_name {p : Primitive} (listed : p.name ∈ kinds) : p.name.Joined := by
  obtain ⟨s, -, same⟩ := List.mem_map.mp listed
  exact same ▸ Text.joined_ofString s

namespace ValueType

variable {t : ValueType} {node : Json} (joined : ∀ name ∈ t.interfaceName?, name.Joined)
include joined

theorem legible_report (h : t.Representable) (reported : t.report = .ok node) : node.Legible := by
  induction t generalizing node with
  | primitive p =>
      obtain rfl := Except.ok.inj reported
      exact .str (Primitive.joined_name h)
  | interface name =>
      obtain rfl := Except.ok.inj reported
      exact .str (joined name rfl)
  | sequence element ih =>
      obtain ⟨inner, below, same⟩ := Load.bind_eq_ok_iff.mp reported
      obtain rfl := Except.ok.inj same
      exact Json.legible_obj ["sequence"] rfl (by decide) (ih joined h below)
  | promise | owned _ => exact h.elim

theorem legible_reportResult (h : t.RepresentableResult) (reported : t.reportResult = .ok node) :
    node.Legible := by
  cases t with
  | primitive p =>
      obtain rfl := Except.ok.inj reported
      exact .str (Primitive.joined_name h)
  | interface name =>
      obtain rfl := Except.ok.inj reported
      exact Json.legible_obj ["converted"] rfl (by decide) (.str (joined name rfl))
  | sequence element => exact legible_report joined (t := .sequence element) h reported
  | promise =>
      obtain rfl := Except.ok.inj reported
      exact Json.legible_name "Promise"
  | owned name =>
      obtain rfl := Except.ok.inj reported
      exact .str (joined name rfl)

end ValueType

theorem Argument.legible_report {a : Argument} {node : Json} (named : a.name.Joined)
    (joined : ∀ name ∈ a.type.interfaceName?, name.Joined) (h : a.Representable)
    (reported : a.report = .ok node) : node.Legible := by
  obtain ⟨type, typed, same⟩ := Load.bind_eq_ok_iff.mp reported
  obtain rfl := Except.ok.inj same
  exact Json.legible_obj ["name", "type", "required"] rfl (by decide)
    ⟨.str named, ValueType.legible_report joined h.type typed, .bool _⟩

theorem PropertyDecl.legible_report {p : PropertyDecl} {node : Json}
    (joined : ∀ name ∈ p.names, name.Joined) (h : p.Representable)
    (reported : p.report = .ok node) : node.Legible := by
  obtain ⟨named, interfaces⟩ := PropertyDecl.forall_mem_names_iff.mp joined
  obtain ⟨type, typed, same⟩ := Load.bind_eq_ok_iff.mp reported
  obtain rfl := Except.ok.inj same
  exact Json.legible_obj ["name", "type", "readonly"] rfl (by decide)
    ⟨.str named, ValueType.legible_report interfaces h.type typed, .bool _⟩

namespace FunctionDecl

variable {f : FunctionDecl} (joined : ∀ name ∈ f.names, name.Joined) (h : f.Representable)
include joined h

theorem legible_reportMembers {members : List (Text × Json)}
    (reported : f.reportMembers = .ok members) :
    members.map Prod.fst = ["name", "args", "return"].map Text.ofString ∧
      members.Forall (·.2.Legible) := by
  obtain ⟨named, argumentNames, resultNames⟩ := FunctionDecl.forall_mem_names_iff.mp joined
  obtain ⟨arguments, listed, rest⟩ := Load.bind_eq_ok_iff.mp reported
  obtain ⟨result, resulted, same⟩ := Load.bind_eq_ok_iff.mp rest
  obtain rfl := Except.ok.inj same
  have each : ∀ node ∈ arguments, node.Legible := by
    intro node mem
    obtain ⟨a, declared, found⟩ := Load.exists_of_mapM listed node mem
    obtain ⟨named, interfaces⟩ := argumentNames a declared
    exact a.legible_report named interfaces (h.arguments a declared) found
  exact ⟨rfl, .str named, .arr each, ValueType.legible_reportResult resultNames h.result resulted⟩

theorem legible_report {node : Json} (reported : f.report = .ok node) : node.Legible := by
  obtain ⟨members, found, rfl⟩ := Load.map_eq_ok_iff.mp reported
  obtain ⟨named, each⟩ := legible_reportMembers joined h found
  exact Json.legible_obj _ named (by decide) each

end FunctionDecl

theorem ClassDecl.legible_report {c : ClassDecl} {node : Json}
    (joined : ∀ name ∈ c.names, name.Joined) (h : c.Representable)
    (reported : c.report = .ok node) : node.Legible := by
  obtain ⟨made, propertyNames, methodNames⟩ := ClassDecl.forall_mem_names_iff.mp joined
  obtain ⟨constructor, constructed, rest⟩ := Load.bind_eq_ok_iff.mp reported
  obtain ⟨properties, listed, rest⟩ := Load.bind_eq_ok_iff.mp rest
  obtain ⟨methods, followed, same⟩ := Load.bind_eq_ok_iff.mp rest
  obtain rfl := Except.ok.inj same
  have eachProperty : ∀ node ∈ properties, node.Legible := by
    intro node mem
    obtain ⟨p, declared, found⟩ := Load.exists_of_mapM listed node mem
    exact p.legible_report (propertyNames p declared) (h.properties p declared) found
  have eachMethod : ∀ node ∈ methods, node.Legible := by
    intro node mem
    obtain ⟨f, declared, found⟩ := Load.exists_of_mapM followed node mem
    exact f.legible_report (methodNames f declared) (h.methods f declared) found
  exact Json.legible_obj ["kind", "constructor", "properties", "methods"] rfl (by decide)
    ⟨Json.legible_name "class", c.constructor.legible_report made h.constructor constructed,
      .arr eachProperty, .arr eachMethod⟩

theorem Member.legible_report {m : Member} {node : Json} (joined : ∀ name ∈ m.names, name.Joined)
    (h : m.Representable) (reported : m.report = .ok node) : node.Legible := by
  cases m with
  | function f =>
      obtain ⟨members, found, same⟩ := Load.bind_eq_ok_iff.mp reported
      obtain rfl := Except.ok.inj same
      obtain ⟨named, each⟩ := f.legible_reportMembers joined h found
      refine Json.legible_obj ["name", "args", "return", "kind"] ?_ (by decide) ?_
      · rw [List.map_append, named]
        rfl
      · exact List.forall_append.mpr ⟨each, Json.legible_name "function"⟩
  | cls c => exact c.legible_report joined h reported

/-- The report of a unit whose strings are joined is read again from its text. -/
theorem Module.legible_report {m : Module} {node : Json} (implemented : m.implementation.Joined)
    (joined : ∀ name ∈ m.names, name.Joined) (h : m.Representable)
    (reported : m.report = .ok node) : node.Legible := by
  obtain ⟨named, backed, memberNames⟩ := Module.forall_mem_names_iff.mp joined
  obtain ⟨members, listed, same⟩ := Load.bind_eq_ok_iff.mp reported
  obtain rfl := Except.ok.inj same
  have each : ∀ node ∈ members, node.Legible := by
    intro node mem
    obtain ⟨member, declared, found⟩ := Load.exists_of_mapM listed node mem
    exact member.legible_report (memberNames member declared) (h.members member declared) found
  split
  · exact Json.legible_obj ["id", "backing_type", "members"] rfl (by decide)
      ⟨.str named, .str backed, .arr each⟩
  · exact Json.legible_obj ["id", "backing_type", "members", "impl"] rfl (by decide)
      ⟨.str named, .str backed, .arr each, .str implemented⟩

end ScriptBinding
