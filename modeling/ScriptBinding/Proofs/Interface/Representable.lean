import ScriptBinding.Interface.Load

/-!
Units in which no name is taken for another thing when they are written down. A bare string is a
primitive, an interface, an owning pointer or the promise marker, by its place.
-/
namespace ScriptBinding

namespace ValueType

def nesting : ValueType → Nat
  | sequence element => element.nesting + 1
  | primitive _ | interface _ | promise | owned _ => 0

/-- A type that has a notation of its own where it is not a result. -/
def Representable : ValueType → Prop
  | primitive p => p.name ∈ Primitive.kinds
  | interface name => name ∉ Primitive.kinds
  | sequence element => element.Representable
  | promise | owned _ => False

/-- A type that has a notation of its own as a result. -/
def RepresentableResult : ValueType → Prop
  | promise => True
  | primitive p => p.name ∈ Primitive.kinds
  | owned name => name ∉ Primitive.kinds ∧ name ≠ "Promise"
  | interface name => name ≠ []
  | sequence element => element.Representable

instance decidableRepresentable : (t : ValueType) → Decidable t.Representable
  | primitive p => inferInstanceAs (Decidable (p.name ∈ Primitive.kinds))
  | interface name => inferInstanceAs (Decidable (name ∉ Primitive.kinds))
  | sequence element => element.decidableRepresentable
  | promise | owned _ => inferInstanceAs (Decidable False)

instance : (t : ValueType) → Decidable t.RepresentableResult
  | promise => inferInstanceAs (Decidable True)
  | primitive p => inferInstanceAs (Decidable (p.name ∈ Primitive.kinds))
  | owned name => inferInstanceAs (Decidable (name ∉ Primitive.kinds ∧ name ≠ "Promise"))
  | interface name => inferInstanceAs (Decidable (name ≠ []))
  | sequence element => element.decidableRepresentable

end ValueType

structure Argument.Representable (a : Argument) : Prop where
  name : a.name ≠ []
  type : a.type.Representable

structure FunctionDecl.Representable (f : FunctionDecl) : Prop where
  name : f.name ≠ []
  arguments : ∀ a ∈ f.arguments, a.Representable
  result : f.result.RepresentableResult

structure PropertyDecl.Representable (p : PropertyDecl) : Prop where
  name : p.name ≠ []
  type : p.type.Representable

structure ClassDecl.Representable (c : ClassDecl) : Prop where
  constructor : c.constructor.Representable
  properties : ∀ p ∈ c.properties, p.Representable
  methods : ∀ f ∈ c.methods, f.Representable

def Member.Representable : Member → Prop
  | function decl => decl.Representable
  | cls decl => decl.Representable

/-- A unit without empty names in which every type has a notation of its own. -/
structure Module.Representable (m : Module) : Prop where
  id : m.id ≠ []
  backing : m.backing ≠ []
  members : ∀ member ∈ m.members, member.Representable

instance (a : Argument) : Decidable a.Representable :=
  decidable_of_iff (a.name ≠ [] ∧ a.type.Representable)
    ⟨fun ⟨name, type⟩ => ⟨name, type⟩, fun h => ⟨h.name, h.type⟩⟩

instance (f : FunctionDecl) : Decidable f.Representable :=
  decidable_of_iff
    (f.name ≠ [] ∧ (∀ a ∈ f.arguments, a.Representable) ∧ f.result.RepresentableResult)
    ⟨fun ⟨name, arguments, result⟩ => ⟨name, arguments, result⟩,
      fun h => ⟨h.name, h.arguments, h.result⟩⟩

instance (p : PropertyDecl) : Decidable p.Representable :=
  decidable_of_iff (p.name ≠ [] ∧ p.type.Representable)
    ⟨fun ⟨name, type⟩ => ⟨name, type⟩, fun h => ⟨h.name, h.type⟩⟩

instance (c : ClassDecl) : Decidable c.Representable :=
  decidable_of_iff
    (c.constructor.Representable ∧ (∀ p ∈ c.properties, p.Representable) ∧
      ∀ f ∈ c.methods, f.Representable)
    ⟨fun ⟨constructor, properties, methods⟩ => ⟨constructor, properties, methods⟩,
      fun h => ⟨h.constructor, h.properties, h.methods⟩⟩

instance : (m : Member) → Decidable m.Representable
  | .function decl => inferInstanceAs (Decidable decl.Representable)
  | .cls decl => inferInstanceAs (Decidable decl.Representable)

instance (m : Module) : Decidable m.Representable :=
  decidable_of_iff
    (m.id ≠ [] ∧ m.backing ≠ [] ∧ ∀ member ∈ m.members, member.Representable)
    ⟨fun ⟨id, backing, members⟩ => ⟨id, backing, members⟩, fun h => ⟨h.id, h.backing, h.members⟩⟩

def FunctionDecl.types (f : FunctionDecl) : List ValueType := f.result :: f.arguments.map (·.type)

def ClassDecl.types (c : ClassDecl) : List ValueType :=
  c.constructor.types ++ c.properties.map (·.type) ++ c.methods.flatMap FunctionDecl.types

def Member.types : Member → List ValueType
  | function decl => decl.types
  | cls decl => decl.types

/-- All types of a unit: of arguments, properties and results. -/
def Module.types (m : Module) : List ValueType := m.members.flatMap Member.types

/-- The types are nested no deeper than a type is read. -/
def Shallow (types : List ValueType) : Prop := ∀ t ∈ types, t.nesting ≤ Load.typeDepth

instance (types : List ValueType) : Decidable (Shallow types) :=
  inferInstanceAs (Decidable (∀ t ∈ types, t.nesting ≤ Load.typeDepth))

end ScriptBinding
