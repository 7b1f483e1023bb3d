import ScriptBinding.Json.Basic

/-!
The values that declare units: one predicate for each kind of node, over the members that it reads.
Members that no predicate names may be anything.
-/
namespace ScriptBinding.Json

/-- A member of this name is there and as required. -/
def Has (members : List (Text × Json)) (name : Text) (P : Json → Prop) : Prop :=
  ∃ v, find? members name = some v ∧ P v

/-- A member of this name is absent, `null` or as required. -/
def MayHave (members : List (Text × Json)) (name : Text) (P : Json → Prop) : Prop :=
  ∀ v, find? members name = some v → v = null ∨ P v

/-- A string that is not empty. -/
def IsText (v : Json) : Prop := ∃ t, v = str t ∧ t ≠ []

def IsFlag (v : Json) : Prop := ∃ b, v = bool b

def IsArrayOf (P : Json → Prop) (v : Json) : Prop := ∃ items, v = arr items ∧ ∀ item ∈ items, P item

def IsObjectWith (P : List (Text × Json) → Prop) (v : Json) : Prop :=
  ∃ members, v = obj members ∧ P members

/-- Any string, or an object whose `sequence` is a type. -/
inductive IsType : Json → Prop
  | name (t : Text) : IsType (str t)
  | sequence {members : List (Text × Json)} {element : Json}
      (given : find? members "sequence" = some element) (typed : element.IsType) :
      IsType (obj members)

/-- A type, unless there is a `converted`, which then has to name an interface. -/
inductive IsResult : Json → Prop
  | name (t : Text) : IsResult (str t)
  | converted {members : List (Text × Json)} {name : Json}
      (given : find? members "converted" = some name) (named : name.IsText) : IsResult (obj members)
  | sequence {members : List (Text × Json)} (plain : find? members "converted" = none)
      (typed : (obj members).IsType) : IsResult (obj members)

structure DeclaresArgument (members : List (Text × Json)) : Prop where
  name : Has members "name" IsText
  type : Has members "type" IsType
  required : MayHave members "required" IsFlag

def IsArgument : Json → Prop := IsObjectWith DeclaresArgument

/-- What a function has besides its name. -/
structure DeclaresSignature (members : List (Text × Json)) : Prop where
  arguments : MayHave members "args" (IsArrayOf IsArgument)
  result : MayHave members "return" IsResult

structure DeclaresFunction (members : List (Text × Json)) : Prop where
  name : Has members "name" IsText
  signature : DeclaresSignature members

def IsFunction : Json → Prop := IsObjectWith DeclaresFunction

/-- A constructor may do without a name. -/
structure DeclaresConstructor (members : List (Text × Json)) : Prop where
  name : MayHave members "name" IsText
  signature : DeclaresSignature members

def IsConstructor : Json → Prop := IsObjectWith DeclaresConstructor

structure DeclaresProperty (members : List (Text × Json)) : Prop where
  name : Has members "name" IsText
  type : Has members "type" IsType
  readOnly : MayHave members "readonly" IsFlag

def IsProperty : Json → Prop := IsObjectWith DeclaresProperty

structure DeclaresClass (members : List (Text × Json)) : Prop where
  constructor : MayHave members "constructor" IsConstructor
  properties : MayHave members "properties" (IsArrayOf IsProperty)
  methods : MayHave members "methods" (IsArrayOf IsFunction)

inductive IsMember : Json → Prop
  | function {members : List (Text × Json)} (kind : find? members "kind" = some (str "function"))
      (declared : DeclaresFunction members) : IsMember (obj members)
  | cls {members : List (Text × Json)} (kind : find? members "kind" = some (str "class"))
      (declared : DeclaresClass members) : IsMember (obj members)

structure DeclaresUnit (members : List (Text × Json)) : Prop where
  id : Has members "id" IsText
  backing : Has members "backing_type" IsText
  implementation : MayHave members "impl" IsText
  members : MayHave members "members" (IsArrayOf IsMember)

def IsUnit : Json → Prop := IsObjectWith DeclaresUnit

/-- `null` or an array of units. -/
def IsUnitList (v : Json) : Prop := v = null ∨ v.IsArrayOf IsUnit

/-- An object that lists units under `modules`, or one without `modules` that is a unit. -/
inductive DeclaresUnits : Json → Prop
  | several {members : List (Text × Json)} {list : Json}
      (given : find? members "modules" = some list) (units : list.IsUnitList) :
      DeclaresUnits (obj members)
  | one {members : List (Text × Json)} (plain : find? members "modules" = none)
      (declared : DeclaresUnit members) : DeclaresUnits (obj members)

section
variable {members : List (Text × Json)} {name : Text} {P : Json → Prop}

theorem has_iff (absent : ¬ P null) : Has members name P ↔ P (member members name) := by
  rw [Has, member]
  cases find? members name with
  | none => simpa using absent
  | some v => simp

theorem mayHave_iff :
    MayHave members name P ↔ member members name = null ∨ P (member members name) := by
  rw [MayHave, member]
  cases find? members name with
  | none => simp
  | some v => simp

end

theorem find?_eq_some_of_member {members : List (Text × Json)} {name : Text} {v : Json}
    (read : member members name = v) (some : v ≠ null) : find? members name = .some v := by
  rw [member] at read
  cases found : find? members name with
  | none => exact absurd (by simpa [found] using read.symm) some
  | some w => simpa [found] using read

theorem not_isText_null : ¬ IsText null := by simp [IsText]

theorem not_isType_null : ¬ IsType null := by rintro ⟨⟩

end ScriptBinding.Json
