import ScriptBinding.Interface.Basic
import ScriptBinding.Interface.Path
import ScriptBinding.Json.Reader
import ScriptBinding.Json.Writer

/-!
Declarations out of JSON values. A member that is absent reads as `null`; the first node that does
not fit is reported with its path.

A type is the name of a primitive, an object with `sequence`, or any other string, which names an
interface. As a result, a bare name stands for an owning pointer and `Promise` for a promise handle;
an object with `converted` is the interface as an ordinary value.
-/
namespace ScriptBinding

inductive LoadProblem where
  | notObject
  | notArray
  | notText
  | notFlag
  | notMemberKind
  | unknownType (node : Json)
  | tooDeep
  | notJson (text : Text)

structure LoadError where
  path : Path
  problem : LoadProblem

def LoadProblem.message : LoadProblem → Text
  | notObject => "expected an object"
  | notArray => "expected an array"
  | notText => "expected a non-empty string"
  | notFlag => "expected a boolean"
  | notMemberKind => "expected 'function' or 'class'"
  | unknownType node => "unrecognized type " ++ node.oneLine
  | tooDeep => "input nested too deeply"
  | notJson text => "invalid JSON: " ++ text

def LoadError.message (e : LoadError) : Text := e.path.written ++ ": " ++ e.problem.message

namespace Load

def object (path : Path) : Json → Except LoadError (List (Text × Json))
  | .obj members => .ok members
  | _ => .error ⟨path, .notObject⟩

def items (path : Path) : Json → Except LoadError (List Json)
  | .null => .ok []
  | .arr items => .ok items
  | _ => .error ⟨path, .notArray⟩

def text (path : Path) : Json → Except LoadError Text
  | .str t => if t.isEmpty then .error ⟨path, .notText⟩ else .ok t
  | _ => .error ⟨path, .notText⟩

def flag (path : Path) (absent : Bool) : Json → Except LoadError Bool
  | .null => .ok absent
  | .bool b => .ok b
  | _ => .error ⟨path, .notFlag⟩

/-- Every item with its index, from `start` on, up to the first that fails. -/
def eachFrom {α : Type} (load : Nat → Json → Except LoadError α) (start : Nat) :
    List Json → Except LoadError (List α)
  | [] => .ok []
  | node :: rest => do
    let first ← load start node
    let others ← eachFrom load (start + 1) rest
    .ok (first :: others)

/-- The items of the array under `name`, each loaded at its own path. -/
def each {α : Type} (path : Path) (members : List (Text × Json)) (name : Text)
    (load : Path → Json → Except LoadError α) : Except LoadError (List α) := do
  let nodes ← items (path.key name) (Json.member members name)
  eachFrom (fun i node => load (path.item name i) node) 0 nodes

end Load

/-- The type that a bare string names. -/
def ValueType.ofName (name : Text) : ValueType :=
  match Primitive.ofName? name with
  | some p => primitive p
  | none => interface name

namespace Load

mutual

/-- A type that is not a result. `depth` bounds its sequences. -/
def type (depth : Nat) (path : Path) : Json → Except LoadError ValueType
  | .str name => .ok (.ofName name)
  | .obj members => sequenceType depth path (.obj members) members
  | node => .error ⟨path, .unknownType node⟩

/-- The sequence type whose element stands under the first `sequence` of the members. -/
def sequenceType (depth : Nat) (path : Path) (node : Json) :
    List (Text × Json) → Except LoadError ValueType
  | [] => .error ⟨path, .unknownType node⟩
  | (name, element) :: rest =>
    if name = "sequence" then
      match depth with
      | 0 => .error ⟨.ofRoot "$", .tooDeep⟩
      | depth + 1 => (type depth (path.key "sequence") element).map .sequence
    else sequenceType depth path node rest

end

def result (depth : Nat) (path : Path) (node : Json) : Except LoadError ValueType :=
  match node with
  | .null => .ok (.primitive .void)
  | .str name =>
    if name = "Promise" then .ok .promise
    else match Primitive.ofName? name with
      | some p => .ok (.primitive p)
      | none => .ok (.owned name)
  | .obj members =>
    match Json.find? members "converted" with
    | some converted => (text (path.key "converted") converted).map .interface
    | none => type depth path node
  | _ => type depth path node

def typeDepth : Nat := Json.nestingLimit

def argument (path : Path) (node : Json) : Except LoadError Argument := do
  let members ← object path node
  let name ← text (path.key "name") (Json.member members "name")
  let type ← type typeDepth (path.key "type") (Json.member members "type")
  let required ← flag (path.key "required") true (Json.member members "required")
  .ok ⟨name, type, required⟩

/-- A function. With a default name, the name may be left out. -/
def function (defaultName : Text) (path : Path) (node : Json) : Except LoadError FunctionDecl := do
  let members ← object path node
  let name ←
    match Json.member members "name", defaultName with
    | .null, c :: rest => .ok (c :: rest)
    | node, _ => text (path.key "name") node
  let arguments ← each path members "args" argument
  let result ← result typeDepth (path.key "return") (Json.member members "return")
  .ok ⟨name, arguments, result⟩

def property (path : Path) (node : Json) : Except LoadError PropertyDecl := do
  let members ← object path node
  let name ← text (path.key "name") (Json.member members "name")
  let type ← type typeDepth (path.key "type") (Json.member members "type")
  let readOnly ← flag (path.key "readonly") false (Json.member members "readonly")
  .ok ⟨name, type, readOnly⟩

/-- A class out of the members of an object. Without a constructor it has one without arguments. -/
def classDecl (path : Path) (members : List (Text × Json)) : Except LoadError ClassDecl := do
  let constructor ←
    match Json.member members "constructor" with
    | .null => .ok ⟨constructorName, [], .primitive .void⟩
    | node => function constructorName (path.key "constructor") node
  let properties ← each path members "properties" property
  let methods ← each path members "methods" (function [])
  .ok ⟨constructor, properties, methods⟩

def member (path : Path) (node : Json) : Except LoadError Member := do
  let members ← object path node
  match Json.member members "kind" with
  | .str kind =>
    if kind = "function" then (function [] path node).map .function
    else if kind = "class" then (classDecl path members).map .cls
    else .error ⟨path.key "kind", .notMemberKind⟩
  | _ => .error ⟨path.key "kind", .notMemberKind⟩

def oneModule (path : Path) (node : Json) : Except LoadError Module := do
  let fields ← object path node
  let id ← text (path.key "id") (Json.member fields "id")
  let members ← each path fields "members" member
  let backing ← text (path.key "backing_type") (Json.member fields "backing_type")
  let implementation ←
    match Json.member fields "impl" with
    | .null => .ok []
    | node => text (path.key "impl") node
  .ok ⟨id, backing, members, implementation⟩

/-- One module, or all modules under `modules`. -/
def modules (node : Json) : Except LoadError (List Module) := do
  let members ← object (.ofRoot "$") node
  match Json.find? members "modules" with
  | some nodes =>
    let root := Path.ofRoot "modules"
    let nodes ← items root nodes
    eachFrom (fun i node => oneModule (root.index i) node) 0 nodes
  | none => (oneModule (.ofRoot "module") node).map ([·])

def source (source : Text) : Except LoadError (List Module) :=
  match Json.read source with
  | .ok node => modules node
  | .error f =>
    match f.defect with
    | .tooDeep => .error ⟨.ofRoot "$", .tooDeep⟩
    | _ => .error ⟨.ofRoot "$", .notJson (f.message source)⟩

end Load

end ScriptBinding
