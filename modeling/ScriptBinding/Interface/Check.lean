import ScriptBinding.Interface.Basic
import ScriptBinding.Interface.Path
import ScriptBinding.Text.Identifier

/-!
What the generated code relies on: required arguments come first, names that share a scope differ,
every name and interface can be spelled as it is, `void` is no value, and a unit holds one class at
most. All breaches are reported, in the order of the declaration; those inside a class come after
those of the unit.
-/
namespace ScriptBinding

inductive Breach where
  | badName (name : Text)
  | badModuleId (id : Text)
  | badBacking (name : Text)
  | badTypeName (name : Text)
  | repeatedFunction (name : Text)
  | repeatedArgument (name : Text)
  | repeatedProperty (name : Text)
  | repeatedMethod (name : Text)
  | voidArgument (name : Text)
  | voidProperty (name : Text)
  | requiredAfterOptional (name optional : Text)
  | constructorMethod
  | methodAndFunction (name : Text)
  | methodAndProperty (name : Text)
  | functionAndClass (name : Text)
  | severalClasses (count : Nat)
  | secondConstructor

structure Violation where
  path : Path
  breach : Breach

namespace Breach

def category : Breach → Text
  | badTypeName _ | voidArgument _ | voidProperty _ => "types"
  | requiredAfterOptional _ _ => "arity"
  | severalClasses _ | secondConstructor => "classes"
  | _ => "names"

def message : Breach → Text
  | badName name => "'" ++ name ++ "' is not a valid identifier"
  | badModuleId id => "module id '" ++ id ++ "' is not a valid identifier"
  | badBacking name => "backing type '" ++ name ++ "' is not a valid identifier"
  | badTypeName name => "type '" ++ name ++ "' is not a valid identifier"
  | repeatedFunction name => "duplicate function '" ++ name ++ "'"
  | repeatedArgument name => "duplicate argument '" ++ name ++ "'"
  | repeatedProperty name => "duplicate property '" ++ name ++ "'"
  | repeatedMethod name => "duplicate method '" ++ name ++ "'"
  | voidArgument name => "argument '" ++ name ++ "' has void type"
  | voidProperty name => "property '" ++ name ++ "' has void type"
  | requiredAfterOptional name optional =>
    "required argument '" ++ name ++ "' follows optional argument '" ++ optional ++ "'"
  | constructorMethod => "'constructor' cannot be declared as a method"
  | methodAndFunction name =>
    "method '" ++ name ++ "' clashes with a global function of the same name"
  | methodAndProperty name => "method '" ++ name ++ "' clashes with a property of the same name"
  | functionAndClass name => "global function '" ++ name ++ "' clashes with the class constructor"
  | severalClasses count =>
    "module declares " ++ Text.decimal count ++
      " classes; at most one class per module is supported"
  | secondConstructor => "constructor registered twice"

end Breach

def Violation.written (v : Violation) : Text :=
  "error:" ++ v.path.written ++ ": [" ++ v.breach.category ++ "] " ++ v.breach.message

namespace Check

def require (kept : Bool) (path : Path) (breach : Breach) : List Violation :=
  if kept then [] else [⟨path, breach⟩]

def typeName (path : Path) (type : ValueType) : List Violation :=
  match type.interfaceName? with
  | some name => require name.isIdentifier path (.badTypeName name)
  | none => []

/-- What is wrong with items that come after some others, the last of which stands first in
`earlier`. The first item has index `i`. -/
def eachAfterFrom {α : Type} (check : Nat → List α → α → List Violation) (earlier : List α)
    (i : Nat) : List α → List Violation
  | [] => []
  | item :: rest =>
    check i earlier item ++ eachAfterFrom check (item :: earlier) (i + 1) rest

/-- What is wrong with the items of a list, each looked at with its index and the items before it,
the last of them first. -/
def eachAfter {α : Type} (check : Nat → List α → α → List Violation) (items : List α) :
    List Violation :=
  eachAfterFrom check [] 0 items

/-- The optional argument that a misplaced required one is said to follow: the first that has a
name. -/
def firstOptional? (earlier : List Argument) : Option Text :=
  (earlier.reverse.find? fun a => !a.required && !a.name.isEmpty).map (·.name)

def placement (path : Path) (earlier : List Argument) (a : Argument) : List Violation :=
  if a.required then
    match firstOptional? earlier with
    | some optional => [⟨path, .requiredAfterOptional a.name optional⟩]
    | none => []
  else []

def argument (path : Path) (earlier : List Argument) (a : Argument) : List Violation :=
  require a.name.isIdentifier path (.badName a.name) ++
  require (!earlier.any (·.name = a.name)) path (.repeatedArgument a.name) ++
  require (!a.type.containsVoid) path (.voidArgument a.name) ++
  typeName path a.type ++
  placement path earlier a

def function (path : Path) (f : FunctionDecl) : List Violation :=
  require f.name.isIdentifier path (.badName f.name) ++
  eachAfter (fun i => argument (path.item "args" i)) f.arguments ++
  typeName (path.key "return") f.result

def property (path : Path) (earlier : List PropertyDecl) (p : PropertyDecl) : List Violation :=
  require p.name.isIdentifier path (.badName p.name) ++
  require (!earlier.any (·.name = p.name)) path (.repeatedProperty p.name) ++
  require (!p.type.containsVoid) path (.voidProperty p.name) ++
  typeName path p.type

/-- A method. Methods share a scope with the global functions, where their callbacks are defined,
and with the properties on the prototype. -/
def method (functions : List Text) (properties : List PropertyDecl) (path : Path)
    (earlier : List FunctionDecl) (f : FunctionDecl) : List Violation :=
  function path f ++
  require (!f.isConstructor) path .constructorMethod ++
  require (!earlier.any (·.name = f.name)) path (.repeatedMethod f.name) ++
  require (!functions.contains f.name) path (.methodAndFunction f.name) ++
  require (!properties.any (·.name = f.name)) path (.methodAndProperty f.name)

/-- A class, beside the names of all global functions. -/
def classDecl (path : Path) (functions : List Text) (c : ClassDecl) : List Violation :=
  function (path.key "constructor") c.constructor ++
  eachAfter (fun i => property (path.item "properties" i)) c.properties ++
  eachAfter (fun i => method functions c.properties (path.item "methods" i)) c.methods

def isFunctionNamed (name : Text) : Member → Bool
  | .function f => f.name = name
  | .cls _ => false

/-- A member that is a global function; a class is looked at later. -/
def globalFunction (path : Path) (earlier : List Member) : Member → List Violation
  | .function f =>
    function path f ++
    require (!earlier.any (isFunctionNamed f.name)) path (.repeatedFunction f.name)
  | .cls _ => []

def classMember (path : Path) (functions : List Text) : Member → List Violation
  | .function _ => []
  | .cls c => classDecl path functions c

end Check

/-- The path of a unit: its identifier, or a placeholder for an empty one. -/
def Module.root (m : Module) : Path := .ofRoot (if m.id.isEmpty then "<module>" else m.id)

open Check in
def Module.violations (m : Module) : List Violation :=
  let functions := m.functions.map (·.name)
  require m.id.isIdentifier m.root (.badModuleId m.id) ++
  require m.backing.isIdentifier m.root (.badBacking m.backing) ++
  eachAfter (fun i => globalFunction (m.root.item "members" i)) m.members ++
  require (!(m.hasClass && functions.contains m.backing)) m.root (.functionAndClass m.backing) ++
  require (m.classes.length ≤ 1) m.root (.severalClasses m.classes.length) ++
  eachAfter (fun i _ => classMember (m.root.item "members" i) functions) m.members

def Module.isValid (m : Module) : Bool := m.violations.isEmpty

end ScriptBinding
