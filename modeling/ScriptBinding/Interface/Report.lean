import ScriptBinding.Interface.Basic
import ScriptBinding.Json.Basic

/-!
Declarations as JSON values, in the notation they are loaded from. A type that only a result can
have has no notation where it stands for an argument, a property or an element.
-/
namespace ScriptBinding

/-- A type that has no notation in its place. -/
inductive Unreportable where
  | promise
  | owned

def Unreportable.message : Unreportable → Text
  | promise => "type: PromiseType"
  | owned => "type: InterfaceReturn"

namespace ValueType

def report : ValueType → Except Unreportable Json
  | primitive p => .ok (.str p.name)
  | interface name => .ok (.str name)
  | sequence element => do
    let node ← element.report
    .ok (.obj [("sequence", node)])
  | promise => .error .promise
  | owned _ => .error .owned

/-- As a result a bare name is an owning pointer, so that an ordinary interface is marked. -/
def reportResult : ValueType → Except Unreportable Json
  | interface name => .ok (.obj [("converted", .str name)])
  | promise => .ok (.str "Promise")
  | owned name => .ok (.str name)
  | primitive p => (primitive p).report
  | sequence element => (sequence element).report

end ValueType

def Argument.report (a : Argument) : Except Unreportable Json := do
  let type ← a.type.report
  .ok (.obj [("name", .str a.name), ("type", type), ("required", .bool a.required)])

namespace FunctionDecl

def reportMembers (f : FunctionDecl) : Except Unreportable (List (Text × Json)) := do
  let arguments ← f.arguments.mapM Argument.report
  let result ← f.result.reportResult
  .ok [("name", .str f.name), ("args", .arr arguments), ("return", result)]

def report (f : FunctionDecl) : Except Unreportable Json := f.reportMembers.map .obj

end FunctionDecl

def PropertyDecl.report (p : PropertyDecl) : Except Unreportable Json := do
  let type ← p.type.report
  .ok (.obj [("name", .str p.name), ("type", type), ("readonly", .bool p.readOnly)])

def ClassDecl.report (c : ClassDecl) : Except Unreportable Json := do
  let constructor ← c.constructor.report
  let properties ← c.properties.mapM PropertyDecl.report
  let methods ← c.methods.mapM FunctionDecl.report
  .ok (.obj [("kind", .str "class"), ("constructor", constructor), ("properties", .arr properties),
    ("methods", .arr methods)])

def Member.report : Member → Except Unreportable Json
  | function decl => do
    let members ← decl.reportMembers
    let kind : Text × Json := ("kind", .str "function")
    .ok (.obj (members ++ [kind]))
  | cls decl => decl.report

/-- The header of the implementation is left out where it is the one named after the unit. -/
def Module.report (m : Module) : Except Unreportable Json := do
  let members ← m.members.mapM Member.report
  let fields : List (Text × Json) :=
    [("id", .str m.id), ("backing_type", .str m.backing), ("members", .arr members)]
  let implementation : List (Text × Json) :=
    if m.implementation.isEmpty then [] else [("impl", .str m.implementation)]
  .ok (.obj (fields ++ implementation))

end ScriptBinding
