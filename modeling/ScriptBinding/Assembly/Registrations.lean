import ScriptBinding.Interface.Check

/-!
The tables that install a unit: global functions, the class constructor, and the methods and
properties of the prototype. Each member contributes tables of its own; those of the unit are their
merge, which fails if two members bring a constructor.
-/
namespace ScriptBinding

/-- A unit that was not generated, and why. -/
structure Rejection where
  moduleId : Text
  violations : List Violation

def Rejection.message (r : Rejection) : Text :=
  "invalid declarations in module '" ++ r.moduleId ++ "': " ++
    Text.join "; " (r.violations.map Violation.written)

structure FunctionRow where
  name : Text
  callback : Text
  /-- The number of declared arguments. -/
  length : Int
deriving DecidableEq

structure PropertyRow where
  name : Text
  getter : Text
  setter? : Option Text
deriving DecidableEq

structure Registrations where
  globalFunctions : List FunctionRow
  constructor? : Option Text
  prototypeMethods : List FunctionRow
  prototypeProperties : List PropertyRow
deriving DecidableEq

namespace Registrations

def empty : Registrations := ⟨[], none, [], []⟩

def hasClass (r : Registrations) : Bool := r.constructor?.isSome

/-- One of two constructors, if there are not both. -/
def mergeConstructors : Option Text → Option Text → Except Rejection (Option Text)
  | some name, some _ => .error ⟨name, [⟨.ofRoot name, .secondConstructor⟩]⟩
  | some name, none => .ok (some name)
  | none, other => .ok other

def merge (r s : Registrations) : Except Rejection Registrations := do
  let constructor? ← mergeConstructors r.constructor? s.constructor?
  .ok
    { globalFunctions := r.globalFunctions ++ s.globalFunctions
      constructor?
      prototypeMethods := r.prototypeMethods ++ s.prototypeMethods
      prototypeProperties := r.prototypeProperties ++ s.prototypeProperties }

end Registrations

end ScriptBinding
