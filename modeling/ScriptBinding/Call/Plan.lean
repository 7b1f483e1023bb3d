import ScriptBinding.Call.Operator

/-!
How one function is called with any number of arguments: the required arguments are converted first;
then the call is made with as many arguments as were given, converting one more optional argument
after each number that is too small. The last point of the chain takes every call that reaches it.

A plan can also be put together by hand, so that its slots and counts may be any integers; those of
a planned function are never negative.
-/
namespace ScriptBinding

inductive CallMode where
  | function
  | method
  | constructor
deriving DecidableEq

def CallMode.name : CallMode → Text
  | function => "function"
  | method => "method"
  | constructor => "constructor"

/-- What the native call gives back, and so what the callback returns. -/
inductive CallResult where
  | nothing
  | promise
  | owned (type : Text)
  | converted (operator : Operator)
deriving DecidableEq

/-- The conversion of the value in one slot of the call. -/
structure Conversion where
  argument : Argument
  slot : Int
  operator : Operator
deriving DecidableEq

/-- The value in a slot. Negative slots count from the end: the last value is in slot -1. -/
def slotValue? {α : Type} (values : List α) : Int → Option α
  | .ofNat i => values[i]?
  | .negSucc i => values.reverse[i]?

def localName (argument : Text) : Text := "args_" ++ argument

namespace Conversion

def localName (c : Conversion) : Text := ScriptBinding.localName c.argument.name

def isOptional (c : Conversion) : Bool := c.operator.isOptional

end Conversion

/-- A native call that may be made here, after the conversions of this point. -/
structure DispatchPoint where
  conversions : List Conversion
  /-- The call is made with this many arguments or fewer. -/
  arity : Int
  callArguments : List Text
  /-- The call is made in any case. -/
  catchAll : Bool
deriving DecidableEq

def DispatchPoint.fires (p : DispatchPoint) (count : Nat) : Bool := p.catchAll || count ≤ p.arity

structure CallPlan where
  name : Text
  callee : Text
  mode : CallMode
  required : Int
  accepted : Int
  strictArity : Bool
  points : List DispatchPoint
  result : CallResult
deriving DecidableEq

namespace CallPlan

def conversions (p : CallPlan) : List Conversion := p.points.flatMap (·.conversions)

def isStatic (p : CallPlan) : Bool := p.mode ≠ .method

end CallPlan

namespace FunctionDecl

def callee (f : FunctionDecl) : Text := if f.isConstructor then "Create" else f.name

def callResult (f : FunctionDecl) (mode : CallMode) (backing : Text) : CallResult :=
  if mode = .constructor then .owned backing
  else match f.result with
    | .promise => .promise
    | .owned name => .owned name
    | .primitive .void => .nothing
    | type => .converted type.operator

def requiredPoint (f : FunctionDecl) : DispatchPoint :=
  let required := f.arguments.take f.requiredCount
  { conversions := required.zipIdx.map fun (a, i) => ⟨a, i, a.type.operator⟩
    arity := f.requiredCount
    callArguments := required.map (·.name)
    catchAll := f.arguments.length = f.requiredCount }

/-- The point after the required ones that adds the argument in one slot. -/
def optionalPoint (f : FunctionDecl) (a : Argument) (slot : Nat) : DispatchPoint :=
  { conversions := [⟨a, slot, a.type.operator.optional⟩]
    arity := slot + 1
    callArguments := (f.arguments.take (slot + 1)).map (·.name)
    catchAll := slot + 1 = f.arguments.length }

def callPlan (f : FunctionDecl) (mode : CallMode) (backing : Text) (strictArity : Bool) :
    CallPlan :=
  let optional := f.arguments.drop f.requiredCount
  { name := f.name
    callee := f.callee
    mode
    required := f.requiredCount
    accepted := f.arguments.length
    strictArity
    points := f.requiredPoint ::
      (optional.zipIdx f.requiredCount).map fun (a, slot) => f.optionalPoint a slot
    result := f.callResult mode backing }

end FunctionDecl

end ScriptBinding
