import ScriptBinding.Interface.Basic

/-!
Conversion operators, and the one that each type is converted with. Every type has one: what has no
operator of its own is converted as any value.
-/
namespace ScriptBinding

/-- An operator, applied to the operators of what it is made from. -/
structure Operator where
  name : Text
  arguments : List Operator
deriving Inhabited

namespace Operator

mutual

def decideEq : (a b : Operator) → Decidable (a = b)
  | ⟨name, arguments⟩, ⟨name', arguments'⟩ =>
    match decEq name name', decideEqAll arguments arguments' with
    | isTrue h, isTrue h' => isTrue (by rw [h, h'])
    | isFalse h, _ => isFalse fun e => h (Operator.mk.inj e).1
    | _, isFalse h => isFalse fun e => h (Operator.mk.inj e).2

def decideEqAll : (as bs : List Operator) → Decidable (as = bs)
  | [], [] => isTrue rfl
  | [], _ :: _ => isFalse nofun
  | _ :: _, [] => isFalse nofun
  | a :: as, b :: bs =>
    match decideEq a b, decideEqAll as bs with
    | isTrue h, isTrue h' => isTrue (by rw [h, h'])
    | isFalse h, _ => isFalse fun e => h (List.cons.inj e).1
    | _, isFalse h => isFalse fun e => h (List.cons.inj e).2

end

instance : DecidableEq Operator := decideEq

mutual

/-- The operator as a template argument. -/
def written : Operator → Text
  | ⟨name, []⟩ => name
  | ⟨name, first :: others⟩ =>
    name ++ "<" ++ Text.join ", " (first.written :: writtenAll others) ++ ">"

def writtenAll : List Operator → List Text
  | [] => []
  | o :: rest => o.written :: writtenAll rest

end

def optionalName : Text := "IDLOptional"

def isOptional (o : Operator) : Bool := o.name = optionalName

def plain (name : Text) : Operator := ⟨name, []⟩

def any : Operator := plain "IDLAny"

def sequence (element : Operator) : Operator := ⟨"IDLSequence", [element]⟩

def optional (o : Operator) : Operator := ⟨optionalName, [o]⟩

end Operator

def Primitive.operator : Primitive → Operator
  | boolean => .plain "IDLBoolean"
  | int32 => .plain "IDLInt32"
  | int64 => .plain "IDLInt64"
  | double => .plain "IDLDouble"
  | string => .plain "IDLDOMString"
  | object => .plain "IDLObject"
  | function => .plain "IDLCallback"
  | void | any | unlisted _ _ => .any

/-- The operator of a required value. An interface is its own operator. -/
def ValueType.operator : ValueType → Operator
  | primitive p => p.operator
  | interface name => .plain name
  | sequence element => .sequence element.operator
  | promise | owned _ => .any

end ScriptBinding
