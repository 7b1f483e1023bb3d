import ScriptBinding.Call.Operator
import ScriptBinding.Text.LetterCase

/-!
The callbacks of a property: one that reads it, and one that writes it unless it is read-only.
-/
namespace ScriptBinding

structure Setter where
  callback : Text
  /-- The native member that takes the new value. -/
  native : Text

structure Accessor where
  property : PropertyDecl
  operator : Operator
  getter : Text
  nativeGetter : Text
  setter? : Option Setter

def PropertyDecl.setter (p : PropertyDecl) : Setter :=
  ⟨p.name ++ "AttributeSetCallback", "set" ++ p.name.capitalized⟩

def PropertyDecl.accessor (p : PropertyDecl) : Accessor :=
  { property := p
    operator := p.type.operator
    getter := p.name ++ "AttributeGetCallback"
    nativeGetter := p.name
    setter? := if p.readOnly then none else some p.setter }

end ScriptBinding
