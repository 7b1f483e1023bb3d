import ScriptBinding.Numeral.Binary64
import ScriptBinding.Text.CodePoint

/-!
JSON values. Integers have any size and are kept apart from binary numbers; the members of an
object keep their order.
-/
namespace ScriptBinding

inductive Json where
  | null
  | bool (b : Bool)
  | int (n : Int)
  | real (x : Binary64)
  | str (t : Text)
  | arr (items : List Json)
  | obj (members : List (Text × Json))
deriving Inhabited

namespace Json

def find? (members : List (Text × Json)) (name : Text) : Option Json := members.lookup name

/-- The value of a member; an absent one reads as `null`. -/
def member (members : List (Text × Json)) (name : Text) : Json := (find? members name).getD null

/-- Sets a member: one of that name keeps its place, a new one goes to the end. -/
def setMember (name : Text) (value : Json) : List (Text × Json) → List (Text × Json)
  | [] => [(name, value)]
  | (other, old) :: rest =>
    if other = name then (name, value) :: rest else (other, old) :: setMember name value rest

def optional : Option Text → Json
  | some t => str t
  | none => null

end Json

end ScriptBinding
