import ScriptBinding.Call.Trace
import ScriptBinding.Glue.Statement
import ScriptBinding.Proofs.Text.Literal

/-!
What the body of a callback does. An instruction is a line or a block of the generated language; the
machine holds the variables in scope and keeps a record of the conversions and the native calls. A
variable is known by the word that its name is, whatever line feed stands behind it. Callees,
operators and classes are kept as they are written and not looked up. An instruction that means
nothing is not run: a variable declared twice or used without a declaration, an argument read that
was not given, a message that does not print.
-/
namespace ScriptBinding

def CountTest.bound : CountTest → Int
  | below n | above n | atMost n => n

def CountTest.holds (given : Nat) : CountTest → Bool
  | below n => given < n
  | above n => n < given
  | atMost n => given ≤ n

def CallTarget.opening : CallTarget → Text
  | backing className => className ++ "::"
  | receiver => "self->"

/-- What stands between the parentheses of a native call. -/
def NativeCall.given (c : NativeCall) : List Text :=
  let first : List Text := match c.target with
    | .backing _ => ["context"]
    | .receiver => []
  first ++ c.passed ++ [Text.ofString "exception_state"]

/-- The variables a native call touches beside those passed on. -/
def NativeCall.needs (c : NativeCall) : List Text :=
  let kept : List Text := if c.kept then ["return_value"] else []
  let target : Text := match c.target with
    | .backing _ => "context"
    | .receiver => "self"
  kept ++ [target, Text.ofString "exception_state"]

namespace Callback

inductive Question where
  | count (test : CountTest)
  | raised

inductive Instruction where
  | declare (name : Text)
  /-- Insists that a variable is no null pointer. -/
  | insist (name : Text)
  /-- Returns a message, a format that is given the number of arguments. -/
  | throwMessage (format : Text)
  | convert (name operator : Text) (slot : Nat)
  | returnException
  | call (c : NativeCall)
  /-- Leaves the block that runs once. -/
  | leave
  | branch (asked : Question) (body : List Instruction)
  | once (body : List Instruction)
  | giveBack (value : Text)

inductive Fault where
  | unconvertible (fault : Unconvertible)
  | native

structure Machine (β : Type) where
  /-- The stems of the variables in scope, the first declared first. A converted argument is held
  with its value. -/
  scope : List (Text × Option β)
  raised? : Option Fault
  /-- The slots and operators of the conversions, in order. -/
  attempted : List (Int × Text)
  calls : List (NativeCall × List β)

inductive Ending where
  | message (text : Text)
  | exception (fault : Fault)
  | value (written : Text)

inductive Exit where
  | onward
  | left
  | ended (e : Ending)

namespace Machine

variable {α β : Type}

def lookup (m : Machine β) (name : Text) : Option (Option β) := m.scope.lookup name.stem

def isDeclared (m : Machine β) (name : Text) : Bool := (m.lookup name).isSome

def declare (m : Machine β) (name : Text) (held : Option β) : Option (Machine β) :=
  if m.isDeclared name then none else some { m with scope := m.scope ++ [(name.stem, held)] }

def raise (m : Machine β) (fault : Fault) : Machine β := { m with raised? := some fault }

/-- A conversion declares its variable in any case. -/
def convert (values : List α) (fromValue : Text → Int → α → Except Unconvertible β)
    (m : Machine β) (name operator : Text) (slot : Nat) : Option (Machine β) := do
  let v ← values[slot]?
  let tried : Machine β := { m with attempted := m.attempted ++ [((slot : Int), operator)] }
  match fromValue operator slot v with
  | .error fault => (tried.raise (.unconvertible fault)).declare name none
  | .ok w => tried.declare name (some w)

def call (raises : NativeCall → List β → Bool) (m : Machine β) (c : NativeCall) :
    Option (Machine β) := do
  if !c.needs.all m.isDeclared then none
  let held ← c.passed.mapM fun name => (m.lookup name).join
  let made : Machine β := { m with calls := m.calls ++ [(c, held)] }
  some (if raises c held then made.raise .native else made)

def answer? (given : Nat) (m : Machine β) : Question → Option Bool
  | .count test => some (test.holds given)
  | .raised => if m.isDeclared "exception_state" then some m.raised?.isSome else none

end Machine

section
variable {α β : Type} (values : List α) (fromValue : Text → Int → α → Except Unconvertible β)
  (raises : NativeCall → List β → Bool)

mutual

/-- One instruction. The variables of a block go out of scope behind it. -/
def Instruction.run (m : Machine β) : Instruction → Option (Machine β × Exit)
  | .declare name => (m.declare name none).map (·, .onward)
  | .insist name => if m.isDeclared name then some (m, .onward) else none
  | .throwMessage format =>
    (Text.printed? [values.length] format).map fun text => (m, .ended (.message text))
  | .convert name operator slot =>
    (m.convert values fromValue name operator slot).map (·, .onward)
  | .returnException => m.raised?.map fun fault => (m, .ended (.exception fault))
  | .call c => (m.call raises c).map (·, .onward)
  | .leave => some (m, .left)
  | .branch asked body =>
    match m.answer? values.length asked with
    | none => none
    | some false => some (m, .onward)
    | some true => (runAll m body).map fun (after, exit) => ({ after with scope := m.scope }, exit)
  | .once body =>
    (runAll m body).map fun (after, exit) =>
      ({ after with scope := m.scope }, match exit with | .left => .onward | exit => exit)
  | .giveBack value => some (m, .ended (.value value))

def runAll (m : Machine β) : List Instruction → Option (Machine β × Exit)
  | [] => some (m, .onward)
  | i :: rest =>
    match i.run m with
    | some (after, .onward) => runAll after rest
    | other => other

end

/-- What can be seen of a callback. -/
structure Run (β : Type) where
  attempted : List (Int × Text)
  calls : List (NativeCall × List β)
  ending : Ending

/-- The run of a whole body, which has to return. -/
def run? (body : List Instruction) : Option (Run β) :=
  match runAll values fromValue raises ⟨[], none, [], []⟩ body with
  | some (m, .ended ending) => some ⟨m.attempted, m.calls, ending⟩
  | _ => none

end

end Callback

end ScriptBinding
