import ScriptBinding.Text.CodePoint

/-!
Places in a declaration: a root with a name of its own, and steps down from it.
-/
namespace ScriptBinding

inductive PathStep where
  | key (name : Text)
  | index (i : Nat)
deriving DecidableEq

structure Path where
  root : Text
  steps : List PathStep
deriving DecidableEq

def PathStep.written : PathStep → Text
  | key name => "." ++ name
  | index i => "[" ++ Text.decimal i ++ "]"

namespace Path

def ofRoot (root : Text) : Path := ⟨root, []⟩

def key (p : Path) (name : Text) : Path := { p with steps := p.steps ++ [.key name] }

def index (p : Path) (i : Nat) : Path := { p with steps := p.steps ++ [.index i] }

def item (p : Path) (name : Text) (i : Nat) : Path := (p.key name).index i

def written (p : Path) : Text := p.root ++ p.steps.flatMap PathStep.written

end Path

end ScriptBinding
