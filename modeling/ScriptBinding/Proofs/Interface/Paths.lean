import ScriptBinding.Interface.Path
import ScriptBinding.Json.Basic
import ScriptBinding.Proofs.Text.Scan

/-!
Paths, read back from their texts, and the nodes they lead to. A text is read in one way only, as
long as no name in the path holds one of the marks that begin a step.
-/
namespace ScriptBinding

/-- A name without the marks that begin a step. -/
def Text.Unmarked (t : Text) : Prop := .scalar '.' ∉ t ∧ .scalar '[' ∉ t

instance (t : Text) : Decidable t.Unmarked :=
  inferInstanceAs (Decidable (.scalar '.' ∉ t ∧ .scalar '[' ∉ t))

def PathStep.Unmarked : PathStep → Prop
  | key name => name.Unmarked
  | index _ => True

namespace Path

/-- The number before a closing bracket. -/
def index? (t : Text) : Option Nat := (Text.before? "]" t).bind Text.toNat?

/-- The text up to the first mark, and the steps from there on. -/
def readFrom : Text → Option (Text × List PathStep)
  | [] => some ([], [])
  | p :: rest => do
    let (word, steps) ← readFrom rest
    if p = '.' then some ([], .key word :: steps)
    else if p = '[' then (index? word).map fun i => ([], .index i :: steps)
    else some (p :: word, steps)

/-- The path that a text writes. -/
def read? (t : Text) : Option Path := (readFrom t).map fun (root, steps) => ⟨root, steps⟩

theorem readFrom_append {word rest : Text} {steps : List PathStep} (unmarked : word.Unmarked)
    (behind : readFrom rest = some ([], steps)) : readFrom (word ++ rest) = some (word, steps) := by
  induction word with
  | nil => exact behind
  | cons p word ih =>
      obtain ⟨dot, dotless⟩ := not_or.mp (mt List.mem_cons.mpr unmarked.1)
      obtain ⟨bracket, closed⟩ := not_or.mp (mt List.mem_cons.mpr unmarked.2)
      rw [List.cons_append, readFrom, ih ⟨dotless, closed⟩]
      simp [Ne.symm dot, Ne.symm bracket]

theorem unmarked_decimal_append (i : Nat) : (Text.decimal i ++ "]").Unmarked := by
  have foreign {p : CodePoint} (mark : p.isDigit = false) : p ∉ Text.decimal i := fun mem => by
    rw [Text.isDigit_of_mem_decimal p mem] at mark
    exact Bool.noConfusion mark
  constructor
  · exact List.not_mem_append (foreign (by decide)) (by decide)
  · exact List.not_mem_append (foreign (by decide)) (by decide)

theorem readFrom_written {steps : List PathStep} (unmarked : ∀ step ∈ steps, step.Unmarked) :
    readFrom (steps.flatMap PathStep.written) = some ([], steps) := by
  induction steps with
  | nil => rfl
  | cons step rest ih =>
      obtain ⟨first, others⟩ := List.forall_mem_cons.mp unmarked
      rw [List.flatMap_cons]
      cases step with
      | key name =>
          have named := readFrom_append first (ih others)
          show readFrom (.scalar '.' :: (name ++ _)) = _
          rw [readFrom, named]
          rfl
      | index i =>
          have numbered := readFrom_append (unmarked_decimal_append i) (ih others)
          show readFrom (.scalar '[' :: (Text.decimal i ++ "]" ++ _)) = _
          rw [readFrom, numbered]
          simp [index?, Text.before?_append, Text.toNat?_decimal]

/-- A path whose names hold no marks is read back from its text. -/
theorem read?_written {path : Path} (root : path.root.Unmarked)
    (unmarked : ∀ step ∈ path.steps, step.Unmarked) : read? path.written = some path := by
  rw [read?, written, readFrom_append root (readFrom_written unmarked)]
  rfl

example : read? "modules[0].id" = some ⟨"modules", [.index 0, .key "id"]⟩ := rfl

end Path

namespace Json

/-- The node at the end of some steps. A member that is absent reads as `null`, from which no step
leads on. -/
def follow? : List PathStep → Json → Option Json
  | [], v => some v
  | .key name :: rest, obj members => follow? rest (member members name)
  | .index i :: rest, arr items => items[i]?.bind (follow? rest)
  | _ :: _, _ => none

/-- What the root of a path stands for: the whole input, or the list of units in it. -/
def root? (v : Json) (root : Text) : Option Json :=
  if root = "$" ∨ root = "module" then some v
  else if root = "modules" then
    match v with
    | obj members => find? members "modules"
    | _ => none
  else none

/-- The node of an input that a path leads to. -/
def at? (v : Json) (path : Path) : Option Json := (v.root? path.root).bind (follow? path.steps)

end Json

end ScriptBinding
