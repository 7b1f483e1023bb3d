import ScriptBinding.Proofs.Callback.Plan
import ScriptBinding.Proofs.Layout.Blocks

/-!
The native calls that are written in a block, whatever the number of arguments that leads to each.
The body of a callback has one for each point of its plan, in order, and no other.
-/
namespace ScriptBinding

namespace Callback

mutual

def Instruction.calls : Instruction → List NativeCall
  | .call c => [c]
  | .branch _ body | .once body => callsAll body
  | .declare _ | .insist _ | .throwMessage _ | .convert _ _ _ | .returnException | .leave
  | .giveBack _ => []

def callsAll : List Instruction → List NativeCall
  | [] => []
  | i :: rest => i.calls ++ callsAll rest

end

theorem callsAll_append (is js : List Instruction) :
    callsAll (is ++ js) = callsAll is ++ callsAll js := by
  induction is with
  | nil => rfl
  | cons i rest ih => simp [callsAll, ih]

theorem callsAll_flatMap {α : Type} (items : List α) (f : α → List Instruction) :
    callsAll (items.flatMap f) = items.flatMap fun a => callsAll (f a) := by
  induction items with
  | nil => rfl
  | cons a rest ih => simp [callsAll_append, ih]

section
variable (p : CallPlan) (className : Text)

theorem callsAll_guardInstructions : callsAll (guardInstructions p) = [] := by
  rw [guardInstructions, callsAll_append]
  split <;> split <;> rfl

theorem callsAll_declarationInstructions : callsAll (declarationInstructions p) = [] := by
  rw [declarationInstructions, callsAll_append]
  split <;> cases p.result.declaration? <;> rfl

theorem callsAll_pointInstructions (point : DispatchPoint) :
    callsAll (pointInstructions p className point) = [p.nativeCall className point] := by
  have conversions : callsAll (point.conversions.flatMap conversionInstructions) = [] := by
    rw [callsAll_flatMap, List.flatMap_eq_nil_iff]
    exact fun c _ => rfl
  rw [pointInstructions, callsAll_append, conversions, endingInstructions]
  split <;> rfl

theorem callsAll_bodyInstructions :
    callsAll (bodyInstructions p className) = p.points.map (p.nativeCall className) := by
  have chain : callsAll (p.points.flatMap (pointInstructions p className)) =
      p.points.map (p.nativeCall className) := by
    simp only [callsAll_flatMap, callsAll_pointInstructions, List.map_eq_flatMap]
  simp only [bodyInstructions, callsAll_append, callsAll_guardInstructions,
    callsAll_declarationInstructions, closingInstructions, callsAll, Instruction.calls,
    checkInstruction, chain, List.nil_append, List.append_nil]

end

end Callback

/-- The native calls in a block, if its lines can be read. -/
def Block.calls? (b : Block) : Option (List NativeCall) :=
  (Callback.instructions? b.inside).map Callback.callsAll

/-- A block with a line of no known form is not read. -/
theorem Block.calls?_eq_none {b : Block} {t : Text} (mem : t ∈ b.inside)
    (unread : Callback.line? t = none) : b.calls? = none := by
  have lines : ∀ (ts : List Text) (r : Callback.Reading), t ∈ ts → r.lines? ts = none := by
    intro ts
    induction ts with
    | nil => simp
    | cons first rest ih =>
        intro r mem
        rw [Callback.Reading.lines?]
        rcases List.mem_cons.mp mem with rfl | mem
        · simp [unread]
        · cases Callback.line? first with
          | none => rfl
          | some line => cases r.next? line <;> simp [ih _ mem]
  rw [Block.calls?, Callback.instructions?, lines _ _ mem]
  rfl

theorem Callback.ReadsAs.calls? {body : List Statement} {is : List Instruction}
    (h : ReadsAs body is) (opening : Text) :
    (Block.mk opening (Code.allLinesAt glueIndent 1 (Statement.codeAll body))).calls? =
      some (callsAll is) := by
  rw [Block.calls?, instructions?, h 1 ⟨[], []⟩]
  rfl

namespace FunctionDecl

variable {f : FunctionDecl} {backing : Text} (h : f.WellFormed) (word : backing.isIdentifier)
  {mode : CallMode} {strictArity : Bool} {b : Block}
  (body : b.inside =
    Code.allLinesAt glueIndent 1 ((f.callPlan mode backing strictArity).bodyCode backing))
include h word body

/-- A block whose inside is the body of a callback has a call for each point. -/
theorem calls?_of_body :
    b.calls? = some ((f.callPlan mode backing strictArity).points.map
      ((f.callPlan mode backing strictArity).nativeCall backing)) := by
  have spelled := spelled_callPlan mode strictArity h word
  rw [Block.calls?, body, Callback.instructions?_bodyCode spelled (Text.isWord_of_isIdentifier word),
    Option.map_some, Callback.callsAll_bodyInstructions]

end FunctionDecl

end ScriptBinding
