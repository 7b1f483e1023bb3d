import ScriptBinding.Proofs.Callback.Chain
import ScriptBinding.Proofs.Interface.WellFormed

/-!
The plan of a well-formed function can be read, and its points are chained: each passes on the
arguments of the one before it and its own.
-/
namespace ScriptBinding

/-- The code points of operators: those of their names, and what stands around arguments. -/
def CodePoint.isTemplatePart (p : CodePoint) : Bool := p.isNamePart || p = '<' || p = '>'

namespace Operator

variable {P : CodePoint → Prop} (fixed : ∀ q : CodePoint, q.continuesName ∨ q = '<' ∨ q = '>' → P q)
include fixed

theorem forall_mem_written {name : Text} {o : Operator} (plain : ∀ q ∈ name, P q)
    (inner : ∀ q ∈ o.written, P q) : ∀ q ∈ (⟨name, [o]⟩ : Operator).written, P q := by
  have opening : ∀ q ∈ ("<" : Text), P q := List.forall_mem_singleton.mpr (fixed _ (.inr (.inl rfl)))
  have closing : ∀ q ∈ (">" : Text), P q := List.forall_mem_singleton.mpr (fixed _ (.inr (.inr rfl)))
  have alone : Text.join ", " [o.written] = o.written := List.intercalate_singleton
  rw [written, writtenAll, alone]
  simp only [List.forall_mem_append]
  exact ⟨⟨⟨plain, opening⟩, inner⟩, closing⟩

/-- What the operators of types are written with, but for the names of interfaces. -/
theorem forall_mem_operator {t : ValueType}
    (interface : ∀ name ∈ t.interfaceName?, ∀ q ∈ name, P q) : ∀ q ∈ t.operator.written, P q := by
  have listed {o : Operator} (plain : ∀ q ∈ o.written, q.continuesName) : ∀ q ∈ o.written, P q :=
    fun q mem => fixed q (.inl (plain q mem))
  have any : ∀ q ∈ Operator.any.written, P q := listed (by decide)
  induction t with
  | primitive q =>
      cases q with
      | unlisted _ _ => exact any
      | void | boolean | int32 | int64 | double | string | object | any | function =>
          exact listed (by decide)
  | interface name => exact interface name rfl
  | sequence element ih =>
      have name : ∀ q ∈ ("IDLSequence" : Text), q.continuesName := by decide
      exact forall_mem_written fixed (fun q mem => fixed q (.inl (name q mem))) (ih interface)
  | promise | owned _ => exact any

theorem forall_mem_optional {o : Operator} (inner : ∀ q ∈ o.written, P q) :
    ∀ q ∈ o.optional.written, P q := by
  have name : ∀ q ∈ optionalName, q.continuesName := by decide
  exact forall_mem_written fixed (fun q mem => fixed q (.inl (name q mem))) inner

end Operator

theorem CodePoint.isTemplatePart_of_fixed {q : CodePoint}
    (h : q.continuesName ∨ q = '<' ∨ q = '>') : q.isTemplatePart := by
  rcases h with continues | rfl | rfl
  · simp [isTemplatePart, isNamePart, continues]
  · rfl
  · rfl

namespace ValueType

variable {t : ValueType} (h : t.Spellable)
include h

theorem isTemplatePart_operator : ∀ q ∈ t.operator.written, q.isTemplatePart := by
  refine Operator.forall_mem_operator (fun _ => CodePoint.isTemplatePart_of_fixed) ?_
  intro name named q mem
  have part := Text.isNamePart_of_isIdentifier
    (h name ((t.interfaceName?_eq_some_iff name).mp named)) q mem
  rw [CodePoint.isTemplatePart, part]
  rfl

theorem colon_not_mem_operator : .scalar ':' ∉ t.operator.written := fun mem =>
  absurd (isTemplatePart_operator h _ mem) (by decide)

end ValueType

namespace FunctionDecl

open Callback

variable (f : FunctionDecl) (mode : CallMode) (backing : Text) (strictArity : Bool)

theorem conversions_callPlan : (f.callPlan mode backing strictArity).conversions = f.slots := by
  have all := f.conversions_take_points mode backing strictArity
    (f.arguments.length - f.requiredCount)
  have declared := f.requiredCount_le
  rw [List.take_of_length_le (by simp), List.take_of_length_le (by simp; omega)] at all
  exact all

theorem map_name_zipIdx (arguments : List Argument) (first : Nat) :
    (arguments.zipIdx first).map (fun pair => pair.1.name) = arguments.map (·.name) := by
  have split : (fun pair : Argument × Nat => pair.1.name) = (·.name) ∘ Prod.fst := rfl
  rw [split, ← List.map_map, List.zipIdx_map_fst]

theorem map_name_slots : f.slots.map (·.argument.name) = f.arguments.map (·.name) := by
  rw [slots, List.map_map]
  exact map_name_zipIdx f.arguments 0

theorem exists_of_mem_slots {c : Conversion} (mem : c ∈ f.slots) :
    ∃ slot, ∃ a ∈ f.arguments, c = f.conversionIn slot a := by
  obtain ⟨⟨a, slot⟩, listed, rfl⟩ := List.mem_map.mp mem
  exact ⟨slot, a, List.fst_mem_of_mem_zipIdx listed, rfl⟩

/-- Every point passes on the first so many arguments, and its arity is a number of arguments. -/
theorem spec_of_mem_points {point : DispatchPoint}
    (mem : point ∈ (f.callPlan mode backing strictArity).points) :
    (∃ n : Nat, point.arity = n) ∧
      ∃ n, point.callArguments = (f.arguments.take n).map (·.name) := by
  obtain ⟨number, at_number⟩ := List.mem_iff_getElem?.mp mem
  obtain ⟨arity, callArguments, -⟩ := f.point_spec mode backing strictArity at_number
  exact ⟨⟨_, arity⟩, _, callArguments⟩

theorem exists_of_mem_conversions {point : DispatchPoint}
    (mem : point ∈ (f.callPlan mode backing strictArity).points) {c : Conversion}
    (listed : c ∈ point.conversions) : ∃ slot, ∃ a ∈ f.arguments, c = f.conversionIn slot a := by
  apply f.exists_of_mem_slots
  rw [← f.conversions_callPlan mode backing strictArity]
  exact List.mem_flatMap.mpr ⟨point, mem, listed⟩

variable {f} {backing}

theorem isTemplatePart_conversionIn (h : f.WellFormed) {a : Argument} (mem : a ∈ f.arguments)
    (slot : Nat) : ∀ q ∈ (f.conversionIn slot a).operator.written, q.isTemplatePart := by
  have plain := ValueType.isTemplatePart_operator (h.argumentTypes a mem)
  rw [conversionIn]
  split
  · exact plain
  · exact Operator.forall_mem_optional (fun _ => CodePoint.isTemplatePart_of_fixed) plain

theorem eq_operator_of_callResult {mode : CallMode} {operator : Operator}
    (converted : f.callResult mode backing = .converted operator) : operator = f.result.operator := by
  rw [callResult] at converted
  split at converted
  · cases converted
  · split at converted
    · cases converted
    · cases converted
    · cases converted
    · exact (CallResult.converted.inj converted).symm

/-- An instance that is owned is one of the backing class, or of the interface of the result. -/
theorem eq_backing_or_of_callResult {mode : CallMode} {type : Text}
    (owned : f.callResult mode backing = .owned type) : type = backing ∨ f.result = .owned type := by
  rw [callResult] at owned
  split at owned
  · exact .inl (CallResult.owned.inj owned).symm
  · split at owned
    · cases owned
    · rename_i name result
      exact .inr (CallResult.owned.inj owned ▸ result)
    · cases owned
    · cases owned

theorem spelled_callResult (h : f.result.Spellable) (word : backing.isIdentifier) :
    (f.callResult mode backing).Spelled := by
  rw [callResult]
  split
  · exact Text.isWord_of_isIdentifier word
  · split
    · trivial
    · rename_i name owned
      exact Text.isWord_of_isIdentifier (h name (.inr (by rw [owned]; rfl)))
    · trivial
    · exact ValueType.colon_not_mem_operator h

theorem spelled_callPlan (h : f.WellFormed) (word : backing.isIdentifier) :
    (f.callPlan mode backing strictArity).Spelled := by
  constructor
  · show f.callee.isWord
    rw [callee]
    split
    · decide
    · exact Text.isWord_of_isIdentifier h.name
  · exact Int.natCast_nonneg _
  · exact Int.natCast_nonneg _
  · intro p mem
    obtain ⟨⟨n, arity⟩, -⟩ := f.spec_of_mem_points mode backing strictArity mem
    exact arity ▸ Int.natCast_nonneg n
  · intro p mem name passed
    obtain ⟨-, n, callArguments⟩ := f.spec_of_mem_points mode backing strictArity mem
    rw [callArguments] at passed
    obtain ⟨a, taken, rfl⟩ := List.mem_map.mp passed
    exact Text.isWord_of_isIdentifier (h.argumentNames a (List.mem_of_mem_take taken))
  · intro p mem c listed
    obtain ⟨slot, a, declared, rfl⟩ :=
      f.exists_of_mem_conversions mode backing strictArity mem listed
    exact Text.isWord_of_isIdentifier (h.argumentNames a declared)
  · intro p mem c listed
    obtain ⟨slot, a, declared, rfl⟩ :=
      f.exists_of_mem_conversions mode backing strictArity mem listed
    exact fun colon =>
      absurd (isTemplatePart_conversionIn h declared slot _ colon) (by decide)
  · intro p mem c listed
    obtain ⟨slot, a, declared, rfl⟩ :=
      f.exists_of_mem_conversions mode backing strictArity mem listed
    exact Int.natCast_nonneg slot
  · exact spelled_callResult mode h.result word

/-- The points behind some arguments pass these on, and one more each. -/
theorem chained_optional {n : Nat} {rest : List Argument} (behind : f.arguments.drop n = rest) :
    Chained ((f.arguments.take n).map (·.name))
      ((rest.zipIdx n).map fun (a, slot) => f.optionalPoint a slot) := by
  induction rest generalizing n with
  | nil => trivial
  | cons a others ih =>
      have later : f.arguments.drop (n + 1) = others := by
        rw [← List.tail_drop, behind, List.tail_cons]
      have taken : f.arguments.take (n + 1) = f.arguments.take n ++ [a] := by
        have here : f.arguments[n]? = some a := by
          rw [← List.head?_drop, behind]
          rfl
        rw [List.take_add_one, here]
        rfl
      refine ⟨?_, ?_, ih later⟩
      · simp [optionalPoint, taken]
      · intro last
        have done : n + 1 = f.arguments.length := by simpa [optionalPoint] using last
        rw [done, List.drop_length] at later
        simp [← later]

theorem chained_points : Chained [] (f.callPlan mode backing strictArity).points := by
  refine ⟨?_, ?_, ?_⟩
  · rw [List.nil_append, requiredPoint, List.map_map]
    exact (map_name_zipIdx (f.arguments.take f.requiredCount) 0).symm
  · intro last
    have done : f.arguments.length = f.requiredCount := by simpa [requiredPoint] using last
    simp [done]
  · exact chained_optional rfl

end FunctionDecl

end ScriptBinding
