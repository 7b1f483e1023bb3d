import ScriptBinding.Proofs.Callback.Plan

/-!
Which values of a call may be absent. A conversion is known to take an absent value by the name of
its operator. The operator of a required argument has that name only if the argument is of an
interface that is named so; with this exception, the conversions that take absent values are those
of the optional arguments.
-/
namespace ScriptBinding

namespace Operator

theorem isOptional_iff (o : Operator) : o.isOptional ↔ o.name = optionalName := by
  rw [isOptional, decide_eq_true_eq]

theorem isOptional_optional (o : Operator) : o.optional.isOptional := (isOptional_iff _).mpr rfl

theorem not_isOptional_any : ¬ any.isOptional := by decide

end Operator

/-- Of all types, only the interface of this name has an operator that takes an absent value. -/
theorem ValueType.isOptional_operator_iff (t : ValueType) :
    t.operator.isOptional ↔ t = .interface Operator.optionalName := by
  cases t with
  | primitive p =>
      cases p with
      | unlisted _ _ => exact iff_of_false Operator.not_isOptional_any nofun
      | void | boolean | int32 | int64 | double | string | object | any | function =>
          exact iff_of_false (by decide) nofun
  | interface name => rw [Operator.isOptional_iff, interface.injEq, operator, Operator.plain]
  | sequence element =>
      rw [Operator.isOptional_iff]
      exact iff_of_false (by decide : ("IDLSequence" : Text) ≠ Operator.optionalName) nofun
  | promise | owned _ => exact iff_of_false Operator.not_isOptional_any nofun

/-- Where required arguments come first, they stand in the places below their number: none is left
behind an optional one. -/
theorem Argument.required_iff_lt_countP {arguments : List Argument}
    (requiredFirst : arguments.Pairwise fun a b => b.required → a.required) {place : Nat}
    {a : Argument} (found : arguments[place]? = some a) :
    a.required ↔ place < arguments.countP (·.required) := by
  induction arguments generalizing place with
  | nil => simp at found
  | cons first rest ih =>
      obtain ⟨before, later⟩ := List.pairwise_cons.mp requiredFirst
      cases required : first.required with
      | true =>
          rw [List.countP_cons_of_pos required]
          cases place with
          | zero =>
              obtain rfl := Option.some.inj found
              simp [required]
          | succ place =>
              exact (ih later found).trans Nat.succ_lt_succ_iff.symm
      | false =>
          have others : ∀ b ∈ first :: rest, ¬ b.required := by
            rw [List.forall_mem_cons]
            exact ⟨by simp [required], fun b mem given => by simp [before b mem given] at required⟩
          have none : (first :: rest).countP (·.required) = 0 := List.countP_eq_zero.mpr others
          simp [none, others a (List.mem_of_getElem? found)]

namespace FunctionDecl

variable {f : FunctionDecl}

theorem mem_slots_iff {c : Conversion} :
    c ∈ f.slots ↔ ∃ slot a, f.arguments[slot]? = some a ∧ c = f.conversionIn slot a := by
  simp only [slots, List.mem_map, Prod.exists, List.mem_zipIdx_iff_getElem?, eq_comm]
  exact exists_comm

theorem isOptional_conversionIn (h : f.WellFormed) {slot : Nat} {a : Argument}
    (found : f.arguments[slot]? = some a) :
    (f.conversionIn slot a).isOptional ↔
      ¬ a.required ∨ a.type = .interface Operator.optionalName := by
  have required : a.required ↔ slot < f.requiredCount :=
    Argument.required_iff_lt_countP h.requiredFirst found
  rw [Conversion.isOptional, conversionIn]
  split
  case isTrue early =>
    rw [ValueType.isOptional_operator_iff]
    exact (or_iff_right (not_not.mpr (required.mpr early))).symm
  case isFalse late =>
    exact iff_of_true (Operator.isOptional_optional _) (.inl (mt required.mp late))

/-- In the plan of an accepted function, a conversion takes an absent value if its argument is
optional, or of the interface that is named like the operator for absent values; so it does
exactly for optional arguments if and only if no required one is of that interface. No other type
has such an operator. -/
theorem isOptional_conversions_iff {path : Path} (accepted : Check.function path f = [])
    (mode : CallMode) (backing : Text) (strictArity : Bool) :
    let conversions := (f.callPlan mode backing strictArity).conversions
    (∀ c ∈ conversions, c.argument ∈ f.arguments ∧
      (c.isOptional ↔ ¬ c.argument.required ∨
        c.argument.type = .interface Operator.optionalName)) ∧
    ((∀ c ∈ conversions, c.isOptional ↔ ¬ c.argument.required) ↔
      ∀ a ∈ f.arguments, a.required → a.type ≠ .interface Operator.optionalName) ∧
    ∀ t : ValueType, (t.operator.isOptional ↔ t = .interface Operator.optionalName) ∧
      t.operator.optional.isOptional := by
  intro conversions
  have formed := (Check.function_eq_nil_iff path f).mp accepted
  have slots : conversions = f.slots := f.conversions_callPlan mode backing strictArity
  have each : ∀ c ∈ conversions, c.argument ∈ f.arguments ∧
      (c.isOptional ↔ ¬ c.argument.required ∨
        c.argument.type = .interface Operator.optionalName) := by
    intro c mem
    rw [slots, mem_slots_iff] at mem
    obtain ⟨slot, a, found, rfl⟩ := mem
    exact ⟨List.mem_of_getElem? found, isOptional_conversionIn formed found⟩
  refine ⟨each, ⟨?_, ?_⟩, fun t => ⟨t.isOptional_operator_iff, Operator.isOptional_optional _⟩⟩
  · intro alike a mem required named
    obtain ⟨slot, found⟩ := List.mem_iff_getElem?.mp mem
    have converted : f.conversionIn slot a ∈ conversions :=
      slots ▸ mem_slots_iff.mpr ⟨slot, a, found, rfl⟩
    have optional := (isOptional_conversionIn formed found).mpr (.inr named)
    exact (alike _ converted).mp optional required
  · intro others c mem
    obtain ⟨declared, iff⟩ := each c mem
    exact iff.trans (or_iff_left_iff_imp.mpr fun named required =>
      others _ declared required named)

/-- A function with one required argument of this type. -/
def fetching (type : ValueType) : FunctionDecl :=
  ⟨"fetch", [⟨"source", type, true⟩, ⟨"depth", .primitive .int32, false⟩], .promise⟩

theorem isOptional_conversions_fetching :
    let f := fetching (.sequence (.interface "Node"))
    Check.function (.ofRoot "fetch") f = [] ∧
      ∀ c ∈ (f.callPlan .function "Page" true).conversions,
        c.isOptional ↔ ¬ c.argument.required := by
  intro f
  have accepted : Check.function (.ofRoot "fetch") f = [] := rfl
  have others : ∀ a ∈ f.arguments, a.required → a.type ≠ .interface Operator.optionalName := by
    decide
  exact ⟨accepted,
    (isOptional_conversions_iff accepted .function "Page" true).2.1.mpr others⟩

/-- An interface may be named like the operator for absent values; a required argument of it is then
converted as if it were optional. -/
theorem not_isOptional_conversions_fetching :
    let f := fetching (.interface "IDLOptional")
    Check.function (.ofRoot "fetch") f = [] ∧
      ∃ c ∈ (f.callPlan .function "Page" false).conversions,
        c.isOptional ∧ c.argument.required := by
  intro f
  exact ⟨rfl, _, List.mem_cons_self, rfl, rfl⟩

end FunctionDecl

end ScriptBinding
