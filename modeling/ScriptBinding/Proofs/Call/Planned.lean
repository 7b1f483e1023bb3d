import ScriptBinding.Proofs.Call.Chain

/-!
The chain planned for a declaration. Its conversions are those of the slots in order, and the point
with a given number takes that many arguments beyond the required ones. A call thus ends in one of
four ways, which the numbers of arguments and the first conversion that fails decide.
-/
namespace ScriptBinding

namespace FunctionDecl

/-- The conversion of an argument in its slot: from the first slot behind the required ones on, the
value may be absent. -/
def conversionIn (f : FunctionDecl) (slot : Nat) (a : Argument) : Conversion :=
  ⟨a, slot, if slot < f.requiredCount then a.type.operator else a.type.operator.optional⟩

/-- The conversions of all declared arguments, each in the slot of its place. -/
def slots (f : FunctionDecl) : List Conversion :=
  f.arguments.zipIdx.map fun (a, slot) => f.conversionIn slot a

variable (f : FunctionDecl)

theorem requiredCount_le : f.requiredCount ≤ f.arguments.length := List.countP_le_length

@[simp] theorem length_slots : f.slots.length = f.arguments.length := by simp [slots]

theorem slots_eq_append :
    f.slots = f.requiredPoint.conversions ++
      ((f.arguments.drop f.requiredCount).zipIdx f.requiredCount).map fun (a, slot) =>
        ⟨a, slot, a.type.operator.optional⟩ := by
  have split : f.arguments.zipIdx =
      (f.arguments.take f.requiredCount).zipIdx ++
        (f.arguments.drop f.requiredCount).zipIdx f.requiredCount := by
    conv_lhs => rw [← List.take_append_drop f.requiredCount f.arguments, List.zipIdx_append]
    rw [List.length_take_of_le f.requiredCount_le, Nat.zero_add]
  rw [slots, split, List.map_append, requiredPoint]
  congr 1
  · refine List.map_congr_left fun (a, slot) mem => ?_
    have bound := (List.mem_zipIdx mem).2.1
    have : slot < f.requiredCount := by
      rw [List.length_take_of_le f.requiredCount_le] at bound
      omega
    simp [conversionIn, this]
  · refine List.map_congr_left fun (a, slot) mem => ?_
    have : ¬ slot < f.requiredCount := Nat.not_lt.mpr (List.mem_zipIdx mem).1
    simp [conversionIn, this]

variable (mode : CallMode) (backing : Text) (strictArity : Bool)

@[simp] theorem length_points :
    (f.callPlan mode backing strictArity).points.length =
      f.arguments.length - f.requiredCount + 1 := by
  simp [callPlan]

/-- The point of a number takes as many arguments beyond the required ones, and it takes every call
if there are no more arguments. -/
theorem point_spec {number : Nat} {point : DispatchPoint}
    (at_number : (f.callPlan mode backing strictArity).points[number]? = some point) :
    point.arity = (f.requiredCount + number : Nat) ∧
      point.callArguments = (f.arguments.take (f.requiredCount + number)).map (·.name) ∧
      point.catchAll = decide (f.requiredCount + number = f.arguments.length) := by
  cases number with
  | zero =>
      obtain rfl : f.requiredPoint = point := by simpa [callPlan] using at_number
      simp [requiredPoint, eq_comm]
  | succ n =>
      obtain ⟨a, -, rfl⟩ : ∃ a, (f.arguments.drop f.requiredCount)[n]? = some a ∧
          f.optionalPoint a (f.requiredCount + n) = point := by
        simpa [callPlan, List.getElem?_zipIdx] using at_number
      simp [optionalPoint, Nat.add_assoc, Int.add_assoc]

/-- The points up to a number convert the slots up to that many beyond the required ones. -/
theorem conversions_take_points (number : Nat) :
    (((f.callPlan mode backing strictArity).points.take (number + 1)).flatMap (·.conversions)) =
      f.slots.take (f.requiredCount + number) := by
  have required : f.requiredPoint.conversions.length = f.requiredCount := by
    simp [requiredPoint, f.requiredCount_le]
  have all : f.requiredPoint.conversions.take (f.requiredCount + number) =
      f.requiredPoint.conversions := List.take_of_length_le (by omega)
  simp only [callPlan, List.take_succ_cons, List.flatMap_cons, slots_eq_append, List.take_append,
    required, Nat.add_sub_cancel_left, all, ← List.map_take]
  rw [List.flatMap_map, List.map_eq_flatMap]
  rfl

/-- With no fewer arguments than required, the point reached is numbered by those beyond. -/
theorem fires_iff_of_required {number given : Nat} {point : DispatchPoint}
    (at_number : (f.callPlan mode backing strictArity).points[number]? = some point) :
    point.fires given ↔
      min given f.arguments.length ≤ f.requiredCount + number := by
  obtain ⟨arity, -, catchAll⟩ := f.point_spec mode backing strictArity at_number
  have bound : number < (f.callPlan mode backing strictArity).points.length :=
    (List.getElem?_eq_some_iff.mp at_number).1
  have := f.requiredCount_le
  rw [length_points] at bound
  simp only [DispatchPoint.fires, arity, catchAll, Bool.or_eq_true, decide_eq_true_eq,
    Int.ofNat_le]
  omega

section
variable {α β : Type} (values : List α) (convert : Conversion → α → Except Unconvertible β)

/-- Every slot that has a value reads it. -/
theorem slotValue?_of_mem_zip :
    ∀ pair ∈ f.slots.zip values, slotValue? values pair.1.slot = some pair.2 := by
  intro (c, v) mem
  obtain ⟨slot, bound, at_slot⟩ := List.getElem_of_mem mem
  obtain ⟨rfl, rfl⟩ := Prod.mk.inj (List.getElem_zip.symm.trans at_slot)
  simp [slots, conversionIn, slotValue?]

theorem map_fst_zip_slots :
    (f.slots.zip values).map (·.1) = f.slots.take (min values.length f.arguments.length) := by
  rw [List.zip_eq_zip_take_min, List.map_fst_zip (by simp), f.length_slots, Nat.min_comm]

/-- A call inside the window of argument numbers converts the slots that have a value, and if none
of them fails it ends in the native call of the point for as many arguments. -/
theorem runPoints_callPlan (enough : f.requiredCount ≤ values.length) :
    ∃ point attempted outcome,
      (f.callPlan mode backing strictArity).points[min values.length f.arguments.length -
        f.requiredCount]? = some point ∧
      ConvertsUpTo convert (f.slots.zip values) attempted outcome ∧
      (f.callPlan mode backing strictArity).runPoints values convert []
          (f.callPlan mode backing strictArity).points =
        ⟨attempted, match outcome with
          | .error fault => .error (.unconvertible fault)
          | .ok results => .ok ⟨f.callee, point, results⟩⟩ := by
  have declared := f.requiredCount_le
  let plan := f.callPlan mode backing strictArity
  let number := min values.length f.arguments.length - f.requiredCount
  have bound : number < plan.points.length := by
    rw [length_points]
    omega
  have at_number : plan.points[number]? = some plan.points[number] :=
    List.getElem?_eq_getElem bound
  obtain ⟨attempted, outcome, run, converted⟩ := convertAll_eq_of_readable values convert
    (f.slots.zip values) (f.slotValue?_of_mem_zip values)
  refine ⟨plan.points[number], attempted, outcome, at_number, run, ?_⟩
  have fires : plan.points[number].fires values.length := by
    rw [f.fires_iff_of_required mode backing strictArity at_number]
    omega
  have skips : ∀ p ∈ plan.points.take number, p.fires values.length = false := by
    intro p mem
    obtain ⟨i, below, at_i⟩ := List.mem_take_iff_getElem.mp mem
    have at_i : plan.points[i]? = some p := List.getElem?_eq_some_iff.mpr ⟨by omega, at_i⟩
    rw [← Bool.not_eq_true, f.fires_iff_of_required mode backing strictArity at_i]
    omega
  have slots : (plan.points.take number ++ [plan.points[number]]).flatMap (·.conversions) =
      (f.slots.zip values).map (·.1) := by
    rw [List.take_append_getElem, f.conversions_take_points mode backing strictArity,
      f.map_fst_zip_slots]
    congr 1
    omega
  have split : plan.points =
      plan.points.take number ++ plan.points[number] :: plan.points.drop (number + 1) := by
    rw [List.getElem_cons_drop, List.take_append_drop]
  show plan.runPoints values convert [] plan.points = _
  conv_lhs => rw [split, plan.runPoints_eq_of_fires values convert skips fires, slots, converted]
  cases outcome <;> rfl

theorem trace_eq_ite :
    (f.callPlan mode backing strictArity).trace values convert =
      if values.length < f.requiredCount then
        .failed [] (.tooFew f.name f.requiredCount values.length)
      else if strictArity ∧ f.arguments.length < values.length then
        .failed [] (.tooMany f.name f.requiredCount values.length f.arguments.length)
      else (f.callPlan mode backing strictArity).runPoints values convert []
        (f.callPlan mode backing strictArity).points := by
  simp [CallPlan.trace, callPlan]

/-- Calls with too few arguments, and under strict arity with too many, convert nothing. Any other
call converts slot after slot, as far as there are both arguments and values, up to the first that
fails; if none fails, the native call is the one for as many arguments. -/
theorem trace_callPlan (plain : .scalar '%' ∉ f.name) :
    let plan := f.callPlan mode backing strictArity
    let required := f.requiredCount
    let declared := f.arguments.length
    let given := values.length
    (given < required →
      plan.trace values convert = .failed [] (.tooFew f.name required given) ∧
      (CallFailure.tooFew f.name required given).message =
        .ok (CallMessage.opening ++ f.name ++ CallMessage.tooFewTail required ++
          Text.decimal given ++ CallMessage.closing)) ∧
    (required ≤ given → strictArity → declared < given →
      plan.trace values convert = .failed [] (.tooMany f.name required given declared) ∧
      (CallFailure.tooMany f.name required given declared).message =
        .ok (CallMessage.opening ++ f.name ++ CallMessage.tooManyTail declared ++
          Text.decimal given ++ CallMessage.closing)) ∧
    (required ≤ given → (strictArity → given ≤ declared) →
      ∃ attempted outcome, ConvertsUpTo convert (f.slots.zip values) attempted outcome ∧
        (∀ fault, outcome = .error fault →
          plan.trace values convert = .failed attempted (.unconvertible fault)) ∧
        ∀ results, outcome = .ok results → ∃ point,
          plan.points[min given declared - required]? = some point ∧
          point.callArguments = (f.arguments.take (min given declared)).map (·.name) ∧
          plan.trace values convert = ⟨attempted, .ok ⟨f.callee, point, results⟩⟩) := by
  intro plan required declared given
  have compared := f.trace_eq_ite mode backing strictArity values convert
  refine ⟨fun few => ⟨?_, CallMessage.tooFew_of_plain plain _ _⟩,
    fun enough strict many => ⟨?_, CallMessage.tooMany_of_plain plain _ _⟩,
    fun enough window => ?_⟩
  · rw [compared, if_pos few]
  · rw [compared, if_neg (Nat.not_lt.mpr enough), if_pos ⟨strict, many⟩]
  · rw [if_neg (Nat.not_lt.mpr enough),
      if_neg fun ⟨strict, many⟩ => Nat.not_lt.mpr (window strict) many] at compared
    obtain ⟨point, attempted, outcome, at_number, run, reached⟩ :=
      f.runPoints_callPlan mode backing strictArity values convert enough
    rw [reached] at compared
    refine ⟨attempted, outcome, run, ?_, ?_⟩
    · rintro fault rfl
      exact compared
    · rintro results rfl
      obtain ⟨-, callArguments, -⟩ := f.point_spec mode backing strictArity at_number
      refine ⟨point, at_number, ?_, compared⟩
      rw [callArguments]
      congr 2
      have := f.requiredCount_le
      omega

end

def draw : FunctionDecl :=
  ⟨"draw", [⟨"x", .primitive .int32, true⟩, ⟨"label", .primitive .string, false⟩],
    .primitive .void⟩

/-- A converter that takes no negative number. -/
def takeNatural (c : Conversion) (v : Int) : Except Unconvertible Int :=
  if v < 0 then .error ⟨c.argument.name, c.operator⟩ else .ok v

theorem trace_callPlan_draw :
    let plan := draw.callPlan .function "Canvas" true
    .scalar '%' ∉ draw.name ∧
    (0 < draw.requiredCount ∧ plan.trace [] takeNatural = .failed [] (.tooFew draw.name 1 0)) ∧
    (draw.requiredCount ≤ 3 ∧ draw.arguments.length < 3 ∧
      plan.trace [1, 2, 3] takeNatural = .failed [] (.tooMany draw.name 1 3 2)) ∧
    (draw.requiredCount ≤ 2 ∧ 2 ≤ draw.arguments.length ∧
      ∃ attempted outcome, ConvertsUpTo takeNatural (draw.slots.zip [1, -1]) attempted outcome ∧
        ∀ fault, outcome = .error fault →
          plan.trace [1, -1] takeNatural = .failed attempted (.unconvertible fault)) := by
  have plain : .scalar '%' ∉ draw.name := by decide
  refine ⟨plain, ⟨by decide, ?_⟩, ⟨by decide, by decide, ?_⟩, by decide, by decide, ?_⟩
  · exact ((trace_callPlan draw .function "Canvas" true [] takeNatural plain).1 (by decide)).1
  · exact ((trace_callPlan draw .function "Canvas" true [1, 2, 3] takeNatural plain).2.1
      (by decide) rfl (by decide)).1
  · obtain ⟨attempted, outcome, run, failed, -⟩ :=
      (trace_callPlan draw .function "Canvas" true [1, -1] takeNatural plain).2.2 (by decide)
        fun _ => by decide
    exact ⟨attempted, outcome, run, failed⟩

end FunctionDecl

end ScriptBinding
