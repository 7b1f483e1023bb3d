import ScriptBinding.Proofs.Callback.Plan
import ScriptBinding.Glue.Source

/-!
The body of a callback means what the trace of its plan says. The lines that are written for a
well-formed function read as instructions; run with any values and any converter, these do the same
conversions, make the same native call or none, and end with the same message.
-/
namespace ScriptBinding

namespace Callback

/-- A run shows what a trace says. A call is passed the variables of the arguments that the trace
passes on, which hold its values. -/
def Run.Shows {β : Type} (r : Run β) (p : CallPlan) (className : Text)
    (raises : NativeCall → List β → Bool) (t : CallTrace β) : Prop :=
  r.attempted = t.attempted.map Conversion.seen ∧
  match t.outcome with
  | .ok made =>
    let c := p.nativeCall className made.point
    c.callee = made.callee ∧ c.passed = made.point.callArguments.map localName ∧
      r.calls = [(c, made.values)] ∧
      r.ending = if raises c made.values then .exception .native else .value p.result.value
  | .error (.unconvertible fault) =>
    r.calls = [] ∧ r.ending = .exception (.unconvertible fault)
  | .error (.noValue _) | .error (.noCatchAll _) => False
  | .error failure =>
    r.calls = [] ∧ ∃ text, failure.message = .ok text ∧ r.ending = .message text

section
variable {α β : Type} (values : List α) (fromValue : Text → Int → α → Except Unconvertible β)
  (raises : NativeCall → List β → Bool) {p : CallPlan}

section
variable (plain : .scalar '%' ∉ p.name) (m : Machine β)
include plain

/-- A guard on the number of arguments throws its message or does nothing. -/
theorem runAll_guard (made : Prop) [Decidable made] (test : CountTest) {tail : Text}
    (verbatim : ∀ q ∈ tail, q.isVerbatim) :
    runAll values fromValue raises m
        (if made then [.branch (.count test) [.throwMessage (CallMessage.opening ++ p.name ++
          tail ++ "%d" ++ CallMessage.closing)]] else []) =
      some (m, if made ∧ test.holds values.length then
        .ended (.message (CallMessage.opening ++ p.name ++ tail ++ Text.decimal values.length ++
          CallMessage.closing)) else .onward) := by
  have printed := CallMessage.printed?_format verbatim plain values.length
  by_cases here : made
  · rw [if_pos here, runAll, Instruction.run, Machine.answer?]
    cases holds : test.holds values.length with
    | false => simp [runAll]
    | true =>
        simp only [runAll, Instruction.run, printed, here]
        rfl
  · simp [here, runAll]

theorem runAll_guards :
    runAll values fromValue raises m (guardInstructions p) =
      some (m,
        if values.length < p.required then
          .ended (.message (CallMessage.opening ++ p.name ++ CallMessage.tooFewTail p.required ++
            Text.decimal values.length ++ CallMessage.closing))
        else if p.strictArity ∧ p.accepted < values.length then
          .ended (.message (CallMessage.opening ++ p.name ++ CallMessage.tooManyTail p.accepted ++
            Text.decimal values.length ++ CallMessage.closing))
        else .onward) := by
  have few := runAll_guard values fromValue raises plain m (0 < p.required) (.below p.required)
    (CallMessage.isVerbatim_tooFewTail p.required)
  have many := runAll_guard values fromValue raises plain m p.strictArity (.above p.accepted)
    (CallMessage.isVerbatim_tooManyTail p.accepted)
  have positive : 0 < p.required ∧ values.length < p.required ↔ values.length < p.required := by
    omega
  simp only [CountTest.holds, decide_eq_true_eq] at few many
  simp only [positive] at few
  rw [guardInstructions, runAll_append]
  by_cases short : values.length < p.required
  · simp only [CallMessage.tooFewFormat, few, short, if_true]
  · simp only [CallMessage.tooFewFormat, few, short, if_false]
    exact many

end

theorem runAll_declarations :
    runAll values fromValue raises ⟨[], none, [], []⟩ (declarationInstructions p) =
      some (.holding p [] [] [], .onward) := by
  cases static : p.isStatic <;> cases result : p.result <;>
    simp only [declarationInstructions, static, result, Machine.holding, declaredNames] <;> rfl

/-- What stands behind the chain returns an exception of the native call, and the value
otherwise. -/
theorem runAll_returning {m : Machine β} (declared : m.isDeclared "exception_state") {failed : Bool}
    (raised : m.raised? = if failed then some .native else none) :
    runAll values fromValue raises m [checkInstruction, .giveBack p.result.value] =
      some (m, .ended (if failed then .exception .native else .value p.result.value)) := by
  cases failed with
  | false =>
      have check := run_checkInstruction_of_none values fromValue raises raised declared
      simp only [runAll, check, Instruction.run]
      rfl
  | true =>
      have check := run_checkInstruction_of_some values fromValue raises raised declared
      simp only [runAll, check]
      rfl

section
variable {chain : List Instruction} {attempted : List Conversion}

theorem runAll_closing_of_called {c : NativeCall} {results : List β}
    (called : Called raises (runAll values fromValue raises (.holding p [] [] []) chain) c results
      attempted) :
    ∃ m, runAll values fromValue raises (.holding p [] [] []) (closingInstructions p chain) =
        some (m, .ended (if raises c results then .exception .native else .value p.result.value)) ∧
      m.attempted = attempted.map Conversion.seen ∧ m.calls = [(c, results)] := by
  obtain ⟨m, exit, ran, exits, seen, calls, raised⟩ := called
  let ahead : Machine β := .holding p [] [] []
  let behind : Machine β := { m with scope := ahead.scope }
  have left : (Instruction.once chain).run values fromValue raises ahead =
      some (behind, .onward) := by
    rw [Instruction.run, ran]
    rcases exits with rfl | rfl
    · rfl
    · rfl
  have declared : ahead.isDeclared "exception_state" :=
    Machine.isDeclared_holding (by simp [declaredNames])
  have returned := runAll_returning values fromValue raises (p := p) (m := behind) declared raised
  refine ⟨behind, ?_, seen, calls⟩
  rw [closingInstructions, runAll, left]
  exact returned

theorem runAll_closing_of_stopped {fault : Unconvertible}
    (stopped : Stopped (runAll values fromValue raises (.holding p [] [] []) chain) fault
      attempted) :
    ∃ m, runAll values fromValue raises (.holding p [] [] []) (closingInstructions p chain) =
        some (m, .ended (.exception (.unconvertible fault))) ∧
      m.attempted = attempted.map Conversion.seen ∧ m.calls = [] := by
  obtain ⟨m, ran, seen, calls⟩ := stopped
  let ahead : Machine β := .holding p [] [] []
  refine ⟨{ m with scope := ahead.scope }, ?_, seen, calls⟩
  rw [closingInstructions, runAll, Instruction.run, ran]
  rfl

end

/-- A call that the guards let pass does what stands behind the declarations. -/
theorem runAll_bodyInstructions_of_passed (className : Text) (plain : .scalar '%' ∉ p.name)
    (enough : ¬ values.length < p.required)
    (window : ¬ (p.strictArity ∧ p.accepted < values.length)) :
    runAll values fromValue raises ⟨[], none, [], []⟩ (bodyInstructions p className) =
      runAll values fromValue raises (.holding p [] [] [])
        (closingInstructions p (p.points.flatMap (pointInstructions p className))) := by
  have guards := runAll_guards values fromValue raises plain ⟨[], none, [], []⟩
  rw [if_neg enough, if_neg window] at guards
  simp only [bodyInstructions, runAll_append, guards, runAll_declarations values fromValue raises]

/-- A body whose points are chained shows what the trace of its plan says, if the chain reaches a
native call or a conversion that fails. -/
theorem run?_bodyInstructions (className : Text) (plain : .scalar '%' ∉ p.name)
    (chained : Chained [] p.points)
    (natural : ∀ point ∈ p.points, ∀ c ∈ point.conversions, 0 ≤ c.slot)
    (distinct : ((p.conversions.map (·.argument.name)).map Text.stem).Nodup)
    (reached : ¬ values.length < p.required → ¬ (p.strictArity ∧ p.accepted < values.length) →
      match (p.runPoints values (told fromValue) [] p.points).outcome with
      | .ok made => made.callee = p.callee
      | .error failure => ∃ fault, failure = .unconvertible fault) :
    ∃ r, run? values fromValue raises (bodyInstructions p className) = some r ∧
      r.Shows p className raises (p.trace values (told fromValue)) := by
  have guards := runAll_guards values fromValue raises plain ⟨[], none, [], []⟩
  by_cases few : values.length < p.required
  · have traced : p.trace values (told fromValue) =
        .failed [] (.tooFew p.name p.required values.length) := by
      rw [CallPlan.trace, if_pos few]
    rw [if_pos few] at guards
    rw [traced]
    refine ⟨⟨[], [], .message _⟩, ?_, rfl, rfl, _, CallMessage.tooFew_of_plain plain _ _, rfl⟩
    simp only [run?, bodyInstructions, List.append_assoc, runAll_append, guards]
  by_cases many : p.strictArity ∧ p.accepted < values.length
  · have traced : p.trace values (told fromValue) =
        .failed [] (.tooMany p.name p.required values.length p.accepted) := by
      rw [CallPlan.trace, if_neg few, if_pos (by simpa using many)]
    rw [if_neg few, if_pos many] at guards
    rw [traced]
    refine ⟨⟨[], [], .message _⟩, ?_, rfl, rfl, _, CallMessage.tooMany_of_plain plain _ _, rfl⟩
    simp only [run?, bodyInstructions, List.append_assoc, runAll_append, guards]
  · have traced : p.trace values (told fromValue) =
        p.runPoints values (told fromValue) [] p.points := by
      rw [CallPlan.trace, if_neg few, if_neg (by simpa using many)]
    have closing := runAll_bodyInstructions_of_passed values fromValue raises className plain few
      many
    have same : ([] : List Text).length = ([] : List β).length := rfl
    have followed := runAll_points values fromValue raises p className [] chained natural distinct
      same
    have ends := reached few many
    rw [traced]
    rw [Followed] at followed
    cases outcome : (p.runPoints values (told fromValue) [] p.points).outcome with
    | ok made =>
        rw [outcome] at ends followed
        obtain ⟨m, ran, seen, calls⟩ := runAll_closing_of_called values fromValue raises followed
        refine ⟨_, by rw [run?, closing, ran], seen, ?_⟩
        rw [outcome]
        exact ⟨ends.symm, rfl, calls, rfl⟩
    | error failure =>
        rw [outcome] at ends followed
        obtain ⟨fault, rfl⟩ := ends
        obtain ⟨m, ran, seen, calls⟩ := runAll_closing_of_stopped values fromValue raises followed
        refine ⟨_, by rw [run?, closing, ran], seen, ?_⟩
        rw [outcome]
        exact ⟨calls, rfl⟩

/-- A body that can be run on a call with all arguments, none of which fails, declares a variable
for each of them. -/
theorem distinct_of_run?_bodyInstructions {className : Text} (plain : .scalar '%' ∉ p.name)
    (chained : Chained [] p.points) (enough : ¬ values.length < p.required)
    (window : ¬ (p.strictArity ∧ p.accepted < values.length))
    (taken : ∀ point ∈ p.points, ∀ c ∈ point.conversions, Succeeds values fromValue c)
    (passes : ∀ point ∈ p.points, point.catchAll ∨ point.fires values.length = false) {r : Run β}
    (ran : run? values fromValue raises (bodyInstructions p className) = some r) :
    ((p.conversions.map (·.argument.name)).map Text.stem).Nodup := by
  rw [run?, runAll_bodyInstructions_of_passed values fromValue raises className plain enough
    window, closingInstructions, runAll, Instruction.run] at ran
  cases chain : runAll values fromValue raises (.holding p [] [] [])
      (p.points.flatMap (pointInstructions p className)) with
  | none => simp [chain] at ran
  | some ended =>
      exact distinct_of_runAll_points values fromValue raises p chained taken passes
        List.nodup_nil rfl chain

end

end Callback

namespace FunctionDecl

open Callback

variable (f : FunctionDecl)

/-- No two arguments are named alike but for a line feed at the end of one name. -/
def ArgumentsApart : Prop := ∀ a ∈ f.arguments, ∀ b ∈ f.arguments, a.name ≠ b.name ++ "\n"

instance : Decidable f.ArgumentsApart :=
  inferInstanceAs (Decidable (∀ a ∈ f.arguments, ∀ b ∈ f.arguments, a.name ≠ b.name ++ "\n"))

/-- The names of arguments are read as distinct words exactly if no line feed is all that tells two
of them apart. -/
theorem nodup_stems_iff {f : FunctionDecl} (h : f.WellFormed) :
    ((f.arguments.map (·.name)).map Text.stem).Nodup ↔ f.ArgumentsApart := by
  have stems {a b : Argument} (ha : a ∈ f.arguments) (hb : b ∈ f.arguments) :
      a.name.stem = b.name.stem ↔
        a.name = b.name ∨ a.name = b.name ++ "\n" ∨ b.name = a.name ++ "\n" := by
    simpa using Text.stem_append_eq_iff (List.forall_mem_nil _)
      (Text.eq_stem_or (h.argumentNames a ha)) (Text.eq_stem_or (h.argumentNames b hb))
  constructor
  · intro distinct a ha b hb fed
    have same : a.name = b.name :=
      List.inj_on_of_nodup_map distinct (List.mem_map_of_mem ha) (List.mem_map_of_mem hb)
        ((stems ha hb).mpr (.inr (.inl fed)))
    simp [same, Text.ofString] at fed
  · intro apart
    refine h.argumentsDistinct.map_on ?_
    simp only [List.forall_mem_map]
    intro a ha b hb same
    rcases (stems ha hb).mp same with equal | fed | fed
    · exact equal
    · exact absurd fed (apart a ha b hb)
    · exact absurd fed (apart b hb a ha)

variable (mode : CallMode) (backing : Text) (strictArity : Bool)

/-- A call with all arguments goes to the last point of the plan. -/
theorem passes_callPlan : ∀ point ∈ (f.callPlan mode backing strictArity).points,
    point.catchAll ∨ point.fires f.arguments.length = false := by
  intro point mem
  obtain ⟨number, at_number⟩ := List.mem_iff_getElem?.mp mem
  obtain ⟨-, -, catchAll⟩ := f.point_spec mode backing strictArity at_number
  have bound : number < (f.callPlan mode backing strictArity).points.length :=
    (List.getElem?_eq_some_iff.mp at_number).1
  have declared := f.requiredCount_le
  rw [length_points] at bound
  by_cases last : f.requiredCount + number = f.arguments.length
  · exact .inl (by simp [catchAll, last])
  · refine .inr ?_
    rw [← Bool.not_eq_true, f.fires_iff_of_required mode backing strictArity at_number]
    omega

theorem succeeds_of_mem_slots {c : Conversion} (mem : c ∈ f.slots) :
    Succeeds (List.replicate f.arguments.length ()) (fun _ _ _ => .ok ()) c := by
  obtain ⟨slot, bound, rfl⟩ := List.getElem_of_mem mem
  rw [length_slots] at bound
  refine ⟨?_, (), (), ?_, rfl⟩ <;> simp [slots, conversionIn, slotValue?, bound]

theorem map_name_conversions_callPlan :
    (f.callPlan mode backing strictArity).conversions.map (·.argument.name) =
      f.arguments.map (·.name) := by
  rw [f.conversions_callPlan mode backing strictArity, f.map_name_slots]

section
variable {f backing} (h : f.WellFormed) (spelled : backing.isIdentifier)
include h

/-- Even with a converter that takes everything, a call with all arguments can be run only if no two
of them are named alike but for a line feed. -/
theorem argumentsApart_of_run? {run : Run Unit}
    (ran : run? (List.replicate f.arguments.length ()) (fun _ _ _ => .ok ()) (fun _ _ => false)
      (bodyInstructions (f.callPlan mode backing strictArity) backing) = some run) :
    f.ArgumentsApart := by
  let values : List Unit := List.replicate f.arguments.length ()
  have given : values.length = f.arguments.length := List.length_replicate
  have plain : .scalar '%' ∉ f.name := Text.not_mem_of_isIdentifier h.name (by decide)
  have enough : ¬ values.length < (f.callPlan mode backing strictArity).required := by
    have declared := f.requiredCount_le
    simp only [callPlan, given]
    omega
  have window : ¬ ((f.callPlan mode backing strictArity).strictArity ∧
      (f.callPlan mode backing strictArity).accepted < values.length) := by
    simp [callPlan, given]
  have taken : ∀ point ∈ (f.callPlan mode backing strictArity).points,
      ∀ c ∈ point.conversions, Succeeds values (fun _ _ _ => .ok ()) c := by
    intro point mem c listed
    apply f.succeeds_of_mem_slots
    rw [← f.conversions_callPlan mode backing strictArity]
    exact List.mem_flatMap.mpr ⟨point, mem, listed⟩
  have distinct := distinct_of_run?_bodyInstructions values _ _ plain
    (chained_points mode strictArity) enough window taken
    (given ▸ f.passes_callPlan mode backing strictArity) ran
  rw [map_name_conversions_callPlan] at distinct
  exact (nodup_stems_iff h).mp distinct

theorem shows_trace_of_argumentsApart (spelled : backing.isIdentifier) (apart : f.ArgumentsApart)
    {α β : Type} (values : List α) (fromValue : Text → Int → α → Except Unconvertible β)
    (raises : NativeCall → List β → Bool) :
    let plan := f.callPlan mode backing strictArity
    ∃ run, run? values fromValue raises (bodyInstructions plan backing) = some run ∧
      run.Shows plan backing raises (plan.trace values (told fromValue)) := by
  intro plan
  have readable := spelled_callPlan mode strictArity h spelled
  have plain : .scalar '%' ∉ f.name := Text.not_mem_of_isIdentifier h.name (by decide)
  have distinct : ((plan.conversions.map (·.argument.name)).map Text.stem).Nodup := by
    rw [map_name_conversions_callPlan]
    exact (nodup_stems_iff h).mpr apart
  refine run?_bodyInstructions values fromValue raises backing plain
    (chained_points mode strictArity) readable.slots distinct fun enough _ => ?_
  obtain ⟨point, attempted, outcome, -, -, traced⟩ := f.runPoints_callPlan mode backing
    strictArity values (told fromValue) (Int.ofNat_le.mp (Int.not_lt.mp enough))
  rw [traced]
  cases outcome with
  | error fault => exact ⟨fault, rfl⟩
  | ok results => rfl

include spelled

/-- What the routine of a body writes, wherever it stands, reads as the instructions of its plan. -/
theorem exists_run_bodySteps (depth : Int) (before : Array Text) :
    let plan := f.callPlan mode backing strictArity
    ∃ added : Array Text,
      Emitter.run ⟨glueIndent, depth, before⟩ (plan.bodySteps backing) =
        ⟨glueIndent, depth, before ++ added⟩ ∧
      instructions? added.toList = some (bodyInstructions plan backing) := by
  intro plan
  refine ⟨_, ?_, instructions?_bodyCode (spelled_callPlan mode strictArity h spelled)
    (Text.isWord_of_isIdentifier spelled) depth⟩
  rw [CallPlan.bodySteps_eq, Code.run_allSteps, Code.writeAll_eq]

end

/-- The lines that are written for a well-formed function read as instructions. These show what the
trace of its plan says, with any values, any converter and any native members, exactly if no two
arguments are named alike but for a line feed: such names declare one variable twice. -/
theorem run_bodySteps_shows_trace_iff (path : Path) (valid : Check.function path f = [])
    (spelled : backing.isIdentifier) (depth : Int) (before : Array Text) :
    let plan := f.callPlan mode backing strictArity
    ∃ added instructions,
      Emitter.run ⟨glueIndent, depth, before⟩ (plan.bodySteps backing) =
        ⟨glueIndent, depth, before ++ added⟩ ∧
      instructions? added.toList = some instructions ∧
      ((∀ (α β : Type) (values : List α) (fromValue : Text → Int → α → Except Unconvertible β)
          (raises : NativeCall → List β → Bool),
        ∃ run, run? values fromValue raises instructions = some run ∧
          run.Shows plan backing raises (plan.trace values (told fromValue))) ↔
        f.ArgumentsApart) := by
  intro plan
  have wellFormed := (Check.function_eq_nil_iff path f).mp valid
  obtain ⟨added, written, read⟩ :=
    exists_run_bodySteps mode strictArity wellFormed spelled depth before
  refine ⟨added, _, written, read, ?_, ?_⟩
  · intro means
    obtain ⟨run, ran, -⟩ := means Unit Unit _ _ _
    exact argumentsApart_of_run? mode strictArity wellFormed ran
  · intro apart α β values fromValue raises
    exact shows_trace_of_argumentsApart mode strictArity wellFormed spelled apart values fromValue
      raises

/-- A converter that takes no negative number, told the operator and the slot only. -/
def fromNatural (operator : Text) (slot : Int) (v : Int) : Except Unconvertible Int :=
  if v < 0 then .error ⟨operator, .any⟩ else .ok (v + slot)

theorem run_bodySteps_shows_trace_draw :
    let plan := draw.callPlan .method "Canvas" true
    Check.function (.ofRoot "canvas") draw = [] ∧ Text.isIdentifier "Canvas" ∧
    draw.ArgumentsApart ∧ ∃ added instructions run,
      Emitter.run ⟨glueIndent, 1, #[]⟩ (plan.bodySteps "Canvas") =
        ⟨glueIndent, 1, #[] ++ added⟩ ∧
      instructions? added.toList = some instructions ∧
      run? [3, -1] fromNatural (fun _ _ => false) instructions = some run ∧
      run.Shows plan "Canvas" (fun _ _ => false) (plan.trace [3, -1] (told fromNatural)) := by
  have valid : Check.function (.ofRoot "canvas") draw = [] := by decide
  have apart : draw.ArgumentsApart := by decide
  obtain ⟨added, instructions, written, read, means⟩ := run_bodySteps_shows_trace_iff draw .method
    "Canvas" true (.ofRoot "canvas") valid (by decide) 1 #[]
  obtain ⟨run, ran, shows⟩ := means.mpr apart Int Int [3, -1] fromNatural fun _ _ => false
  exact ⟨valid, by decide, apart, added, instructions, run, written, read, ran, shows⟩

/-- A function with two arguments whose names differ in a line feed only. -/
def twins : FunctionDecl :=
  ⟨"draw", [⟨"a", .primitive .int32, true⟩, ⟨"a\n", .primitive .int32, true⟩], .primitive .void⟩

theorem not_run_bodySteps_shows_trace_twins :
    let plan := twins.callPlan .function "Canvas" false
    Check.function (.ofRoot "canvas") twins = [] ∧ Text.isIdentifier "Canvas" ∧
    (∃ made, (plan.trace [(), ()] (told fun _ _ _ => .ok ())).outcome = .ok made) ∧
    ∃ added instructions,
      Emitter.run ⟨glueIndent, 1, #[]⟩ (plan.bodySteps "Canvas") =
        ⟨glueIndent, 1, #[] ++ added⟩ ∧
      instructions? added.toList = some instructions ∧
      run? [(), ()] (fun _ _ _ => .ok ()) (fun _ _ => false) instructions = none := by
  intro plan
  have valid : Check.function (.ofRoot "canvas") twins = [] := by decide
  have wellFormed := (Check.function_eq_nil_iff _ twins).mp valid
  have spelled : Text.isIdentifier "Canvas" := by decide
  obtain ⟨added, written, read⟩ := exists_run_bodySteps .function false wellFormed spelled 1 #[]
  refine ⟨valid, spelled, ⟨_, rfl⟩, added, _, written, read, ?_⟩
  cases ran : run? [(), ()] (fun _ _ _ => .ok ()) (fun _ _ => false)
      (bodyInstructions plan "Canvas") with
  | none => rfl
  | some run =>
      have apart := argumentsApart_of_run? .function false wellFormed ran
      exact absurd apart (by decide)

end FunctionDecl

end ScriptBinding
