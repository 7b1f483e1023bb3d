import Mathlib.Data.List.Nodup
import ScriptBinding.Proofs.Call.Planned
import ScriptBinding.Proofs.Callback.Body

/-!
The chain of a plan, run as instructions. In front of every point the machine holds the values that
were converted so far, under the names that the point passes on; a point thus does to the machine
what it does to a trace.
-/
namespace ScriptBinding

/-- What a callback shows of a conversion. -/
def Conversion.seen (c : Conversion) : Int × Text := (c.slot, c.operator.written)

theorem localName_injective : Function.Injective localName := fun _ _ same =>
  List.append_cancel_left same

theorem stem_localName (name : Text) : (localName name).stem = localName name.stem :=
  Text.stem_append (by decide) name

theorem map_stem_localName (names : List Text) :
    (names.map localName).map Text.stem = (names.map Text.stem).map localName := by
  simp only [List.map_map, Function.comp_def, stem_localName]

namespace Callback

/-- A converter of the generated language, in a trace: it is told the operator as it is written,
and the slot. -/
def told {α β : Type} (fromValue : Text → Int → α → Except Unconvertible β) (c : Conversion) :
    α → Except Unconvertible β :=
  fromValue c.operator.written c.slot

theorem runAll_append {α β : Type} (values : List α)
    (fromValue : Text → Int → α → Except Unconvertible β) (raises : NativeCall → List β → Bool)
    (m : Machine β) (is js : List Instruction) :
    runAll values fromValue raises m (is ++ js) =
      match runAll values fromValue raises m is with
      | some (after, .onward) => runAll values fromValue raises after js
      | other => other := by
  induction is generalizing m with
  | nil => rfl
  | cons i rest ih =>
      rw [List.cons_append, runAll, runAll]
      cases i.run values fromValue raises m with
      | none => rfl
      | some result =>
          obtain ⟨after, exit⟩ := result
          cases exit with
          | onward => exact ih after
          | left | ended e => rfl

/-- Names that are read as distinct words and declared in order are each found with the value
beside it. -/
theorem mapM_lookup_zip {β : Type} {names : List Text} {results : List β}
    (same : names.length = results.length) (distinct : (names.map Text.stem).Nodup)
    (outer : List (Text × Option β)) (apart : ∀ name ∈ names, outer.lookup name.stem = none) :
    names.mapM (fun name =>
        ((outer ++ (names.map Text.stem).zip (results.map some)).lookup name.stem).join) =
      some results := by
  induction names generalizing results outer with
  | nil =>
      obtain rfl := List.length_eq_zero_iff.mp same.symm
      rfl
  | cons name rest ih =>
      cases results with
      | nil => exact absurd same (by simp)
      | cons result others =>
          obtain ⟨other, distinct⟩ := List.nodup_cons.mp distinct
          obtain ⟨first, apart⟩ := List.forall_mem_cons.mp apart
          have found : outer ++ ((name :: rest).map Text.stem).zip ((result :: others).map some) =
              (outer ++ [(name.stem, some result)]) ++
                (rest.map Text.stem).zip (others.map some) := by simp
          have behind := ih (Nat.succ.inj same) distinct (outer ++ [(name.stem, some result)]) (by
            intro later mem
            have differs : later.stem ≠ name.stem := fun same =>
              other (same ▸ List.mem_map_of_mem mem)
            simp [List.lookup_append, apart later mem, differs])
          rw [found, List.mapM_cons, behind]
          simp [List.lookup_append, first]

/-- The variables declared ahead of the chain. -/
def declaredNames (p : CallPlan) : List Text :=
  [Text.ofString "exception_state"] ++
    (if p.result = .nothing then [] else [Text.ofString "return_value"]) ++
    [if p.isStatic then Text.ofString "context" else Text.ofString "self"]

theorem stem_of_mem_declaredNames (p : CallPlan) : ∀ t ∈ declaredNames p, t.stem = t := by
  rw [declaredNames]
  split <;> split <;> decide

theorem localName_not_mem_declaredNames (p : CallPlan) (name : Text) :
    localName name ∉ declaredNames p := by
  have other : ∀ t ∈ declaredNames p, t.head? ≠ some (.scalar 'a') := by
    rw [declaredNames]
    split <;> split <;> decide
  intro mem
  exact other _ mem rfl

namespace Machine

variable {α β : Type}

theorem isDeclared_iff {m : Machine β} {name : Text} :
    m.isDeclared name ↔ name.stem ∈ m.scope.map Prod.fst := by
  rw [isDeclared, lookup, List.lookup_isSome_iff, List.mem_map]
  simp only [beq_iff_eq]
  exact exists_congr fun pair => and_congr_right fun _ => eq_comm

/-- A machine before a point: it holds converted arguments and has raised nothing. -/
def holding (p : CallPlan) (names : List Text) (results : List β) (attempted : List Conversion) :
    Machine β where
  scope := (declaredNames p).map (·, none) ++
    ((names.map localName).map Text.stem).zip (results.map some)
  raised? := none
  attempted := attempted.map Conversion.seen
  calls := []

section
variable {p : CallPlan} {names : List Text} {results : List β} {attempted : List Conversion}

theorem isDeclared_holding {name : Text} (h : name ∈ declaredNames p) :
    (holding p names results attempted).isDeclared name := by
  rw [isDeclared_iff, stem_of_mem_declaredNames p name h, holding, List.map_append, List.map_map]
  exact List.mem_append_left _ (List.mem_map_of_mem h)

/-- The variable of an argument is there exactly if an argument that is read as the same word is
held. -/
theorem isDeclared_holding_localName (same : names.length = results.length) (c : Conversion) :
    (holding p names results attempted).isDeclared c.localName ↔
      c.argument.name.stem ∈ names.map Text.stem := by
  have keys : (holding p names results attempted).scope.map Prod.fst =
      declaredNames p ++ (names.map Text.stem).map localName := by
    rw [holding, List.map_append, List.map_map, List.map_fst_zip (by simp [same]),
      map_stem_localName]
    exact congrArg (· ++ _) (List.map_id _)
  rw [isDeclared_iff, keys, Conversion.localName, stem_localName, List.mem_append,
    or_iff_right (localName_not_mem_declaredNames p c.argument.name.stem),
    List.mem_map_of_injective localName_injective]

theorem scope_holding_append (same : names.length = results.length) (name : Text) (result : β) :
    (holding p names results attempted).scope ++ [((localName name).stem, some result)] =
      (holding p (names ++ [name]) (results ++ [result]) attempted).scope := by
  simp only [holding, List.map_append, List.append_assoc, List.map_cons, List.map_nil]
  rw [List.zip_append (by simp [same])]
  rfl

theorem lookup_holding (same : names.length = results.length)
    (distinct : (names.map Text.stem).Nodup) :
    (names.map localName).mapM
      (fun name => ((holding p names results attempted).lookup name).join) = some results := by
  refine mapM_lookup_zip (by simp [same]) ?_ _ ?_
  · rw [map_stem_localName]
    exact distinct.map localName_injective
  · intro name mem
    obtain ⟨argument, -, rfl⟩ := List.mem_map.mp mem
    rw [List.lookup_eq_none_iff]
    intro pair declared
    obtain ⟨other, listed, rfl⟩ := List.mem_map.mp declared
    rw [bne_iff_ne, stem_localName]
    intro equal
    exact localName_not_mem_declaredNames p argument.stem (equal ▸ listed)

end

end Machine

section
variable {α β : Type} (values : List α) (fromValue : Text → Int → α → Except Unconvertible β)
  (raises : NativeCall → List β → Bool) (p : CallPlan)

/-- A conversion of a value that is given declares its variable, which must be a new one, and raises
what the converter says. -/
theorem convert_eq {c : Conversion} {v : α} {m : Machine β} (natural : 0 ≤ c.slot)
    (given : slotValue? values c.slot = some v) :
    m.convert values fromValue c.localName c.operator.written c.slot.toNat =
      if m.isDeclared c.localName then none
      else some (match told fromValue c v with
        | .ok w =>
          { m with
            scope := m.scope ++ [(c.localName.stem, some w)]
            attempted := m.attempted ++ [c.seen] }
        | .error fault =>
          { m with
            scope := m.scope ++ [(c.localName.stem, none)]
            raised? := some (.unconvertible fault)
            attempted := m.attempted ++ [c.seen] }) := by
  obtain ⟨i, at_slot⟩ := Int.eq_ofNat_of_zero_le natural
  rw [at_slot] at given
  have read : values[i]? = some v := given
  rw [Machine.convert, told, Conversion.seen, at_slot]
  simp only [Int.toNat_natCast, read, Option.bind_eq_bind, Option.bind_some]
  cases fromValue c.operator.written i v with
  | ok w => rfl
  | error fault => rfl

variable {m : Machine β} {fault : Fault}

theorem run_checkInstruction_of_none (calm : m.raised? = none)
    (declared : m.isDeclared "exception_state") :
    checkInstruction.run values fromValue raises m = some (m, .onward) := by
  simp [checkInstruction, Instruction.run, Machine.answer?, declared, calm]

theorem run_checkInstruction_of_some (raised : m.raised? = some fault)
    (declared : m.isDeclared "exception_state") :
    checkInstruction.run values fromValue raises m = some (m, .ended (.exception fault)) := by
  obtain ⟨scope, _, tried, calls⟩ := m
  obtain rfl := raised
  simp [checkInstruction, Instruction.run, Machine.answer?, declared, runAll]

/-- The run has ended with the exception of a conversion, the last of those attempted. -/
def Stopped (result : Option (Machine β × Exit)) (fault : Unconvertible)
    (attempted : List Conversion) : Prop :=
  ∃ m, result = some (m, .ended (.exception (.unconvertible fault))) ∧
    m.attempted = attempted.map Conversion.seen ∧ m.calls = []

section
variable {c : Conversion} {v : α} {names : List Text} {results : List β}
  (attempted : List Conversion) (natural : 0 ≤ c.slot)
  (given : slotValue? values c.slot = some v) (same : names.length = results.length)
include natural given same

/-- An argument is not converted if one that is read as the same word is held. -/
theorem runAll_conversion_of_mem (taken : c.argument.name.stem ∈ names.map Text.stem) :
    runAll values fromValue raises (.holding p names results attempted)
      (conversionInstructions c) = none := by
  have declared : (Machine.holding p names results attempted).isDeclared c.localName :=
    (Machine.isDeclared_holding_localName same c).mpr taken
  simp only [conversionInstructions, runAll, Instruction.run,
    convert_eq values fromValue natural given, declared, if_true, Option.map_none]

variable (fresh : c.argument.name.stem ∉ names.map Text.stem)
include fresh

theorem runAll_conversion_of_ok {w : β} (converted : told fromValue c v = .ok w) :
    runAll values fromValue raises (.holding p names results attempted)
        (conversionInstructions c) =
      some (.holding p (names ++ [c.argument.name]) (results ++ [w]) (attempted ++ [c]),
        .onward) := by
  let after : Machine β :=
    .holding p (names ++ [c.argument.name]) (results ++ [w]) (attempted ++ [c])
  have step : (Machine.holding p names results attempted).convert values fromValue c.localName
      c.operator.written c.slot.toNat = some after := by
    rw [convert_eq values fromValue natural given,
      if_neg (mt (Machine.isDeclared_holding_localName same _).mp fresh), converted]
    simp only [after, Conversion.localName, Machine.scope_holding_append same]
    simp [Machine.holding]
  have check := run_checkInstruction_of_none values fromValue raises (m := after) rfl
    (Machine.isDeclared_holding (by simp [declaredNames]))
  simp only [conversionInstructions, runAll, Instruction.run, step, Option.map_some, check]
  rfl

theorem runAll_conversion_of_error {fault : Unconvertible}
    (failed : told fromValue c v = .error fault) :
    Stopped (runAll values fromValue raises (.holding p names results attempted)
        (conversionInstructions c)) fault (attempted ++ [c]) := by
  let before : Machine β := .holding p names results attempted
  let after : Machine β :=
    { before with
      scope := before.scope ++ [(c.localName.stem, none)]
      raised? := some (.unconvertible fault)
      attempted := before.attempted ++ [c.seen] }
  have step : before.convert values fromValue c.localName
      c.operator.written c.slot.toNat = some after := by
    rw [convert_eq values fromValue natural given,
      if_neg (mt (Machine.isDeclared_holding_localName same _).mp fresh), failed]
  have declared : after.isDeclared "exception_state" := by
    have ahead : before.isDeclared "exception_state" :=
      Machine.isDeclared_holding (by simp [declaredNames])
    rw [Machine.isDeclared_iff] at ahead ⊢
    rw [List.map_append]
    exact List.mem_append_left _ ahead
  have check := run_checkInstruction_of_some values fromValue raises (m := after) rfl declared
  refine ⟨after, ?_, ?_, rfl⟩
  · simp only [conversionInstructions, runAll, Instruction.run, before, step, Option.map_some,
      check]
  · simp [after, before, Machine.holding]

end

/-- A run of conversions ends as they do in a trace. The names are those of all arguments that are
held if no conversion fails. -/
def Converted (ran : Option (Machine β × Exit)) (names : List Text) (results : List β)
    (attempted : List Conversion) : Except CallFailure (List β) → Prop
  | .ok more =>
    names.length = (results ++ more).length ∧
      ran = some (.holding p names (results ++ more) attempted, .onward)
  | .error (.unconvertible fault) => Stopped ran fault attempted
  | .error _ => True

theorem Converted.cons {ran : Option (Machine β × Exit)} {names : List Text} {results : List β}
    {w : β} {attempted : List Conversion} {outcome : Except CallFailure (List β)}
    (h : Converted p ran names (results ++ [w]) attempted outcome) :
    Converted p ran names results attempted (outcome.map (w :: ·)) := by
  cases outcome with
  | ok more => simpa [Converted, Except.map] using h
  | error failure => cases failure <;> exact h

/-- Conversions of fresh arguments do to the machine what they do in a trace. -/
theorem runAll_conversions {cs : List Conversion} {names : List Text} {results : List β}
    (attempted : List Conversion) (natural : ∀ c ∈ cs, 0 ≤ c.slot)
    (fresh : ((names ++ cs.map (·.argument.name)).map Text.stem).Nodup)
    (same : names.length = results.length) :
    let traced := convertAll values (told fromValue) cs
    Converted p
      (runAll values fromValue raises (.holding p names results attempted)
        (cs.flatMap conversionInstructions))
      (names ++ cs.map (·.argument.name)) results (attempted ++ traced.1) traced.2 := by
  induction cs generalizing names results attempted with
  | nil => simp [convertAll, Converted, runAll, same]
  | cons c rest ih =>
      obtain ⟨first, others⟩ := List.forall_mem_cons.mp natural
      have unused : c.argument.name.stem ∉ names.map Text.stem := by
        rw [List.map_append] at fresh
        exact fun mem => (List.nodup_append.mp fresh).2.2 _ mem _ List.mem_cons_self rfl
      rw [convertAll]
      simp only [List.flatMap_cons, runAll_append]
      cases given : slotValue? values c.slot with
      | none => trivial
      | some v =>
          cases converted : told fromValue c v with
          | error fault =>
              simp only [converted]
              obtain ⟨m, ended, tried, calls⟩ := runAll_conversion_of_error values fromValue raises
                p attempted first given same unused converted
              exact ⟨m, by rw [ended], tried, calls⟩
          | ok w =>
              have reached := runAll_conversion_of_ok values fromValue raises p attempted first
                given same unused converted
              have fresh : (((names ++ [c.argument.name]) ++
                  rest.map (·.argument.name)).map Text.stem).Nodup := by simpa using fresh
              have same : (names ++ [c.argument.name]).length = (results ++ [w]).length := by
                simp [same]
              have later := (ih (attempted ++ [c]) others fresh same).cons
              simpa only [converted, reached, List.map_cons, List.append_assoc, List.cons_append,
                List.nil_append] using later

/-- Points that pass on what was converted up to them, and of which only the last takes every
call. -/
def Chained : List Text → List DispatchPoint → Prop
  | _, [] => True
  | names, point :: rest =>
    point.callArguments = names ++ point.conversions.map (·.argument.name) ∧
      (point.catchAll → rest = []) ∧ Chained point.callArguments rest

/-- What is passed on by a point of a chain stands in front of what later points convert. -/
theorem names_append_cons {names : List Text} {point : DispatchPoint}
    (passed : point.callArguments = names ++ point.conversions.map (·.argument.name))
    (rest : List DispatchPoint) :
    names ++ ((point :: rest).flatMap (·.conversions)).map (·.argument.name) =
      point.callArguments ++ (rest.flatMap (·.conversions)).map (·.argument.name) := by
  rw [passed, List.flatMap_cons, List.map_append, List.append_assoc]

theorem needs_nativeCall (className : Text) (point : DispatchPoint) :
    ∀ name ∈ (p.nativeCall className point).needs, name ∈ declaredNames p := by
  intro name mem
  by_cases kept : p.result = .nothing <;> cases static : p.isStatic <;>
    simpa [NativeCall.needs, CallPlan.nativeCall, declaredNames, kept, static, or_assoc,
      or_comm, or_left_comm] using mem

/-- The run has made one native call, and control goes on behind the chain. -/
def Called (result : Option (Machine β × Exit)) (c : NativeCall) (results : List β)
    (attempted : List Conversion) : Prop :=
  ∃ m exit, result = some (m, exit) ∧ (exit = .onward ∨ exit = .left) ∧
    m.attempted = attempted.map Conversion.seen ∧ m.calls = [(c, results)] ∧
      m.raised? = if raises c results then some .native else none

section
variable {className : Text} {point : DispatchPoint} {results : List β}
  (attempted : List Conversion) (same : point.callArguments.length = results.length)
  (distinct : (point.callArguments.map Text.stem).Nodup)
include same distinct

/-- A call is passed the values held under the names of its point. -/
theorem call_holding :
    let m : Machine β := .holding p point.callArguments results attempted
    let c := p.nativeCall className point
    m.call raises c =
      some
        { m with
          calls := [(c, results)]
          raised? := if raises c results then some .native else none } := by
  intro m c
  have declared : c.needs.all m.isDeclared := List.all_eq_true.mpr fun name mem =>
    Machine.isDeclared_holding (needs_nativeCall p className point name mem)
  have held : (c.passed.mapM fun name => (m.lookup name).join) = some results :=
    Machine.lookup_holding same distinct
  rw [Machine.call, declared, held]
  by_cases raised : raises c results <;> simp [raised, Machine.raise, m, Machine.holding]

/-- What stands behind the conversions of a point makes the call if the point takes it. -/
theorem runAll_ending_of_fires (fires : point.fires values.length) {rest : List Instruction}
    (last : point.catchAll → rest = []) :
    Called raises
      (runAll values fromValue raises (.holding p point.callArguments results attempted)
        (endingInstructions p className point ++ rest))
      (p.nativeCall className point) results attempted := by
  let m : Machine β := .holding p point.callArguments results attempted
  let c := p.nativeCall className point
  let after : Machine β :=
    { m with
      calls := [(c, results)]
      raised? := if raises c results then some .native else none }
  have called : m.call raises c = some after := call_holding raises p attempted same distinct
  rw [endingInstructions]
  cases catchAll : point.catchAll with
  | true =>
      rw [last catchAll]
      refine ⟨after, .onward, ?_, .inl rfl, rfl, rfl, rfl⟩
      simp [runAll, Instruction.run, m, c, called]
  | false =>
      have few : values.length ≤ point.arity := by
        simpa [DispatchPoint.fires, catchAll] using fires
      refine ⟨after, .left, ?_, .inr rfl, rfl, rfl, rfl⟩
      simp only [List.cons_append, List.nil_append, runAll, Instruction.run, Machine.answer?,
        CountTest.holds, few, decide_true, Bool.false_eq_true, if_false]
      rw [called]
      rfl

end

theorem runAll_ending_of_skips {className : Text} {point : DispatchPoint}
    (skips : point.fires values.length = false) (m : Machine β) (rest : List Instruction) :
    runAll values fromValue raises m (endingInstructions p className point ++ rest) =
      runAll values fromValue raises m rest := by
  simp only [DispatchPoint.fires, Bool.or_eq_false_iff, decide_eq_false_iff_not] at skips
  obtain ⟨catchAll, many⟩ := skips
  simp [endingInstructions, catchAll, runAll, Instruction.run, Machine.answer?, CountTest.holds,
    many]

/-- The run of a chain ends as its trace does. -/
def Followed (className : Text) (ran : Option (Machine β × Exit)) (attempted : List Conversion)
    (t : CallTrace β) : Prop :=
  match t.outcome with
  | .ok made =>
    Called raises ran (p.nativeCall className made.point) made.values (attempted ++ t.attempted)
  | .error (.unconvertible fault) => Stopped ran fault (attempted ++ t.attempted)
  | .error _ => True

theorem Followed.after {className : Text} {ran : Option (Machine β × Exit)}
    {attempted tried : List Conversion} {t : CallTrace β}
    (h : Followed raises p className ran (attempted ++ tried) t) :
    Followed raises p className ran attempted (t.after tried) := by
  rw [Followed, List.append_assoc] at h
  exact h

/-- The points of a chain do to the machine what they do in a trace. -/
theorem runAll_points (className : Text) {points : List DispatchPoint} {names : List Text}
    {results : List β} (attempted : List Conversion) (chained : Chained names points)
    (natural : ∀ point ∈ points, ∀ c ∈ point.conversions, 0 ≤ c.slot)
    (distinct :
      ((names ++ (points.flatMap (·.conversions)).map (·.argument.name)).map Text.stem).Nodup)
    (same : names.length = results.length) :
    Followed raises p className
      (runAll values fromValue raises (.holding p names results attempted)
        (points.flatMap (pointInstructions p className)))
      attempted (p.runPoints values (told fromValue) results points) := by
  induction points generalizing names results attempted with
  | nil => trivial
  | cons point rest ih =>
      obtain ⟨passed, last, chained⟩ := chained
      obtain ⟨first, others⟩ := List.forall_mem_cons.mp natural
      rw [names_append_cons passed rest] at distinct
      have fresh : (point.callArguments.map Text.stem).Nodup := by
        rw [List.map_append] at distinct
        exact (List.nodup_append.mp distinct).1
      have converted := runAll_conversions values fromValue raises p attempted first
        (passed ▸ fresh) same
      rw [← passed] at converted
      simp only [List.flatMap_cons, pointInstructions, List.append_assoc, runAll_append,
        CallPlan.runPoints]
      cases traced : convertAll values (told fromValue) point.conversions with
      | mk tried outcome =>
          rw [traced] at converted
          cases outcome with
          | error failure =>
              cases failure with
              | unconvertible fault =>
                  obtain ⟨m, ended, seen, calls⟩ := converted
                  exact ⟨m, by rw [ended], seen, calls⟩
              | tooFew _ _ _ | tooMany _ _ _ _ | noValue _ | noCatchAll _ => trivial
          | ok more =>
              obtain ⟨same, reached⟩ := converted
              simp only [reached]
              rw [← runAll_append]
              cases fires : point.fires values.length with
              | true =>
                  exact runAll_ending_of_fires values fromValue raises p (attempted ++ tried) same
                    fresh fires fun catchAll => by rw [last catchAll]; rfl
              | false =>
                  rw [runAll_ending_of_skips values fromValue raises p fires]
                  exact (ih (attempted ++ tried) chained others distinct same).after

/-- The value of a slot is given, and the converter takes it. -/
def Succeeds (c : Conversion) : Prop :=
  0 ≤ c.slot ∧ ∃ v w, slotValue? values c.slot = some v ∧ told fromValue c v = .ok w

/-- Conversions of which none fails are run to the end only if they declare a new variable each. -/
theorem distinct_of_runAll_conversions {cs : List Conversion} {names : List Text}
    {results : List β} {attempted : List Conversion} (taken : ∀ c ∈ cs, Succeeds values fromValue c)
    (distinct : (names.map Text.stem).Nodup) (same : names.length = results.length)
    {rest : List Instruction} {ended : Machine β × Exit}
    (ran : runAll values fromValue raises (.holding p names results attempted)
      (cs.flatMap conversionInstructions ++ rest) = some ended) :
    ((names ++ cs.map (·.argument.name)).map Text.stem).Nodup ∧
      ∃ (more : List β) (tried : List Conversion),
        (names ++ cs.map (·.argument.name)).length = more.length ∧
        runAll values fromValue raises
          (.holding p (names ++ cs.map (·.argument.name)) more tried) rest = some ended := by
  induction cs generalizing names results attempted with
  | nil => exact ⟨by simpa using distinct, results, attempted, by simpa using same,
      by simpa using ran⟩
  | cons c others ih =>
      obtain ⟨first, taken⟩ := List.forall_mem_cons.mp taken
      obtain ⟨natural, v, w, given, accepted⟩ := first
      rw [List.flatMap_cons, List.append_assoc, runAll_append] at ran
      by_cases used : c.argument.name.stem ∈ names.map Text.stem
      · rw [runAll_conversion_of_mem values fromValue raises p attempted natural given same
          used] at ran
        exact absurd ran (by simp)
      · rw [runAll_conversion_of_ok values fromValue raises p attempted natural given same used
          accepted] at ran
        have fresh : ((names ++ [c.argument.name]).map Text.stem).Nodup := by
          rw [List.map_append, List.nodup_append]
          refine ⟨distinct, List.nodup_singleton _, ?_⟩
          rintro held listed _ last rfl
          exact used (List.mem_singleton.mp last ▸ listed)
        have later := ih taken fresh (by simp [same]) ran
        simpa using later

/-- A chain is run to the end of a call with all arguments only if no two of them are read as one
word. -/
theorem distinct_of_runAll_points {className : Text} {points : List DispatchPoint}
    {names : List Text} {results : List β} {attempted : List Conversion}
    (chained : Chained names points)
    (taken : ∀ point ∈ points, ∀ c ∈ point.conversions, Succeeds values fromValue c)
    (passes : ∀ point ∈ points, point.catchAll ∨ point.fires values.length = false)
    (distinct : (names.map Text.stem).Nodup) (same : names.length = results.length)
    {ended : Machine β × Exit}
    (ran : runAll values fromValue raises (.holding p names results attempted)
      (points.flatMap (pointInstructions p className)) = some ended) :
    ((names ++ (points.flatMap (·.conversions)).map (·.argument.name)).map Text.stem).Nodup := by
  induction points generalizing names results attempted with
  | nil => simpa using distinct
  | cons point rest ih =>
      obtain ⟨passed, last, chained⟩ := chained
      obtain ⟨here, taken⟩ := List.forall_mem_cons.mp taken
      obtain ⟨pass, passes⟩ := List.forall_mem_cons.mp passes
      rw [List.flatMap_cons, pointInstructions, List.append_assoc] at ran
      obtain ⟨distinct, more, tried, same, ran⟩ := distinct_of_runAll_conversions values fromValue
        raises p here distinct same ran
      rw [← passed] at distinct same ran
      rw [names_append_cons passed rest]
      rcases pass with catchAll | skips
      · rw [last catchAll]
        simpa using distinct
      · rw [runAll_ending_of_skips values fromValue raises p skips] at ran
        exact ih chained taken passes distinct same ran

end

end Callback

end ScriptBinding
