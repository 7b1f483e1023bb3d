import ScriptBinding.Proofs.Layout.Steps

/-!
The routines write code that is nested as blocks: what each of them asks of an emitter are the steps
of a tree. So whatever they open they close, on every path and for every plan, and the two files of
a unit hold the lines of its code.
-/
namespace ScriptBinding

open Code (allSteps allSteps_append allSteps_map_line allSteps_spaced)
open Statement (codeAll)

namespace Statement

theorem codeAll_eq_map (body : List Statement) : codeAll body = body.map code := by
  induction body with
  | nil => rfl
  | cons s rest ih => rw [codeAll, ih, List.map_cons]

theorem codeAll_append (body others : List Statement) :
    codeAll (body ++ others) = codeAll body ++ codeAll others := by
  simp only [codeAll_eq_map, List.map_append]

/-- Declarations are written as they come. -/
theorem allSteps_declare (texts : List Text) :
    allSteps (codeAll (texts.map .declare)) = texts.map .line := by
  rw [codeAll_eq_map, List.map_map]
  exact allSteps_map_line texts

end Statement

namespace CallPlan

variable (p : CallPlan) (className : Text)

theorem allSteps_conversions (conversions : List Conversion) :
    allSteps (codeAll (conversions.flatMap conversionStatements)) =
      conversions.flatMap Conversion.steps := by
  induction conversions with
  | nil => rfl
  | cons c rest ih =>
      rw [List.flatMap_cons, Statement.codeAll_append, allSteps_append, ih, List.flatMap_cons]
      rfl

theorem pointSteps_eq (point : DispatchPoint) :
    p.pointSteps className point = allSteps (codeAll (p.pointStatements className point)) := by
  rw [pointSteps, pointStatements, Statement.codeAll_append, Statement.codeAll_append,
    allSteps_append, allSteps_append, allSteps_conversions]
  cases point.catchAll <;> cases point.conversions.isEmpty <;>
    simp [codeAll, Statement.code, allSteps, Code.steps, Code.blank, Emitter.Step.blank]

/-- Behind the first point of a chain there is an empty line in front of each. -/
theorem chainSteps_succ (i : Nat) (points : List DispatchPoint) :
    p.chainSteps className (i + 1) points =
      points.flatMap fun point => .blank :: p.pointSteps className point := by
  induction points generalizing i with
  | nil => rfl
  | cons point rest ih =>
      rw [chainSteps, ih, List.flatMap_cons, if_pos (Nat.succ_pos i)]
      rfl

theorem chainSteps_eq (points : List DispatchPoint) :
    p.chainSteps className 0 points =
      allSteps (codeAll ([Statement.blank].intercalate
        (points.map (p.pointStatements className)))) := by
  cases points with
  | nil => rfl
  | cons point rest =>
      rw [chainSteps, chainSteps_succ]
      induction rest generalizing point with
      | nil => simp [pointSteps_eq]
      | cons next rest ih =>
          rw [List.map_cons, List.map_cons, List.intercalate_cons_cons, ← List.map_cons,
            Statement.codeAll_append, Statement.codeAll_append, allSteps_append, allSteps_append,
            ← ih, ← pointSteps_eq]
          simp [Statement.codeAll, Statement.code, allSteps, Code.steps, Code.blank,
            Emitter.Step.blank]

/-- The body of a callback leaves every block it enters. -/
theorem bodySteps_eq : p.bodySteps className = allSteps (p.bodyCode className) := by
  have guard (wanted : Prop) [Decidable wanted] (test : CountTest) (format : Text) :
      allSteps (codeAll (if wanted then [.branch test [.throwMessage format], .blank] else [])) =
        if wanted then guardSteps test format else [] := by
    split <;> rfl
  have chain (statements : List Statement) :
      allSteps (codeAll [.blank, .once statements, .blank, .returnOnException,
          .giveBack p.result.value]) =
        [.blank, .enter "do \x7b  // Dummy loop for use of 'break'."] ++
          allSteps (codeAll statements) ++
          [.leave "\x7d while (false);", .blank] ++ exceptionCheckSteps ++
          [.line ("return " ++ p.result.value ++ ";")] := by
    simp [codeAll, Statement.code, allSteps, Code.steps, Code.blank, Emitter.Step.blank,
      Statement.exceptionCheck, exceptionCheckSteps]
  rw [bodyCode, body, guards, Statement.codeAll_append, Statement.codeAll_append,
    Statement.codeAll_append, allSteps_append, allSteps_append, allSteps_append, guard, guard,
    chain, ← chainSteps_eq, declarations, Statement.allSteps_declare, bodySteps]
  cases p.result.declaration? <;> cases p.isStatic <;> simp [receiverSteps, receiverLines]

/-- A callback, with the empty line behind it. -/
theorem callbackSteps_eq :
    p.callbackSteps className = (p.callbackCode className).steps ++ [.blank] := by
  simp [callbackSteps, bodySteps_eq, callbackCode, callback, Code.steps]

end CallPlan

namespace Accessor

variable (a : Accessor) (className : Text)

theorem getterSteps_eq :
    a.getterSteps className = (a.getterCode className).steps ++ [.blank] := by
  rw [getterCode, callback, Code.steps, allSteps_map_line]
  simp [getterSteps, receiverSteps, receiverLines]

theorem setterSteps_eq :
    a.setterSteps className =
      allSteps (Code.spaced (a.setter?.map (a.setterCode className)).toList) := by
  rw [setterSteps]
  cases a.setter? with
  | none => rfl
  | some s =>
      simp [allSteps_spaced, setterCode, callback, allSteps, Code.steps, receiverSteps,
        receiverLines, Statement.exceptionCheck, exceptionCheckSteps]

end Accessor

namespace ModulePlan

variable (p : ModulePlan)

theorem bannerSteps_eq : p.bannerSteps = allSteps (bannerCode p.options.banner) := by
  rw [bannerSteps, bannerCode]
  split
  · rfl
  · rw [allSteps_append, Code.allSteps_map_verbatim]
    rfl

theorem memberSteps_eq (member : MemberPlan) :
    p.memberSteps member = allSteps (Code.spaced (p.memberCode member)) := by
  cases member with
  | function plan =>
      rw [memberSteps, plan.callbackSteps_eq, allSteps_spaced]
      simp [memberCode]
  | cls c =>
      have setters : c.accessors.flatMap (·.setterSteps p.className) =
          allSteps (Code.spaced
            (c.accessors.filterMap fun a => a.setter?.map (a.setterCode p.className))) := by
        simp only [Accessor.setterSteps_eq, allSteps_spaced]
        induction c.accessors with
        | nil => rfl
        | cons a rest ih =>
            rw [List.flatMap_cons, List.filterMap_cons, ih]
            cases a.setter? <;> simp
      simp only [memberSteps, memberCode, CallPlan.callbackSteps_eq, Accessor.getterSteps_eq,
        setters, allSteps_spaced, CallPlan.bodySteps_eq]
      simp [constructorCode, Code.steps, List.flatMap_map]

/-- A table and the call that installs it, with the lookup ahead of them. -/
theorem tableSteps_eq (lookup : List Code) (type name : Text) (rows : List Text) (call : Text) :
    allSteps (installTable lookup (tableCode type name (rows.map .line)) call) =
      allSteps lookup ++ tableSteps type name rows call := by
  simp [tableSteps, installTable, tableCode, allSteps, Code.steps, Code.blank, Emitter.Step.blank]

/-- A routine of the wrapper class. -/
theorem steps_installRoutine (wrapper name : Text) (body : List Code) :
    (installRoutine wrapper name body).steps =
      .enter (routineOpening wrapper name) :: (allSteps body ++ [.leave "\x7d"]) := by
  rw [installRoutine, Code.steps]

theorem map_functionCode (rows : List FunctionRow) :
    rows.map FunctionRow.code = (rows.map FunctionRow.written).map .line := by
  rw [List.map_map]
  rfl

theorem installSteps_eq : p.installSteps = p.installCode.steps := by
  rw [installCode, steps_installRoutine, installSteps, installRoutines]
  cases p.registrations.hasClass <;> rfl

theorem globalFunctionsSteps_eq : p.globalFunctionsSteps = p.globalFunctionsCode.steps := by
  rw [globalFunctionsCode, steps_installRoutine, map_functionCode, tableSteps_eq,
    globalFunctionsSteps]
  rfl

theorem constructorTableSteps_eq (name : Text) :
    p.constructorTableSteps name = (p.constructorTableCode name).steps := by
  have row : [Code.line (constructorRow name)] = [constructorRow name].map .line := rfl
  rw [constructorTableCode, steps_installRoutine, row, tableSteps_eq, constructorTableSteps]
  rfl

theorem prototypeMethodsSteps_eq : p.prototypeMethodsSteps = p.prototypeMethodsCode.steps := by
  rw [prototypeMethodsCode, steps_installRoutine, map_functionCode, tableSteps_eq,
    prototypeMethodsSteps]
  rfl

theorem prototypePropertiesSteps_eq :
    p.prototypePropertiesSteps = p.prototypePropertiesCode.steps := by
  have rows : p.registrations.prototypeProperties.map PropertyRow.code =
      (p.registrations.prototypeProperties.map PropertyRow.written).map .line := by
    rw [List.map_map]
    rfl
  rw [prototypePropertiesCode, steps_installRoutine, rows, tableSteps_eq, prototypePropertiesSteps]
  rfl

theorem sourceSteps_eq : p.sourceSteps = allSteps p.sourceCode := by
  have includes : allSteps (p.includes.map includeLine) =
      p.includes.map fun header => .line (includeText header) := by
    have lines := allSteps_map_line (p.includes.map includeText)
    rwa [List.map_map, List.map_map] at lines
  have members : p.members.flatMap p.memberSteps =
      allSteps (Code.spaced (p.members.flatMap p.memberCode)) := by
    rw [allSteps_spaced, List.flatMap_assoc]
    exact congrArg List.flatten (List.map_congr_left fun member _ => by
      rw [memberSteps_eq, allSteps_spaced])
  have typeInfo : (if p.classPlan?.isSome then p.typeInfoSteps ++ [.blank] else []) =
      allSteps (if p.classPlan?.isSome then p.typeInfoCode ++ [.blank] else []) := by
    split <;> rfl
  rw [sourceCode, sourceSteps, typeInfo, members, bannerSteps_eq]
  simp only [allSteps_append, includes, allSteps_spaced, installers, List.flatMap_append,
    installSteps_eq, globalFunctionsSteps_eq, constructorTableSteps_eq, prototypeMethodsSteps_eq,
    prototypePropertiesSteps_eq]
  cases p.registrations.constructor? <;>
    simp [allSteps, Code.steps, Code.blank, Emitter.Step.blank, namespaceOpening, namespaceClosing]

/-- The margin of a header is moved back as often as it is moved in. -/
theorem headerSteps_eq : p.headerSteps = allSteps p.headerCode := by
  rw [headerCode, headerSteps, bannerSteps_eq, wrapperCode, installRoutines]
  cases p.registrations.hasClass <;>
    simp [allSteps, Code.steps, Code.blank, Emitter.Step.blank, namespaceOpening, namespaceClosing,
      publicClassCode, routineDeclaration, includeLine]

/-- The code of a file. -/
def code : FileKind → List Code
  | .header => p.headerCode
  | .source => p.sourceCode

theorem steps_eq (kind : FileKind) : p.steps kind = allSteps (p.code kind) := by
  cases kind with
  | header => exact p.headerSteps_eq
  | source => exact p.sourceSteps_eq

/-- A file holds the lines of its code. -/
theorem emit_fresh (kind : FileKind) :
    (Backend.fresh.emit ⟨kind, p⟩).1 = ((Emitter.fresh glueIndent).hold (p.code kind)).file := by
  show ((Emitter.fresh glueIndent).run (p.steps kind)).file = _
  rw [steps_eq, Code.run_allSteps]
  rfl

theorem source_eq : p.source = ((Emitter.fresh glueIndent).hold p.sourceCode).file :=
  p.emit_fresh .source

theorem header_eq : p.header = ((Emitter.fresh glueIndent).hold p.headerCode).file :=
  p.emit_fresh .header

end ModulePlan

end ScriptBinding
