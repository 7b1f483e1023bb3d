import ScriptBinding.Proofs.Assembly.Shown
import ScriptBinding.Proofs.Callback.Body
import ScriptBinding.Proofs.Unit.Generation

/-!
The files of a unit show nothing of its plan that the report leaves out. Each part of the code is
the same for plans that are alike; so two units whose reports agree are written out alike, if what
is no part of the plan agrees: the header of the implementation, the namespace, the banner and the
includes.
-/
namespace ScriptBinding

namespace Statement

theorem codeAll_intercalate (bodies : List (List Statement)) :
    codeAll ([blank].intercalate bodies) = [Code.blank].intercalate (bodies.map codeAll) := by
  induction bodies with
  | nil => rfl
  | cons body rest ih =>
      cases rest with
      | nil => simp
      | cons next rest =>
          rw [List.intercalate_cons_cons, List.map_cons, List.map_cons, List.intercalate_cons_cons,
            ← List.map_cons, ← ih]
          simp only [codeAll_eq_map, List.map_append, List.map_cons, List.map_nil, code]

end Statement

theorem map_eq_map_of_forall₂ {α β γ : Type} {R : α → β → Prop} {as : List α} {bs : List β}
    (h : List.Forall₂ R as bs) {f : α → γ} {g : β → γ} (each : ∀ a b, R a b → f a = g b) :
    as.map f = bs.map g := by
  rw [← List.forall₂_eq_eq_eq, List.forall₂_map_left_iff, List.forall₂_map_right_iff]
  exact h.imp each

open Statement (codeAll codeAll_eq_map codeAll_intercalate)

namespace CallResult.Alike

variable {r s : CallResult} (h : r.Alike s)
include h

theorem declaration?_eq : r.declaration? = s.declaration? := by
  cases h with
  | nothing | promise | owned _ => rfl
  | converted same => simp only [declaration?, same]

theorem value_eq : r.value = s.value := by
  cases h with
  | nothing | promise | owned _ => rfl
  | converted same => simp only [value, same]

theorem nothing_iff : r = .nothing ↔ s = .nothing := by
  cases h <;> simp

end CallResult.Alike

theorem Conversion.Alike.code_eq {c d : Conversion} (h : c.Alike d) :
    codeAll (CallPlan.conversionStatements c) = codeAll (CallPlan.conversionStatements d) := by
  simp only [CallPlan.conversionStatements, codeAll, Statement.code, Statement.convertLine,
    Conversion.localName, h.argument, h.slot, h.operator]

namespace CallPlan.Alike

variable {p q : CallPlan} (h : p.Alike q)
include h

theorem isStatic_eq : p.isStatic = q.isStatic := by rw [isStatic, isStatic, h.mode]

theorem nativeCall_eq {point point' : DispatchPoint} (same : point.Alike point')
    (className : Text) : p.nativeCall className point = q.nativeCall className point' := by
  have kept : decide (p.result ≠ .nothing) = decide (q.result ≠ .nothing) :=
    decide_eq_decide.mpr (not_congr h.result.nothing_iff)
  simp only [nativeCall, h.isStatic_eq, h.callee, same.callArguments, kept]

theorem guards_eq : p.guards = q.guards := by
  simp only [guards, h.name, h.required, h.accepted, h.strictArity]

theorem declarations_eq (className : Text) :
    p.declarations className = q.declarations className := by
  simp only [declarations, h.result.declaration?_eq, h.isStatic_eq]

theorem pointCode_eq {point point' : DispatchPoint} (same : point.Alike point')
    (className : Text) :
    codeAll (p.pointStatements className point) = codeAll (q.pointStatements className point') := by
  have conversions : codeAll (point.conversions.flatMap conversionStatements) =
      codeAll (point'.conversions.flatMap conversionStatements) := by
    have each := map_eq_map_of_forall₂ same.conversions fun _ _ => Conversion.Alike.code_eq
    simp only [codeAll_eq_map] at each
    simp only [codeAll_eq_map, List.map_flatMap]
    exact congrArg List.flatten each
  have separation : point.conversions.isEmpty = point'.conversions.isEmpty := by
    rw [Bool.eq_iff_iff, List.isEmpty_iff_length_eq_zero, List.isEmpty_iff_length_eq_zero,
      same.conversions.length_eq]
  have ending : (if point.catchAll then [Statement.call (p.nativeCall className point)]
        else [.branch (.atMost point.arity) [.call (p.nativeCall className point), .leave]]) =
      if point'.catchAll then [.call (q.nativeCall className point')]
        else [.branch (.atMost point'.arity) [.call (q.nativeCall className point'), .leave]] := by
    have arity := same.arity
    rw [h.nativeCall_eq same, ← same.catchAll]
    cases catchAll : point.catchAll with
    | false => rw [arity catchAll]
    | true => rfl
  simp only [pointStatements, separation, ending]
  simp only [codeAll_eq_map, List.map_append] at conversions ⊢
  rw [conversions]

theorem bodyCode_eq (className : Text) : p.bodyCode className = q.bodyCode className := by
  have chain : codeAll ([Statement.blank].intercalate (p.points.map (p.pointStatements className))) =
      codeAll ([Statement.blank].intercalate (q.points.map (q.pointStatements className))) := by
    have each := map_eq_map_of_forall₂ h.points fun _ _ same => h.pointCode_eq same className
    rw [codeAll_intercalate, codeAll_intercalate, List.map_map, List.map_map]
    exact congrArg _ each
  simp only [bodyCode, body, h.guards_eq, h.declarations_eq, h.result.value_eq]
  simp only [codeAll_eq_map, List.map_append, List.map_cons, Statement.code] at chain ⊢
  rw [chain]

theorem callbackCode_eq (className : Text) :
    p.callbackCode className = q.callbackCode className := by
  rw [callbackCode, callbackCode, h.name, h.bodyCode_eq]

end CallPlan.Alike

namespace Accessor.Alike

variable {a b : Accessor} (h : a.Alike b) (className : Text)
include h

theorem getterCode_eq : a.getterCode className = b.getterCode className := by
  simp only [getterCode, readLine, h.operator, h.getter, h.nativeGetter]

theorem setterCode_eq (s : Setter) : a.setterCode className s = b.setterCode className s := by
  simp only [setterCode, convertLine, h.operator]

end Accessor.Alike

namespace ModulePlan.Alike

variable {p q : ModulePlan} (h : p.Alike q)
include h

theorem className_eq : p.className = q.className := h.backing

theorem wrapperName_eq : p.wrapperName = q.wrapperName := by
  rw [wrapperName, wrapperName, h.backing]

theorem memberCode_eq {a b : MemberPlan} (same : a.Alike b) : p.memberCode a = q.memberCode b := by
  cases same with
  | function same => simp only [memberCode, h.className_eq, same.callbackCode_eq]
  | @cls c d same =>
      have getters := map_eq_map_of_forall₂ same.accessors
        fun _ _ alike => Accessor.Alike.getterCode_eq alike q.className
      have setters : (c.accessors.filterMap fun a => a.setter?.map (a.setterCode q.className)) =
          d.accessors.filterMap fun a => a.setter?.map (a.setterCode q.className) := by
        have each := map_eq_map_of_forall₂ same.accessors fun a b alike =>
          show a.setter?.map (a.setterCode q.className) = b.setter?.map (b.setterCode q.className) by
            rw [alike.setter?, funext (alike.setterCode_eq q.className)]
        simpa only [List.filterMap_map, Function.comp_def] using
          congrArg (List.filterMap (fun c => c)) each
      have methods := map_eq_map_of_forall₂ same.methods
        fun _ _ alike => CallPlan.Alike.callbackCode_eq alike q.className
      simp only [memberCode, constructorCode, constructorOpening, h.wrapperName_eq, h.className_eq,
        same.constructor.bodyCode_eq, getters, setters, methods]

theorem isSome_classPlan?_eq : p.classPlan?.isSome = q.classPlan?.isSome := by
  have each := map_eq_map_of_forall₂ h.members fun a b alike =>
    show a.class?.isSome = b.class?.isSome by cases alike <;> rfl
  rw [classPlan?, classPlan?, List.isSome_findSome?, List.isSome_findSome?]
  simpa only [List.any_map, Function.comp_def] using congrArg (List.any · (fun b => b)) each

/-- What is no part of a plan but of its surroundings, and is written into its files. -/
theorem sourceCode_eq (namespaceName : p.options.namespaceName = q.options.namespaceName)
    (banner : p.options.banner = q.options.banner)
    (includeRoot : p.options.includeRoot = q.options.includeRoot)
    (extraIncludes : p.options.extraIncludes = q.options.extraIncludes)
    (implementation : p.module.implementation = q.module.implementation) :
    p.sourceCode = q.sourceCode := by
  have members : p.members.flatMap p.memberCode = q.members.flatMap q.memberCode :=
    congrArg List.flatten (map_eq_map_of_forall₂ h.members fun _ _ => h.memberCode_eq)
  have includes : p.includes = q.includes := by
    simp only [includes, ModulePlan.implementation, h.id, includeRoot, extraIncludes, implementation]
  have typeInfo : p.typeInfoCode = q.typeInfoCode := by
    simp only [typeInfoCode, typeInfoLine, typeReferenceLine, h.wrapperName_eq, h.className_eq]
  have installers : p.installers = q.installers := by
    simp only [installers, installCode, installRoutines, globalFunctionsCode, constructorTableCode,
      prototypeMethodsCode, prototypePropertiesCode, h.wrapperName_eq, h.registrations]
  simp only [sourceCode, banner, includes, namespaceOpening, namespaceClosing, namespaceLine,
    namespaceEnd, namespaceName, h.isSome_classPlan?_eq, typeInfo, members, installers]

theorem headerCode_eq (namespaceName : p.options.namespaceName = q.options.namespaceName)
    (banner : p.options.banner = q.options.banner) : p.headerCode = q.headerCode := by
  simp only [headerCode, includeGuard, wrapperCode, wrapperLine, installRoutines, namespaceOpening,
    namespaceClosing, namespaceLine, namespaceEnd, namespaceName, banner, h.id, h.wrapperName_eq,
    h.registrations]

end ModulePlan.Alike

namespace Module

/-- Two accepted units whose plans have the same report are written into the same two files, if the
header of the implementation is the same and the options differ in strictness at most. -/
theorem files_eq_of_report {m m' : Module} (valid : m.isValid) (valid' : m'.isValid)
    (implementation : m.implementation = m'.implementation) {options options' : Options}
    (namespaceName : options.namespaceName = options'.namespaceName)
    (banner : options.banner = options'.banner)
    (includeRoot : options.includeRoot = options'.includeRoot)
    (extraIncludes : options.extraIncludes = options'.extraIncludes) :
    ∃ p p', m.plan options = .ok p ∧ m'.plan options' = .ok p' ∧
      (Json.Same p.report p'.report →
        p.source = p'.source ∧ p.header = p'.header ∧
          m.generate options = m'.generate options') := by
  refine ⟨_, _, plan_eq_ok valid options, plan_eq_ok valid' options', fun same => ?_⟩
  have alike := alike_of_report same
  have source : (m.planned options).source = (m'.planned options').source := by
    rw [ModulePlan.source_eq, ModulePlan.source_eq, alike.sourceCode_eq namespaceName banner
      includeRoot extraIncludes implementation]
  have header : (m.planned options).header = (m'.planned options').header := by
    rw [ModulePlan.header_eq, ModulePlan.header_eq, alike.headerCode_eq namespaceName banner]
  have id : m.id = m'.id := alike.id
  refine ⟨source, header, ?_⟩
  rw [generate_eq_map, generate_eq_map, plan_eq_ok valid, plan_eq_ok valid']
  simp only [Except.map, source, header, id]

/-- A unit with a function that is given lists of items of this type. -/
def lister (item : ValueType) : Module :=
  { id := "page"
    backing := "Page"
    members := [.function ⟨"list", [⟨"items", .sequence item, true⟩, ⟨"first", item, false⟩], item⟩]
    implementation := [] }

/-- A value of any type is converted like an interface that is named after this conversion. -/
theorem files_eq_of_report_lister :
    lister (.primitive .any) ≠ lister (.interface "IDLAny") ∧
      ∃ p p', (lister (.primitive .any)).plan .standard = .ok p ∧
        (lister (.interface "IDLAny")).plan .standard = .ok p' ∧
        Json.Same p.report p'.report ∧ p.source = p'.source ∧ p.header = p'.header := by
  have valid : (lister (.primitive .any)).isValid := by decide
  have valid' : (lister (.interface "IDLAny")).isValid := by decide
  obtain ⟨p, p', planned, planned', determined⟩ :=
    @files_eq_of_report _ _ valid valid' rfl .standard .standard rfl rfl rfl rfl
  have same : Json.Same p.report p'.report := by
    obtain rfl := Except.ok.inj ((plan_eq_ok valid .standard).symm.trans planned)
    obtain rfl := Except.ok.inj ((plan_eq_ok valid' .standard).symm.trans planned')
    exact .refl _
  exact ⟨by decide, p, p', planned, planned', same, (determined same).1, (determined same).2.1⟩

end Module

end ScriptBinding
