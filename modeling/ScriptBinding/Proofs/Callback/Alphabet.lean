import ScriptBinding.Proofs.Callback.Plan
import ScriptBinding.Proofs.Interface.Names
import ScriptBinding.Proofs.Layout.Alphabet

/-!
What the body of a callback is made of: the fixed texts of the statements, and the names and
operators of its plan.
-/
namespace ScriptBinding

open Text (over_append over_of_all over_signedDecimal)

/-- A plan whose names and operators are all made of certain code points. -/
structure CallPlan.Over (P : CodePoint → Prop) (p : CallPlan) : Prop where
  name : p.name.Over P
  quoted : p.name.quoted.Over P
  callee : p.callee.Over P
  passed : ∀ point ∈ p.points, ∀ name ∈ point.callArguments, name.Over P
  converted : ∀ point ∈ p.points, ∀ c ∈ point.conversions, c.argument.name.Over P
  operators : ∀ point ∈ p.points, ∀ c ∈ point.conversions, c.operator.written.Over P
  owned : ∀ type, p.result = .owned type → type.Over P
  result : ∀ operator, p.result = .converted operator → operator.written.Over P

section
variable {P : CodePoint → Prop} (glue : ∀ p : CodePoint, p.isGlue → P p)
include glue

theorem over_localName {name : Text} (made : name.Over P) : (localName name).Over P :=
  over_append.mpr ⟨over_of_all glue (by decide), made⟩

theorem over_receiverLines {className : Text} (backing : className.Over P) :
    ∀ t ∈ receiverLines className, t.Over P := by
  rw [receiverLines, List.forall_mem_cons, List.forall_mem_singleton]
  simp (disch := decide) only [over_append, over_of_all glue, backing, and_self]

namespace Statement

theorem over_exceptionCheck : exceptionCheck.Over P := by
  refine .block (over_of_all glue (by decide)) ?_ (over_of_all glue (by decide))
  rw [List.forall_mem_singleton]
  exact .line (over_of_all glue (by decide))

theorem over_throwMessage {format : Text} (made : format.Over P) :
    (throwMessage format).code.Over P := by
  refine .line ?_
  simp (disch := decide) only [throwLine, over_append, over_of_all glue, made, and_self]

theorem over_convert {localName : Text} {operator : Operator} (made : localName.Over P)
    (written : operator.written.Over P) (slot : Int) :
    (convert localName operator slot).code.Over P := by
  refine .line ?_
  simp (disch := decide) only [convertLine, over_append, over_of_all glue, made, written,
    over_signedDecimal glue slot, and_self]

theorem over_branch (test : CountTest) {body : List Statement}
    (inside : ∀ s ∈ body, s.code.Over P) : (branch test body).code.Over P := by
  have made : test.written.Over P := by
    cases test with
    | below n | above n | atMost n =>
        exact over_append.mpr ⟨over_of_all glue (by decide), over_signedDecimal glue n⟩
  refine .block ?_ ?_ (over_of_all glue (by decide))
  · simp (disch := decide) only [over_append, over_of_all glue, made, and_self]
  · rw [codeAll_eq_map, List.forall_mem_map]
    exact inside

theorem over_once {body : List Statement} (inside : ∀ s ∈ body, s.code.Over P) :
    (once body).code.Over P := by
  refine .block (over_of_all glue (by decide)) ?_ (over_of_all glue (by decide))
  rw [codeAll_eq_map, List.forall_mem_map]
  exact inside

theorem over_call {c : NativeCall}
    (target : ∀ className, c.target = .backing className → className.Over P)
    (callee : c.callee.Over P) (passed : ∀ name ∈ c.passed, name.Over P) :
    (call c).code.Over P := by
  have given : (Text.join ", " c.given).Over P := by
    refine (Text.over_join (over_of_all glue (by decide))).mpr fun name mem => ?_
    rcases Callback.mem_given mem with rfl | mem | rfl
    · exact over_of_all glue (by decide)
    · exact passed name mem
    · exact over_of_all glue (by decide)
  have opening : c.target.opening.Over P := by
    cases receiver : c.target with
    | receiver => exact over_of_all glue (by decide)
    | backing className =>
        exact over_append.mpr ⟨target className receiver, over_of_all glue (by decide)⟩
  rw [code, Callback.written_eq]
  refine .line ?_
  cases c.kept with
  | true | false =>
      simp (disch := decide) only [over_append, over_of_all glue, given, opening, callee, and_self,
        if_true, if_false, Bool.false_eq_true]

end Statement

namespace CallMessage

variable {name : Text} (made : name.Over P)
include made

theorem over_tooFewFormat (required : Int) : (tooFewFormat name required).Over P := by
  simp (disch := decide) only [tooFewFormat, tooFewTail, over_append, over_of_all glue, made,
    over_signedDecimal glue required, and_self]

theorem over_tooManyFormat (accepted : Int) : (tooManyFormat name accepted).Over P := by
  simp (disch := decide) only [tooManyFormat, tooManyTail, over_append, over_of_all glue, made,
    over_signedDecimal glue accepted, and_self]

end CallMessage

namespace CallPlan.Over

open Statement

variable {p : CallPlan} (h : p.Over P)
include h

theorem over_guards : ∀ s ∈ p.guards, s.code.Over P := by
  have guard (test : CountTest) {format : Text} (made : format.Over P) :
      ∀ s ∈ [branch test [throwMessage format], blank], s.code.Over P := by
    rw [List.forall_mem_cons, List.forall_mem_singleton]
    refine ⟨over_branch glue test ?_, .line (List.forall_mem_nil P)⟩
    rw [List.forall_mem_singleton]
    exact over_throwMessage glue made
  rw [guards, List.forall_mem_append]
  constructor
  · split
    · exact guard _ (CallMessage.over_tooFewFormat glue h.quoted _)
    · exact List.forall_mem_nil _
  · split
    · exact guard _ (CallMessage.over_tooManyFormat glue h.quoted _)
    · exact List.forall_mem_nil _

theorem over_declaration {text : Text} (declared : p.result.declaration? = some text) :
    text.Over P := by
  cases result : p.result with
  | nothing => simp [result, CallResult.declaration?] at declared
  | promise =>
      rw [result] at declared
      obtain rfl := Option.some.inj declared
      exact over_of_all glue (by decide)
  | owned type =>
      rw [result] at declared
      obtain rfl := Option.some.inj declared
      exact over_append.mpr ⟨h.owned type result, over_of_all glue (by decide)⟩
  | converted operator =>
      rw [result] at declared
      obtain rfl := Option.some.inj declared
      simp (disch := decide) only [over_append, over_of_all glue, h.result operator result,
        and_self]

theorem over_giveBack : (giveBack p.result.value).code.Over P := by
  have value : p.result.value.Over P := by
    cases result : p.result with
    | nothing | promise | owned _ => exact over_of_all glue rfl
    | converted operator =>
        simp (disch := decide) only [CallResult.value, over_append, over_of_all glue,
          h.result operator result, and_self]
  refine .line ?_
  simp (disch := decide) only [over_append, over_of_all glue, value, and_self]

variable {className : Text} (backing : className.Over P)
include backing

theorem over_declarations : ∀ s ∈ p.declarations className, s.code.Over P := by
  have texts : ∀ t ∈ Text.ofString "ExceptionState exception_state;" ::
      p.result.declaration?.toList ++ (if p.isStatic then
          [Text.ofString "ExecutingContext* context = ExecutingContext::From(ctx);"]
        else receiverLines className), t.Over P := by
    rw [List.forall_mem_append, List.forall_mem_cons]
    refine ⟨⟨over_of_all glue (by decide), fun t mem => ?_⟩, ?_⟩
    · exact h.over_declaration glue (Option.mem_toList.mp mem)
    · split
      · exact List.forall_mem_singleton.mpr (over_of_all glue (by decide))
      · exact over_receiverLines glue backing
  rw [declarations, List.forall_mem_map]
  exact fun t mem => .line (texts t mem)

theorem over_point {point : DispatchPoint} (mem : point ∈ p.points) :
    ∀ s ∈ p.pointStatements className point, s.code.Over P := by
  have call : (call (p.nativeCall className point)).code.Over P := by
    refine over_call glue (fun name same => ?_) h.callee ?_
    · simp only [nativeCall] at same
      split at same
      · exact CallTarget.backing.inj same ▸ backing
      · cases same
    · show ∀ name ∈ point.callArguments.map localName, name.Over P
      rw [List.forall_mem_map]
      exact fun name listed => over_localName glue (h.passed point mem name listed)
  have conversions : ∀ s ∈ point.conversions.flatMap conversionStatements, s.code.Over P := by
    rw [List.forall_mem_flatMap]
    intro c listed
    rw [conversionStatements, List.forall_mem_cons, List.forall_mem_singleton]
    exact ⟨over_convert glue (over_localName glue (h.converted point mem c listed))
      (h.operators point mem c listed) c.slot, over_exceptionCheck glue⟩
  simp only [pointStatements, List.forall_mem_append]
  refine ⟨⟨conversions, ?_⟩, ?_⟩
  · split
    · exact List.forall_mem_nil _
    · exact List.forall_mem_singleton.mpr (.line (List.forall_mem_nil P))
  · split
    · exact List.forall_mem_singleton.mpr call
    · rw [List.forall_mem_singleton]
      refine over_branch glue _ ?_
      rw [List.forall_mem_cons, List.forall_mem_singleton]
      exact ⟨call, .line (over_of_all glue (by decide))⟩

theorem over_bodyCode : ∀ c ∈ p.bodyCode className, c.Over P := by
  have gap : blank.code.Over P := .line (List.forall_mem_nil P)
  have between : ∀ s ∈ [blank], s.code.Over P := List.forall_mem_singleton.mpr gap
  have chain : ∀ s ∈ [blank].intercalate (p.points.map (p.pointStatements className)),
      s.code.Over P := by
    rw [forall_mem_intercalate between, List.forall_mem_map]
    exact fun point mem => h.over_point glue backing mem
  rw [bodyCode, codeAll_eq_map, List.forall_mem_map, body]
  simp only [List.forall_mem_append, List.forall_mem_cons, List.not_mem_nil, false_imp_iff,
    implies_true, and_true]
  exact ⟨⟨h.over_guards glue, h.over_declarations glue backing⟩, gap, over_once glue chain, gap,
    over_exceptionCheck glue, h.over_giveBack glue⟩

end CallPlan.Over

theorem glue_of_fixed {q : CodePoint} (h : q.continuesName ∨ q = '<' ∨ q = '>') : P q := by
  rcases h with continues | rfl | rfl
  · exact glue q (CodePoint.isGlue_of_continuesName continues)
  · exact glue _ rfl
  · exact glue _ rfl

theorem ValueType.over_operator {t : ValueType}
    (interface : ∀ name ∈ t.interfaceName?, name.Over P) : t.operator.written.Over P :=
  Operator.forall_mem_operator (fun _ => glue_of_fixed glue) interface

namespace FunctionDecl

variable {f : FunctionDecl}

theorem over_conversionIn {a : Argument} (interface : ∀ name ∈ a.type.interfaceName?, name.Over P)
    (slot : Nat) : (f.conversionIn slot a).operator.written.Over P := by
  have plain := ValueType.over_operator glue interface
  rw [conversionIn]
  split
  · exact plain
  · exact Operator.forall_mem_optional (fun _ => glue_of_fixed glue) plain

/-- The plan of a function is made of the names of its declaration. -/
theorem over_callPlan (named : f.name.isIdentifier) (names : ∀ name ∈ f.names, name.Over P)
    {backing : Text} (instance_ : backing.Over P) (mode : CallMode) (strictArity : Bool) :
    (f.callPlan mode backing strictArity).Over P := by
  obtain ⟨name, arguments, interface⟩ := forall_mem_names_iff.mp names
  refine
    { name
      quoted := Text.over_quoted glue named
      callee := ?_
      passed := fun point mem passed listed => ?_
      converted := fun point mem c listed => ?_
      operators := fun point mem c listed => ?_
      owned := fun type result => ?_
      result := fun operator result => ?_ }
  · show f.callee.Over P
    rw [callee]
    split
    · exact over_of_all glue (by decide)
    · exact name
  · obtain ⟨-, n, callArguments⟩ := f.spec_of_mem_points mode backing strictArity mem
    rw [callArguments] at listed
    obtain ⟨a, taken, rfl⟩ := List.mem_map.mp listed
    exact (arguments a (List.mem_of_mem_take taken)).1
  · obtain ⟨slot, a, declared, rfl⟩ :=
      f.exists_of_mem_conversions mode backing strictArity mem listed
    exact (arguments a declared).1
  · obtain ⟨slot, a, declared, rfl⟩ :=
      f.exists_of_mem_conversions mode backing strictArity mem listed
    exact over_conversionIn glue (arguments a declared).2 slot
  · rcases eq_backing_or_of_callResult result with rfl | owned
    · exact instance_
    · exact interface type (by rw [owned]; rfl)
  · rw [eq_operator_of_callResult result]
    exact ValueType.over_operator glue interface

end FunctionDecl

end

end ScriptBinding
