import ScriptBinding.Proofs.Callback.Plan
import ScriptBinding.Proofs.Layout.Nesting

/-!
The body of a callback is indented by its braces. Every form of statement is, as long as the texts
it is written with bring no brackets.
-/
namespace ScriptBinding

open Text (brackets_append)

/-- A plan that can be read, with a word for its name and without brackets in its operators. -/
structure CallPlan.Bracketless (p : CallPlan) : Prop where
  spelled : p.Spelled
  name : p.name.isWord
  operators : ∀ point ∈ p.points, ∀ c ∈ point.conversions, c.operator.written.brackets = []
  result : ∀ operator, p.result = .converted operator → operator.written.brackets = []

namespace Text

theorem isFlush_append {t : Text} (h : t.isWord) (rest : Text) : (t ++ rest).isFlush := by
  have space := not_mem_of_isWord h (p := .scalar ' ') (by decide)
  have brace := not_mem_of_isWord h (p := .scalar '\x7d') (by decide)
  cases t with
  | nil => exact absurd h (by decide)
  | cons p t =>
      have first : p ≠ .scalar ' ' ∧ p ≠ .scalar '\x7d' :=
        ⟨fun same => space (same ▸ List.mem_cons_self), fun same => brace (same ▸ List.mem_cons_self)⟩
      simp [isFlush, beginsWith, first]

theorem brackets_operator {o : Operator} (h : ∀ q ∈ o.written, q.isTemplatePart) :
    o.written.brackets = [] :=
  brackets_eq_nil h (by decide)

end Text

open Text (brackets_of_isWord brackets_signedDecimal)

namespace Statement

theorem isBraced_exceptionCheck : exceptionCheck.IsBraced := by
  refine .block rfl rfl ?_ rfl rfl
  rw [List.forall_mem_singleton]
  exact .line rfl rfl

theorem isBraced_throwLine {format : Text} (bare : format.brackets = []) :
    (throwMessage format).code.IsBraced := by
  refine Code.isBraced_line rfl ?_
  simp only [throwLine, brackets_append, bare]
  decide

theorem isBraced_convert {localName : Text} {operator : Operator} (bare : localName.brackets = [])
    (bare' : operator.written.brackets = []) (slot : Int) :
    (convert localName operator slot).code.IsBraced := by
  refine Code.isBraced_line rfl ?_
  simp only [convertLine, brackets_append, bare, bare', brackets_signedDecimal]
  decide

theorem isBraced_branch (test : CountTest) {body : List Statement}
    (inside : ∀ s ∈ body, s.code.IsBraced) : (branch test body).code.IsBraced := by
  have bare : test.written.brackets = [] := by
    cases test with
    | below n | above n | atMost n =>
        exact (brackets_append _ _).trans (brackets_signedDecimal n)
  refine .block rfl ?_ ?_ rfl rfl
  · rw [← Text.unclosed?_brackets]
    simp only [brackets_append, bare]
    decide
  · rw [codeAll_eq_map, List.forall_mem_map]
    exact inside

theorem isBraced_once {body : List Statement} (inside : ∀ s ∈ body, s.code.IsBraced) :
    (once body).code.IsBraced := by
  refine .block rfl (by decide) ?_ rfl (by decide)
  rw [codeAll_eq_map, List.forall_mem_map]
  exact inside

theorem isBraced_call {c : NativeCall} (target : c.target.Spelled) (callee : c.callee.isWord)
    (passed : ∀ name ∈ c.passed, name.isWord) : (call c).code.IsBraced := by
  have given : (Text.join ", " c.given).brackets = [] :=
    Text.brackets_join rfl fun name mem =>
      brackets_of_isWord (Callback.isWord_of_mem_given passed name mem)
  have opening : c.target.opening.brackets = [] ∧ ∀ rest, (c.target.opening ++ rest).isFlush := by
    cases receiver : c.target with
    | receiver => exact ⟨rfl, fun _ => rfl⟩
    | backing className =>
        rw [receiver] at target
        refine ⟨?_, fun rest => ?_⟩
        · rw [CallTarget.opening, brackets_append, brackets_of_isWord target]
          rfl
        · rw [CallTarget.opening, List.append_assoc]
          exact Text.isFlush_append target _
  rw [code, Callback.written_eq]
  refine Code.isBraced_line ?_ ?_
  · cases c.kept with
    | false => exact opening.2 _
    | true => rfl
  · simp only [brackets_append, given, opening.1, brackets_of_isWord callee]
    cases c.kept <;> decide

end Statement

theorem isBraced_receiverLines {className : Text} (word : className.isWord) :
    ∀ t ∈ receiverLines className, (Code.line t).IsBraced := by
  rw [receiverLines, List.forall_mem_cons, List.forall_mem_singleton]
  refine ⟨Code.isBraced_line rfl ?_, .line rfl (by decide)⟩
  simp only [brackets_append, brackets_of_isWord word]
  decide

namespace CallMessage

variable {name : Text} (bare : name.brackets = [])
include bare

theorem brackets_tooFewFormat (required : Int) : (tooFewFormat name required).brackets = [] := by
  simp only [tooFewFormat, tooFewTail, brackets_append, bare, brackets_signedDecimal]
  decide

theorem brackets_tooManyFormat (accepted : Int) : (tooManyFormat name accepted).brackets = [] := by
  simp only [tooManyFormat, tooManyTail, brackets_append, bare, brackets_signedDecimal]
  decide

end CallMessage

namespace CallPlan.Bracketless

open Statement

variable {p : CallPlan} (h : p.Bracketless)
include h

theorem isBraced_guards : ∀ s ∈ p.guards, s.code.IsBraced := by
  have bare : p.name.quoted.brackets = [] := by
    rw [Text.brackets_quoted, brackets_of_isWord h.name]
  have guard (test : CountTest) {format : Text} (plain : format.brackets = []) :
      ∀ s ∈ [branch test [throwMessage format], blank], s.code.IsBraced := by
    rw [List.forall_mem_cons, List.forall_mem_singleton]
    refine ⟨isBraced_branch test ?_, .line rfl rfl⟩
    rw [List.forall_mem_singleton]
    exact isBraced_throwLine plain
  rw [guards, List.forall_mem_append]
  constructor
  · split
    · exact guard _ (CallMessage.brackets_tooFewFormat bare _)
    · exact List.forall_mem_nil _
  · split
    · exact guard _ (CallMessage.brackets_tooManyFormat bare _)
    · exact List.forall_mem_nil _

theorem isBraced_declaration {text : Text} (declared : p.result.declaration? = some text) :
    (Code.line text).IsBraced := by
  have spelled := h.spelled.result
  cases result : p.result with
  | nothing => simp [result, CallResult.declaration?] at declared
  | promise =>
      rw [result] at declared
      obtain rfl := Option.some.inj declared
      exact .line rfl (by decide)
  | owned type =>
      rw [result] at declared spelled
      obtain rfl := Option.some.inj declared
      refine Code.isBraced_line (Text.isFlush_append spelled _) ?_
      simp only [brackets_append, brackets_of_isWord spelled]
      decide
  | converted operator =>
      rw [result] at declared
      obtain rfl := Option.some.inj declared
      refine Code.isBraced_line rfl ?_
      simp only [brackets_append, h.result operator result]
      decide

theorem isBraced_giveBack : (giveBack p.result.value).code.IsBraced := by
  cases result : p.result with
  | nothing | promise | owned _ => exact .line rfl rfl
  | converted operator =>
      refine Code.isBraced_line rfl ?_
      simp only [CallResult.value, brackets_append, h.result operator result]
      decide

variable {className : Text} (word : className.isWord)
include word

theorem isBraced_declarations : ∀ s ∈ p.declarations className, s.code.IsBraced := by
  have result : ∀ t ∈ p.result.declaration?.toList, (Code.line t).IsBraced := by
    intro t mem
    exact h.isBraced_declaration (Option.mem_toList.mp mem)
  have target : ∀ t ∈ (if p.isStatic then
        [Text.ofString "ExecutingContext* context = ExecutingContext::From(ctx);"]
      else receiverLines className), (Code.line t).IsBraced := by
    split
    · rw [List.forall_mem_singleton]
      exact .line rfl (by decide)
    · exact isBraced_receiverLines word
  rw [declarations, List.forall_mem_map]
  simp only [List.cons_append, List.forall_mem_cons, List.forall_mem_append]
  exact ⟨.line rfl rfl, result, target⟩

theorem isBraced_point {point : DispatchPoint} (mem : point ∈ p.points) :
    ∀ s ∈ p.pointStatements className point, s.code.IsBraced := by
  obtain ⟨target, passed⟩ := Callback.spelled_nativeCall h.spelled word mem
  have call := isBraced_call target h.spelled.callee passed
  have conversions : ∀ s ∈ point.conversions.flatMap conversionStatements, s.code.IsBraced := by
    rw [List.forall_mem_flatMap]
    intro c listed
    have name := Callback.isWord_localName (h.spelled.converted point mem c listed)
    rw [conversionStatements, List.forall_mem_cons, List.forall_mem_singleton]
    exact ⟨isBraced_convert (brackets_of_isWord name) (h.operators point mem c listed) c.slot,
      isBraced_exceptionCheck⟩
  simp only [pointStatements, List.forall_mem_append]
  refine ⟨⟨conversions, ?_⟩, ?_⟩
  · split
    · exact List.forall_mem_nil _
    · exact List.forall_mem_singleton.mpr (.line rfl rfl)
  · split
    · exact List.forall_mem_singleton.mpr call
    · rw [List.forall_mem_singleton]
      refine isBraced_branch _ ?_
      rw [List.forall_mem_cons, List.forall_mem_singleton]
      exact ⟨call, .line rfl rfl⟩

theorem isBraced_bodyCode : ∀ c ∈ p.bodyCode className, c.IsBraced := by
  have chain : ∀ s ∈ [blank].intercalate (p.points.map (p.pointStatements className)),
      s.code.IsBraced :=
    (forall_mem_intercalate (List.forall_mem_singleton.mpr (.line rfl rfl))).mpr
      (List.forall_mem_map.mpr fun point mem => h.isBraced_point word mem)
  rw [bodyCode, codeAll_eq_map, List.forall_mem_map, body]
  simp only [List.forall_mem_append, List.forall_mem_cons, List.not_mem_nil, false_imp_iff,
    implies_true, and_true]
  exact ⟨⟨h.isBraced_guards, h.isBraced_declarations word⟩, .line rfl rfl, isBraced_once chain,
    .line rfl rfl, isBraced_exceptionCheck, h.isBraced_giveBack⟩

end CallPlan.Bracketless

end ScriptBinding
