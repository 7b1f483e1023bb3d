import ScriptBinding.Proofs.Assembly.AnyOperators
import ScriptBinding.Proofs.Unit.FileLines

/-!
What strict arity changes. The lines of the source file are compared one by one: each call has one
guard more, in front of its exception state, and no other line is touched. A call ends as without
the guard, unless it is given too many arguments.
-/
namespace ScriptBinding

/-- The lines of text that code is written as. What is written in one line is more than one if there
is a line feed in it. -/
def Code.textLines (depth : Int) (code : List Code) : List Text :=
  (allLinesAt glueIndent depth code).flatMap Text.lines

namespace Code

variable (depth : Int)

theorem textLines_append (code others : List Code) :
    textLines depth (code ++ others) = textLines depth code ++ textLines depth others := by
  rw [textLines, allLinesAt_append, List.flatMap_append, textLines, textLines]

theorem textLines_flatMap {α : Type} (items : List α) (code : α → List Code) :
    textLines depth (items.flatMap code) = items.flatMap fun a => textLines depth (code a) := by
  induction items with
  | nil => rfl
  | cons a rest ih => rw [List.flatMap_cons, textLines_append, ih, List.flatMap_cons]

theorem textLines_block (opening closing : Text) (body : List Code) :
    textLines 0 [.block opening body closing] =
      opening.lines ++ (textLines 1 body ++ closing.lines) := by
  simp [textLines, allLinesAt, linesAt, indentedLine_zero]

end Code

theorem ModulePlan.lines_source (p : ModulePlan) :
    p.source.lines = Code.textLines 0 p.sourceCode ++ [[]] := by
  rw [p.source_eq_join, Code.textLines, ← Emitter.toList_lines_hold]
  exact Text.lines_join p.sourceLines_ne_nil

/-- A guard on the number of arguments in the body of a call, and the empty line behind it. -/
def guardLines (condition message : Text) : List Text :=
  ["  if (" ++ condition ++ ") \x7b",
    "    return JS_ThrowTypeError(ctx, \"" ++ message ++ "\", argc);",
    "  \x7d",
    []]

def exceptionStateLine : Text := "  ExceptionState exception_state;"

namespace FunctionDecl

/-- The guard against too few arguments, where some are required. -/
def tooFewLines (f : FunctionDecl) : List Text :=
  if 0 < f.requiredCount then
    guardLines ("argc < " ++ Text.decimal f.requiredCount)
      (CallMessage.tooFewFormat f.name.quoted f.requiredCount)
  else []

/-- The guard against more arguments than are declared. -/
def tooManyLines (f : FunctionDecl) : List Text :=
  guardLines ("argc > " ++ Text.decimal f.arguments.length)
    (CallMessage.tooManyFormat f.name.quoted f.arguments.length)

end FunctionDecl

theorem ne_feed_of_isGlue : ∀ p : CodePoint, p.isGlue → p ≠ .scalar '\n' :=
  CodePoint.ne_of_kind rfl

theorem textLines_guard (test : CountTest) {format : Text}
    (message : format.Over (· ≠ .scalar '\n')) :
    Code.textLines 1 (Statement.codeAll [.branch test [.throwMessage format], .blank]) =
      guardLines test.written format := by
  have plain : ∀ c ∈ Statement.codeAll [.branch test [.throwMessage format], .blank],
      c.Over (· ≠ .scalar '\n') := by
    rw [Statement.codeAll_eq_map, List.forall_mem_map, List.forall_mem_cons,
      List.forall_mem_singleton]
    exact ⟨Statement.over_branch ne_feed_of_isGlue test (List.forall_mem_singleton.mpr
      (Statement.over_throwMessage ne_feed_of_isGlue message)), .line (List.forall_mem_nil _)⟩
  rw [Code.textLines, Text.flatMap_lines_eq_iff.mpr]
  · rfl
  · intro t mem
    exact Text.over_ne.mp (Code.over_allLinesAt (by decide) plain 1 t mem)

namespace CallPlan

variable (p : CallPlan) (className : Text)

/-- The statements of a body behind the declaration of its exception state. -/
def behindState : List Statement := (p.body className).drop (p.guards.length + 1)

theorem behindState_eq_tail :
    p.behindState className = (p.declarations className).tail ++
      [.blank,
        .once ([Statement.blank].intercalate (p.points.map (p.pointStatements className))),
        .blank, .returnOnException, .giveBack p.result.value] := by
  rw [behindState, body, List.append_assoc, List.drop_length_add_append]
  rfl

theorem body_eq_append :
    p.body className =
      p.guards ++ .declare "ExceptionState exception_state;" :: p.behindState className := by
  rw [behindState_eq_tail, body, List.append_assoc]
  rfl

end CallPlan

namespace FunctionDecl

variable (f : FunctionDecl) (mode : CallMode) (backing className : Text)

theorem behindState_callPlan (strictArity : Bool) :
    (f.callPlan mode backing strictArity).behindState className =
      (f.callPlan mode backing false).behindState className := by
  rw [CallPlan.behindState_eq_tail, CallPlan.behindState_eq_tail]
  rfl

variable {f} (formed : f.WellFormed)
include formed

theorem textLines_guards (strictArity : Bool) :
    Code.textLines 1 (Statement.codeAll (f.callPlan mode backing strictArity).guards) =
      f.tooFewLines ++ if strictArity then f.tooManyLines else [] := by
  have named : f.name.quoted.Over (· ≠ .scalar '\n') :=
    Text.over_quoted ne_feed_of_isGlue formed.name
  have guarded : 0 < (f.callPlan mode backing strictArity).required ↔ 0 < f.requiredCount :=
    Int.natCast_pos
  rw [CallPlan.guards, Statement.codeAll_append, Code.textLines_append]
  congr 1
  · by_cases some : 0 < f.requiredCount
    · rw [tooFewLines, if_pos some, if_pos (guarded.mpr some)]
      exact textLines_guard (.below f.requiredCount)
        (CallMessage.over_tooFewFormat ne_feed_of_isGlue named f.requiredCount)
    · rw [tooFewLines, if_neg some, if_neg (mt guarded.mp some)]
      rfl
  · cases strictArity with
    | false => rfl
    | true =>
        exact textLines_guard (.above f.arguments.length)
          (CallMessage.over_tooManyFormat ne_feed_of_isGlue named f.arguments.length)

/-- Only the guard against too many arguments depends on the strictness. -/
theorem exists_textLines_body : ∃ behind, ∀ strictArity,
    Code.textLines 1 ((f.callPlan mode backing strictArity).bodyCode className) =
      f.tooFewLines ++ (if strictArity then f.tooManyLines else []) ++
        exceptionStateLine :: behind := by
  refine ⟨Code.textLines 1
    (Statement.codeAll ((f.callPlan mode backing false).behindState className)), ?_⟩
  intro strictArity
  rw [CallPlan.bodyCode, CallPlan.body_eq_append, Statement.codeAll_append, Code.textLines_append,
    textLines_guards mode backing formed, behindState_callPlan]
  rfl

end FunctionDecl

/-- The callbacks of the properties of a class. -/
def ClassDecl.accessorCode (c : ClassDecl) (backing : Text) : List Code :=
  let accessors := c.properties.map PropertyDecl.accessor
  accessors.map (·.getterCode backing) ++
    accessors.filterMap fun a => a.setter?.map (a.setterCode backing)

namespace Module

/-- The line that begins the function of a call. -/
def callOpening (m : Module) : CallMode × FunctionDecl → Text
  | (.constructor, _) =>
    "JSValue QJS" ++ m.backing ++ "::ConstructorCallback(" ++ constructorParameters ++ ") \x7b"
  | (.function, f) | (.method, f) =>
    "static JSValue " ++ f.name ++ "(" ++ callbackParameters ++ ") \x7b"

/-- Lines that agree but for one guard against too many arguments for each of some calls, in this
order. The guard stands where the function of its call begins, behind the guard against too few
arguments if there is one, and directly before the exception state. -/
inductive Guarded (m : Module) :
    List (CallMode × FunctionDecl) → List Text → List Text → Prop where
  | same (lines : List Text) : Guarded m [] lines lines
  | body {call : CallMode × FunctionDecl} {calls : List (CallMode × FunctionDecl)}
      {behind behind' : List Text} (ahead : List Text) (later : Guarded m calls behind behind') :
      Guarded m (call :: calls)
        (ahead ++ (m.callOpening call).lines ++ call.2.tooFewLines ++
          exceptionStateLine :: behind)
        (ahead ++ (m.callOpening call).lines ++ call.2.tooFewLines ++ call.2.tooManyLines ++
          exceptionStateLine :: behind')

namespace Guarded

variable {m : Module} {calls others : List (CallMode × FunctionDecl)}
  {lines lines' more more' : List Text}

theorem ahead (first : List Text) (h : m.Guarded calls lines lines') :
    m.Guarded calls (first ++ lines) (first ++ lines') := by
  cases h with
  | same lines => exact .same (first ++ lines)
  | body ahead later =>
      simp only [← List.append_assoc]
      exact .body (first ++ ahead) later

theorem append (h : m.Guarded calls lines lines') (h' : m.Guarded others more more') :
    m.Guarded (calls ++ others) (lines ++ more) (lines' ++ more') := by
  induction h with
  | same lines => exact h'.ahead lines
  | body ahead later ih =>
      rw [List.append_assoc _ (_ :: _), List.append_assoc _ (_ :: _)]
      exact .body ahead ih

theorem behind (h : m.Guarded calls lines lines') (last : List Text) :
    m.Guarded calls (lines ++ last) (lines' ++ last) := by
  have whole := h.append (.same last)
  rwa [List.append_nil] at whole

theorem flatMap {α : Type} {items : List α} {calls : α → List (CallMode × FunctionDecl)}
    {lines lines' : α → List Text} (each : ∀ a ∈ items, m.Guarded (calls a) (lines a) (lines' a)) :
    m.Guarded (items.flatMap calls) (items.flatMap lines) (items.flatMap lines') := by
  induction items with
  | nil => exact .same []
  | cons a rest ih =>
      obtain ⟨first, others⟩ := List.forall_mem_cons.mp each
      exact first.append (ih others)

end Guarded

/-- The function of a call in the source file, and the empty line behind it. -/
def callCode (m : Module) (call : CallMode × FunctionDecl) (strictArity : Bool) : List Code :=
  Code.spaced [.block (m.callOpening call)
    ((call.2.callPlan call.1 m.backing strictArity).bodyCode m.backing) "\x7d"]

variable {m : Module}

theorem guarded_call {call : CallMode × FunctionDecl} (formed : call.2.WellFormed) :
    m.Guarded [call] (Code.textLines 0 (m.callCode call false))
      (Code.textLines 0 (m.callCode call true)) := by
  obtain ⟨behind, body⟩ :=
    FunctionDecl.exists_textLines_body call.1 m.backing m.backing formed
  have lines (strictArity : Bool) : Code.textLines 0 (m.callCode call strictArity) =
      (m.callOpening call).lines ++ call.2.tooFewLines ++
        (if strictArity then call.2.tooManyLines else []) ++
          exceptionStateLine :: (behind ++ (Text.lines "\x7d" ++ Code.textLines 0 [.blank])) := by
    show Code.textLines 0 ([_] ++ [.blank]) = _
    rw [Code.textLines_append, Code.textLines_block, body]
    simp only [List.append_assoc, List.cons_append]
  rw [lines, lines]
  simpa using @Guarded.body m call [] _ _ [] (.same _)

/-- A class is written as its calls, with the accessors behind the constructor. -/
theorem textLines_class (options : Options) (c : ClassDecl) (strictArity : Bool) :
    Code.textLines 0 (Code.spaced
        ((m.planned options).memberCode (.cls (c.plan m.backing strictArity)))) =
      Code.textLines 0 (m.callCode (.constructor, c.constructor) strictArity) ++
        (Code.textLines 0 (Code.spaced (c.accessorCode m.backing)) ++
          c.methods.flatMap fun f =>
            Code.textLines 0 (m.callCode (.method, f) strictArity)) := by
  have methods : Code.spaced ((c.plan m.backing strictArity).methods.map
        (·.callbackCode m.backing)) =
      c.methods.flatMap fun f => m.callCode (.method, f) strictArity := by
    rw [ClassDecl.plan, List.map_map, Code.spaced, List.flatMap_map]
    rfl
  rw [← Code.textLines_flatMap, ← Code.textLines_append, ← Code.textLines_append, ← methods]
  congr 1
  rw [ModulePlan.memberCode, Code.spaced, List.flatMap_cons, List.flatMap_append]
  rfl

theorem guarded_member (options : Options) {member : Member}
    (formed : ∀ call ∈ member.calls, call.2.WellFormed) :
    m.Guarded member.calls
      (Code.textLines 0 (Code.spaced
        ((m.planned options).memberCode (member.plan m.backing false))))
      (Code.textLines 0 (Code.spaced
        ((m.planned options).memberCode (member.plan m.backing true)))) := by
  cases member with
  | function f => exact @guarded_call m (.function, f) (formed _ List.mem_cons_self)
  | cls c =>
      obtain ⟨constructor, methods⟩ := List.forall_mem_cons.mp formed
      rw [List.forall_mem_map] at methods
      rw [Member.plan, Member.plan, textLines_class, textLines_class, Member.calls,
        List.map_eq_flatMap]
      refine (guarded_call constructor).append ((Guarded.flatMap fun f mem => ?_).ahead _)
      exact guarded_call (methods f mem)

/-- What stands above and below the members is the same under either strictness: there the plans are
only asked whether they have a class. -/
theorem guarded_source (h : m.WellFormed) (options : Options) :
    m.Guarded m.calls
      (m.planned { options with strictArity := false }).source.lines
      (m.planned { options with strictArity := true }).source.lines := by
  have members : m.Guarded m.calls
      (m.members.flatMap fun member => Code.textLines 0 (Code.spaced
        ((m.planned options).memberCode (member.plan m.backing false))))
      (m.members.flatMap fun member => Code.textLines 0 (Code.spaced
        ((m.planned options).memberCode (member.plan m.backing true)))) :=
    .flatMap fun member mem => guarded_member options fun call listed =>
      h.of_mem_calls (List.mem_flatMap.mpr ⟨member, mem, listed⟩)
  have spaced (strictArity : Bool) :
      Code.textLines 0 (Code.spaced ((m.members.map (Member.plan m.backing strictArity)).flatMap
        (m.planned options).memberCode)) =
      m.members.flatMap fun member => Code.textLines 0 (Code.spaced
        ((m.planned options).memberCode (member.plan m.backing strictArity))) := by
    rw [List.flatMap_map, Code.spaced, List.flatMap_assoc, Code.textLines_flatMap]
    rfl
  rw [← spaced, ← spaced] at members
  simp only [ModulePlan.lines_source, ModulePlan.sourceCode, Code.textLines_append,
    classPlan?_planned, Option.isSome_map]
  exact (((members.ahead _).behind _).behind _).behind [[]]

end Module

namespace CallPlan

/-- The points of a plan are run without a look at its strictness. -/
theorem runPoints_eq {p q : CallPlan} (name : p.name = q.name) (callee : p.callee = q.callee)
    {α β : Type} (values : List α) (convert : Conversion → α → Except Unconvertible β)
    (before : List β) (points : List DispatchPoint) :
    p.runPoints values convert before points = q.runPoints values convert before points := by
  induction points generalizing before with
  | nil => rw [runPoints, runPoints, name]
  | cons point rest ih => simp only [runPoints, callee, ih]

end CallPlan

namespace FunctionDecl

/-- What strict arity changes in a call, whatever it is given and whatever the converter: with too
many arguments it fails before anything is converted, and else it ends as it does without. -/
def OnlyRestricted (f : FunctionDecl) (lenient strict : CallPlan) : Prop :=
  ∀ ⦃α β : Type⦄ (values : List α) (convert : Conversion → α → Except Unconvertible β),
    let given := values.length
    let declared := f.arguments.length
    let excess := CallFailure.tooMany f.name f.requiredCount given declared
    (given ≤ declared ∨ given < f.requiredCount →
      strict.trace values convert = lenient.trace values convert) ∧
    (declared < given → f.requiredCount ≤ given →
      strict.trace values convert = .failed [] excess ∧
      excess.message = .ok (CallMessage.opening ++ f.name ++ CallMessage.tooManyTail declared ++
        Text.decimal given ++ CallMessage.closing))

theorem onlyRestricted_callPlan {f : FunctionDecl} (formed : f.WellFormed) (mode : CallMode)
    (backing : Text) :
    f.OnlyRestricted (f.callPlan mode backing false) (f.callPlan mode backing true) := by
  intro α β values convert given declared excess
  have plain : .scalar '%' ∉ f.name := Text.not_mem_of_isIdentifier formed.name (by decide)
  constructor
  · intro window
    have points := CallPlan.runPoints_eq (p := f.callPlan mode backing true)
      (q := f.callPlan mode backing false) rfl rfl values convert []
    rw [trace_eq_ite, trace_eq_ite]
    by_cases few : values.length < f.requiredCount
    · rw [if_pos few, if_pos few]
    · have accepted := window.resolve_right few
      rw [if_neg few, if_neg few, if_neg fun many => Nat.not_lt.mpr accepted many.2,
        if_neg (by simp)]
      exact points _
  · intro many enough
    exact (f.trace_callPlan mode backing true values convert plain).2.1 enough rfl many

end FunctionDecl

namespace Module

/-- Strict arity only adds a guard: the header stays as it is, the source file has one guard more
for each call and no other line, and a call ends differently only if it is given more arguments than
are declared and no fewer than are required. -/
theorem strict_only_guards {m : Module} (valid : m.isValid) (options : Options) :
    ∃ lenient strict,
      m.plan { options with strictArity := false } = .ok lenient ∧
      m.plan { options with strictArity := true } = .ok strict ∧
      strict.header = lenient.header ∧
      m.Guarded m.calls lenient.source.lines strict.source.lines ∧
      (lenient.calls = m.calls.map fun call => call.2.callPlan call.1 m.backing false) ∧
      (strict.calls = m.calls.map fun call => call.2.callPlan call.1 m.backing true) ∧
      ∀ call ∈ m.calls, call.2.OnlyRestricted (call.2.callPlan call.1 m.backing false)
        (call.2.callPlan call.1 m.backing true) := by
  have formed := wellFormed_of_isValid valid
  refine ⟨_, _, plan_eq_ok valid _, plan_eq_ok valid _, rfl, guarded_source formed options,
    calls_planned _, calls_planned _, fun call mem => ?_⟩
  exact FunctionDecl.onlyRestricted_callPlan (formed.of_mem_calls mem) call.1 m.backing

/-- All three calls of the unit are guarded, and one that takes two arguments is not given three. -/
theorem strict_only_guards_page :
    let opened : FunctionDecl := ⟨"open",
      [⟨"url", .primitive .string, true⟩, ⟨"depth", .primitive .int32, false⟩], .primitive .void⟩
    page.isValid ∧ ∃ lenient strict,
      page.plan { Options.standard with strictArity := false } = .ok lenient ∧
      page.plan { Options.standard with strictArity := true } = .ok strict ∧
      strict.header = lenient.header ∧
      page.Guarded page.calls lenient.source.lines strict.source.lines ∧
      page.calls.map (·.2.name) = [("open" : Text), "constructor", "close"] ∧
      (CallMode.function, opened) ∈ page.calls ∧
      (opened.callPlan .function "Page" true).trace [1, 2, 3] FunctionDecl.takeNatural =
        .failed [] (.tooMany "open" 1 3 2) ∧
      (opened.callPlan .function "Page" true).trace [1, 2] FunctionDecl.takeNatural =
        (opened.callPlan .function "Page" false).trace [1, 2] FunctionDecl.takeNatural := by
  intro opened
  have listed : (CallMode.function, opened) ∈ page.calls := List.mem_cons_self
  obtain ⟨lenient, strict, planned, planned', header, guarded, -, -, calls⟩ :=
    strict_only_guards isValid_page .standard
  have restricted := calls _ listed
  exact ⟨isValid_page, lenient, strict, planned, planned', header, guarded, rfl, listed,
    ((restricted [1, 2, 3] FunctionDecl.takeNatural).2 (by decide) (by decide)).1,
    (restricted [1, 2] FunctionDecl.takeNatural).1 (.inl (by decide))⟩

end Module

end ScriptBinding
