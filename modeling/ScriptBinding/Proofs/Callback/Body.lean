import ScriptBinding.Proofs.Call.Format
import ScriptBinding.Proofs.Callback.Forms
import ScriptBinding.Proofs.Layout.Routines

/-!
The instructions of a call plan, and that the lines of its body are read as these. Statements are
read at any depth and behind any other lines, so that the pieces of a body are read one by one.
-/
namespace ScriptBinding

/-- A plan whose names, operators and numbers can be read. -/
structure CallPlan.Spelled (p : CallPlan) : Prop where
  callee : p.callee.isWord
  required : 0 ≤ p.required
  accepted : 0 ≤ p.accepted
  arities : ∀ point ∈ p.points, 0 ≤ point.arity
  passed : ∀ point ∈ p.points, ∀ name ∈ point.callArguments, name.isWord
  converted : ∀ point ∈ p.points, ∀ c ∈ point.conversions, c.argument.name.isWord
  operators : ∀ point ∈ p.points, ∀ c ∈ point.conversions, .scalar ':' ∉ c.operator.written
  slots : ∀ point ∈ p.points, ∀ c ∈ point.conversions, 0 ≤ c.slot
  result : p.result.Spelled

namespace Callback

/-- The check behind every conversion, and behind the chain. -/
def checkInstruction : Instruction := .branch .raised [.returnException]

def conversionInstructions (c : Conversion) : List Instruction :=
  [.convert c.localName c.operator.written c.slot.toNat, checkInstruction]

section
variable (p : CallPlan) (className : Text)

def guardInstructions : List Instruction :=
  let guard (test : CountTest) (format : Text) : Instruction :=
    .branch (.count test) [.throwMessage format]
  (if 0 < p.required then
    [guard (.below p.required) (CallMessage.tooFewFormat p.name p.required)] else []) ++
  (if p.strictArity then
    [guard (.above p.accepted) (CallMessage.tooManyFormat p.name p.accepted)] else [])

def declarationInstructions : List Instruction :=
  let result : List Instruction :=
    (p.result.declaration?.map fun _ => .declare "return_value").toList
  [.declare "exception_state"] ++ result ++
    if p.isStatic then [.declare "context"] else [.declare "self", .insist "self"]

def endingInstructions (point : DispatchPoint) : List Instruction :=
  let call : Instruction := .call (p.nativeCall className point)
  if point.catchAll then [call] else [.branch (.count (.atMost point.arity)) [call, .leave]]

def pointInstructions (point : DispatchPoint) : List Instruction :=
  point.conversions.flatMap conversionInstructions ++ endingInstructions p className point

def closingInstructions (chain : List Instruction) : List Instruction :=
  [.once chain, checkInstruction, .giveBack p.result.value]

def bodyInstructions : List Instruction :=
  guardInstructions p ++ declarationInstructions p ++
    closingInstructions p (p.points.flatMap (pointInstructions p className))

end

/-- Statements that are read as instructions, wherever they stand. -/
def ReadsAs (body : List Statement) (is : List Instruction) : Prop :=
  ∀ (depth : Int) (r : Reading),
    r.lines? (Code.allLinesAt glueIndent depth (Statement.codeAll body)) = some (r.add is)

theorem Reading.lines?_append (r : Reading) (ts us : List Text) :
    r.lines? (ts ++ us) = (r.lines? ts).bind (·.lines? us) := by
  induction ts generalizing r with
  | nil => rfl
  | cons t rest ih =>
      simp only [List.cons_append, Reading.lines?]
      cases line? t with
      | none => rfl
      | some line =>
          cases next : r.next? line with
          | none => simp [next]
          | some after => simp [next, ih]

theorem Reading.lines?_line {r : Reading} {depth : Int} {text : Text} {line : Line}
    (h : line? text = some line) (rest : List Text) :
    r.lines? (indentedLine glueIndent depth text :: rest) =
      (r.next? line).bind (·.lines? rest) := by
  rw [Reading.lines?, line?_indentedLine, h]
  rfl

namespace ReadsAs

theorem nil : ReadsAs [] [] := by
  intro depth r
  simp [Statement.codeAll, Code.allLinesAt, Reading.lines?, Reading.add]

theorem append {body others : List Statement} {is js : List Instruction} (h : ReadsAs body is)
    (h' : ReadsAs others js) : ReadsAs (body ++ others) (is ++ js) := by
  intro depth r
  rw [Statement.codeAll_append, Code.allLinesAt_append, Reading.lines?_append, h, Option.bind_some,
    h']
  simp [Reading.add]

theorem cons {s : Statement} {rest : List Statement} {is js : List Instruction}
    (h : ReadsAs [s] is) (h' : ReadsAs rest js) : ReadsAs (s :: rest) (is ++ js) :=
  h.append h'

theorem line {s : Statement} {text : Text} {i : Instruction} (code : s.code = .line text)
    (h : line? text = some (.instruction i)) : ReadsAs [s] [i] := by
  intro depth r
  simp only [Statement.codeAll, code, Code.allLinesAt, Code.linesAt, List.append_nil]
  exact Reading.lines?_line h []

theorem blank : ReadsAs [.blank] [] := by
  intro depth r
  simp only [Statement.codeAll, Statement.code, Code.blank, Code.allLinesAt, Code.linesAt,
    List.append_nil]
  rw [Reading.lines?_line rfl]
  simp [Reading.next?, Reading.lines?, Reading.add]

/-- A block reads as what its opening line begins, around what its body reads as. -/
theorem block {s : Statement} {opening closing : Text} {body : List Statement}
    {is : List Instruction} {i : Instruction} {first last : Line} {kind : Opening}
    (code : s.code = .block opening (Statement.codeAll body) closing)
    (opens : line? opening = some first) (closes : line? closing = some last)
    (enters : ∀ r : Reading, r.next? first = some (r.enter kind))
    (leaves : ∀ r : Reading, ((r.enter kind).add is).next? last = some (r.add [i]))
    (h : ReadsAs body is) : ReadsAs [s] [i] := by
  intro depth r
  simp only [Statement.codeAll, code, Code.allLinesAt, Code.linesAt, List.append_nil]
  rw [Reading.lines?_line opens, enters, Option.bind_some, Reading.lines?_append, h,
    Option.bind_some, Reading.lines?_line closes, leaves]
  rfl

theorem branch {test : CountTest} (natural : 0 ≤ test.bound) {body : List Statement}
    {is : List Instruction} (h : ReadsAs body is) :
    ReadsAs [.branch test body] [.branch (.count test) is] := by
  apply block rfl (line?_question natural) rfl
  · intro r
    rfl
  · intro r
    rfl
  · exact h

theorem once {body : List Statement} {is : List Instruction} (h : ReadsAs body is) :
    ReadsAs [.once body] [.once is] := by
  apply block rfl rfl rfl
  · intro r
    rfl
  · intro r
    rfl
  · exact h

theorem flatMap {α : Type} {items : List α} {f : α → List Statement} {g : α → List Instruction}
    (h : ∀ a ∈ items, ReadsAs (f a) (g a)) : ReadsAs (items.flatMap f) (items.flatMap g) := by
  induction items with
  | nil => exact nil
  | cons a rest ih =>
      obtain ⟨first, others⟩ := List.forall_mem_cons.mp h
      exact first.append (ih others)

/-- Empty lines between statements are not read as anything. -/
theorem intercalate {α : Type} {items : List α} {f : α → List Statement}
    {g : α → List Instruction} (h : ∀ a ∈ items, ReadsAs (f a) (g a)) :
    ReadsAs ([Statement.blank].intercalate (items.map f)) (items.flatMap g) := by
  induction items with
  | nil => exact nil
  | cons a rest ih =>
      obtain ⟨first, others⟩ := List.forall_mem_cons.mp h
      cases rest with
      | nil => simpa using first
      | cons b rest =>
          rw [List.map_cons, List.map_cons, List.intercalate_cons_cons, List.append_assoc]
          exact first.append (blank.append (ih others))

theorem check : ReadsAs [.returnOnException] [checkInstruction] := by
  have body : ReadsAs [.giveBack "exception_state.ToQuickJS()"] [.returnException] := line rfl rfl
  exact block rfl rfl rfl (fun _ => rfl) (fun _ => rfl) body

end ReadsAs

theorem readsAs_throwMessage (name : Text) {tail : Text} (verbatim : ∀ q ∈ tail, q.isVerbatim) :
    ReadsAs [.throwMessage (CallMessage.opening ++ name.quoted ++ tail ++ "%d" ++
        CallMessage.closing)]
      [.throwMessage (CallMessage.opening ++ name ++ tail ++ "%d" ++ CallMessage.closing)] := by
  rw [← CallMessage.quoted_format verbatim]
  exact .line rfl (line?_throwLine _)

theorem readsAs_conversion {c : Conversion} (name : c.argument.name.isWord)
    (plain : .scalar ':' ∉ c.operator.written) (slot : 0 ≤ c.slot) :
    ReadsAs (CallPlan.conversionStatements c) (conversionInstructions c) := by
  obtain ⟨i, at_slot⟩ := Int.eq_ofNat_of_zero_le slot
  rw [CallPlan.conversionStatements, conversionInstructions, at_slot]
  exact .cons (.line rfl (line?_convertLine (isWord_localName name) plain i)) .check

section
variable {p : CallPlan} {className : Text} (spelled : p.Spelled) (word : className.isWord)
include spelled

theorem readsAs_guards : ReadsAs p.guards (guardInstructions p) := by
  have few : ReadsAs [.throwMessage (CallMessage.tooFewFormat p.name.quoted p.required)]
      [.throwMessage (CallMessage.tooFewFormat p.name p.required)] :=
    readsAs_throwMessage p.name (CallMessage.isVerbatim_tooFewTail p.required)
  have many : ReadsAs [.throwMessage (CallMessage.tooManyFormat p.name.quoted p.accepted)]
      [.throwMessage (CallMessage.tooManyFormat p.name p.accepted)] :=
    readsAs_throwMessage p.name (CallMessage.isVerbatim_tooManyTail p.accepted)
  have below : 0 ≤ (CountTest.below p.required).bound := spelled.required
  have above : 0 ≤ (CountTest.above p.accepted).bound := spelled.accepted
  apply ReadsAs.append
  · split
    · exact (ReadsAs.branch below few).append .blank
    · exact .nil
  · split
    · exact (ReadsAs.branch above many).append .blank
    · exact .nil

theorem readsAs_declarations : ReadsAs (p.declarations className) (declarationInstructions p) := by
  have result : ReadsAs (p.result.declaration?.toList.map .declare)
      (p.result.declaration?.map fun _ => .declare "return_value").toList := by
    cases declared : p.result.declaration? with
    | none => exact .nil
    | some text => exact .line rfl (line?_declaration spelled.result declared)
  have target : ReadsAs ((if p.isStatic then
        [Text.ofString "ExecutingContext* context = ExecutingContext::From(ctx);"]
      else receiverLines className).map .declare)
      (if p.isStatic then [.declare "context"] else [.declare "self", .insist "self"]) := by
    split
    · exact .line rfl rfl
    · exact .cons (.line rfl (line?_receiver className)) (.line rfl rfl)
  rw [CallPlan.declarations, List.map_append, List.map_cons]
  exact .append (.cons (.line rfl rfl) result) target

include word

theorem spelled_nativeCall {point : DispatchPoint} (mem : point ∈ p.points) :
    (p.nativeCall className point).target.Spelled ∧
      ∀ name ∈ (p.nativeCall className point).passed, name.isWord := by
  constructor
  · simp only [CallPlan.nativeCall]
    split
    · exact word
    · trivial
  · simp only [CallPlan.nativeCall, List.mem_map]
    rintro _ ⟨name, passed, rfl⟩
    exact isWord_localName (spelled.passed point mem name passed)

theorem readsAs_call {point : DispatchPoint} (mem : point ∈ p.points) :
    ReadsAs [.call (p.nativeCall className point)]
      [.call (p.nativeCall className point)] := by
  obtain ⟨target, passed⟩ := spelled_nativeCall spelled word mem
  exact .line rfl (line?_call target spelled.callee passed)

theorem readsAs_point {point : DispatchPoint} (mem : point ∈ p.points) :
    ReadsAs (p.pointStatements className point) (pointInstructions p className point) := by
  have call := readsAs_call spelled word mem
  have conversions : ReadsAs (point.conversions.flatMap CallPlan.conversionStatements)
      (point.conversions.flatMap conversionInstructions) :=
    .flatMap fun c h => readsAs_conversion (spelled.converted point mem c h)
      (spelled.operators point mem c h) (spelled.slots point mem c h)
  have gap : ReadsAs (if point.conversions.isEmpty then [] else [.blank]) [] := by
    split
    · exact .nil
    · exact .blank
  have atMost : 0 ≤ (CountTest.atMost point.arity).bound := spelled.arities point mem
  have ending : ReadsAs
      (if point.catchAll then [Statement.call (p.nativeCall className point)]
        else [.branch (.atMost point.arity) [.call (p.nativeCall className point), .leave]])
      (endingInstructions p className point) := by
    rw [endingInstructions]
    split
    · exact call
    · exact .branch atMost (call.append (.line rfl rfl))
  rw [CallPlan.pointStatements, pointInstructions]
  simpa using (conversions.append gap).append ending

theorem readsAs_body : ReadsAs (p.body className) (bodyInstructions p className) := by
  have chain : ReadsAs
      [.once ([Statement.blank].intercalate (p.points.map (p.pointStatements className)))]
      [.once (p.points.flatMap (pointInstructions p className))] :=
    .once (.intercalate fun point mem => readsAs_point spelled word mem)
  have ending : ReadsAs [.blank, .returnOnException, .giveBack p.result.value]
      [checkInstruction, .giveBack p.result.value] :=
    .cons .blank (.cons .check (.line rfl (line?_giveBack _)))
  have before : ReadsAs (p.guards ++ p.declarations className)
      (guardInstructions p ++ declarationInstructions p) :=
    (readsAs_guards spelled).append (readsAs_declarations spelled)
  exact before.append (.cons .blank (chain.append ending))

/-- The lines of a body, where it stands alone, give its instructions. -/
theorem instructions?_bodyCode (depth : Int) :
    instructions? (Code.allLinesAt glueIndent depth (p.bodyCode className)) =
      some (bodyInstructions p className) := by
  rw [instructions?, CallPlan.bodyCode, readsAs_body spelled word]
  rfl

end

end Callback

end ScriptBinding
