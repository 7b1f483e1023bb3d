import ScriptBinding.Proofs.Callback.Reader
import ScriptBinding.Proofs.Layout.Lines

/-!
The lines that callbacks are written with, read back one by one.
-/
namespace ScriptBinding

/-- The receiver, or a class that can be named. -/
def CallTarget.Spelled : CallTarget → Prop
  | backing className => className.isWord
  | receiver => True

/-- A result whose declaration can be read. -/
def CallResult.Spelled : CallResult → Prop
  | owned type => type.isWord
  | converted operator => .scalar ':' ∉ operator.written
  | nothing | promise => True

namespace Callback

open Text

/-- The depth of a line says nothing. -/
theorem line?_indentedLine (depth : Int) (text : Text) :
    line? (indentedLine glueIndent depth text) = line? text := by
  rw [line?, line?, dropWhile_indentedLine]

theorem line?_word {name : Text} (h : name.isWord) {rest : Text}
    (ended : rest.head?.all fun p => !p.isNamePart) :
    line? (name ++ rest) = Line.parts? name rest := by
  have first : (name ++ rest).dropWhile (· = .scalar ' ') = name ++ rest := by
    cases name with
    | nil => exact absurd h (by decide)
    | cons p others =>
        have : p ≠ .scalar ' ' := by
          rintro rfl
          exact absurd (isNamePart_of_isWord h _ List.mem_cons_self) (by decide)
        simp [this]
  rw [line?]
  simp only [first, word_append h ended]

theorem isWord_localName {name : Text} (h : name.isWord) : (localName name).isWord :=
  isWord_append (by decide) h

theorem templateArgument?_append {argument : Text} (plain : .scalar ':' ∉ argument) (rest : Text) :
    Line.templateArgument? (argument ++ (">::" ++ rest)) = some (argument, rest) := by
  have closed : (.scalar ':' : CodePoint) ∉ argument ++ (">" : Text) := by
    rw [List.mem_append, not_or]
    exact ⟨plain, by decide⟩
  have split : argument ++ ((">::" : Text) ++ rest) =
      (argument ++ (">" : Text)) ++ .scalar ':' :: ((":" : Text) ++ rest) := by
    rw [List.append_assoc]
    rfl
  rw [Line.templateArgument?, split, cut?_append closed]
  simp only [Option.bind_eq_bind, Option.bind_some, before?_append, after?_append]

theorem line?_throwLine (format : Text) :
    line? (Statement.throwLine format.quoted) = some (.instruction (.throwMessage format)) := by
  rw [Statement.throwLine, List.append_assoc]
  show (literal? (format.quoted ++ .scalar '"' :: (", argc);" : Text))).bind _ = _
  rw [literal?_quoted_append]
  rfl

theorem line?_convertLine {name : Text} (h : name.isWord) {operator : Operator}
    (plain : .scalar ':' ∉ operator.written) (slot : Nat) :
    line? (Statement.convertLine name operator slot) =
      some (.instruction (.convert name operator.written slot)) := by
  rw [Statement.convertLine]
  simp only [List.append_assoc]
  show Line.conversion? (name ++ (" = Converter<" ++ (operator.written ++ (">::" ++
    ("FromValue(ctx, argv[" ++ (decimal slot ++ "], exception_state);")))))) = _
  rw [Line.conversion?, word_append h rfl]
  simp only [after?_append, templateArgument?_append plain, before?_append, toNat?_decimal,
    Option.bind_eq_bind, Option.bind_some]

theorem line?_question {test : CountTest} (natural : 0 ≤ test.bound) :
    line? ("if (" ++ test.written ++ ") \x7b") = some (.openBranch (.count test)) := by
  have read (t : Text) : line? ("if (" ++ t ++ ") \x7b") = Line.asked? t := by
    rw [List.append_assoc]
    show (before? ") \x7b" (t ++ ") \x7b")).bind _ = _
    rw [before?_append]
    rfl
  rw [read]
  cases test with
  | below n | above n | atMost n =>
      obtain ⟨n, rfl⟩ := Int.eq_ofNat_of_zero_le natural
      show (toNat? (decimal n)).bind _ = _
      rw [toNat?_decimal]
      rfl

theorem mem_given {c : NativeCall} {name : Text} (mem : name ∈ c.given) :
    name = "context" ∨ name ∈ c.passed ∨ name = "exception_state" := by
  simp only [NativeCall.given, List.mem_append, List.mem_singleton] at mem
  rcases mem with (first | mem) | last
  · cases target : c.target with
    | backing _ =>
        rw [target, List.mem_singleton] at first
        exact .inl first
    | receiver => simp [target] at first
  · exact .inr (.inl mem)
  · exact .inr (.inr last)

section
variable {c : NativeCall} (callee : c.callee.isWord) (passed : ∀ name ∈ c.passed, name.isWord)
include passed

theorem isWord_of_mem_given : ∀ name ∈ c.given, name.isWord := by
  intro name mem
  rcases mem_given mem with rfl | mem | rfl
  · decide
  · exact passed name mem
  · decide

include callee

theorem callOn?_append :
    Line.callOn? c.kept c.target (c.callee ++ ("(" ++ (join ", " c.given ++ ");"))) =
      some (.instruction (.call c)) := by
  have given := isWord_of_mem_given passed
  have plain : ∀ name ∈ c.given, .scalar ',' ∉ name := fun name mem =>
    not_mem_of_isWord (given name mem) (by decide)
  have back : Line.passed? c.target c.given = some c.passed := by
    cases target : c.target <;> simp [Line.passed?, NativeCall.given, target]
  rw [Line.callOn?, word_append callee rfl]
  simp only [after?_append, before?_append, pieces_join (by simp [NativeCall.given]) plain, back,
    Option.bind_eq_bind, Option.bind_some]

end

theorem call?_opening {target : CallTarget} (h : target.Spelled) (kept : Bool)
    (t : Text) :
    Line.call? kept (target.opening ++ t).word.1 (target.opening ++ t).word.2 =
      Line.callOn? kept target t := by
  cases target with
  | receiver => rfl
  | backing className =>
      rw [CallTarget.opening, List.append_assoc, word_append h rfl]
      rfl

theorem line?_opening {target : CallTarget} (h : target.Spelled) (t : Text) :
    line? (target.opening ++ t) = Line.callOn? false target t := by
  cases target with
  | receiver => rfl
  | backing className =>
      have word : className.isWord := h
      have some : className ≠ [] := by
        intro empty
        rw [empty] at word
        exact absurd word (by decide)
      rw [CallTarget.opening, List.append_assoc, line?_word h rfl]
      show (if className = [] then _ else Line.callOn? false (.backing className) t) = _
      rw [if_neg some]

theorem written_eq (c : NativeCall) :
    c.written = (if c.kept then ofString "return_value = " else ofString "") ++
      (c.target.opening ++ (c.callee ++ ("(" ++ (join ", " c.given ++ ");")))) := by
  cases target : c.target <;>
    simp [NativeCall.written, NativeCall.given, CallTarget.opening, target, List.append_assoc]

theorem line?_call {c : NativeCall} (target : c.target.Spelled)
    (callee : c.callee.isWord) (passed : ∀ name ∈ c.passed, name.isWord) :
    line? c.written = some (.instruction (.call c)) := by
  have read := callOn?_append callee passed
  rw [written_eq]
  cases kept : c.kept with
  | false =>
      rw [kept] at read
      exact (line?_opening target _).trans read
  | true =>
      rw [kept] at read
      exact (call?_opening target true _).trans read

theorem line?_declaration {result : CallResult} (h : result.Spelled) {text : Text}
    (declared : result.declaration? = some text) :
    line? text = some (.instruction (.declare "return_value")) := by
  cases result with
  | nothing => exact absurd declared (by simp [CallResult.declaration?])
  | promise =>
      obtain rfl := Option.some.inj declared
      rfl
  | owned type =>
      obtain rfl := Option.some.inj declared
      rw [line?_word h rfl]
      rfl
  | converted operator =>
      obtain rfl := Option.some.inj declared
      rw [List.append_assoc]
      show (Line.templateArgument?
        (operator.written ++ (">::" ++ "ImplType return_value;"))).bind _ = _
      rw [templateArgument?_append h]
      rfl

theorem line?_giveBack (result : CallResult) :
    line? ("return " ++ result.value ++ ";") = some (.instruction (.giveBack result.value)) := by
  have read : line? ("return " ++ (result.value ++ ";")) =
      (before? ";" (result.value ++ ";")).map fun value => .instruction (.giveBack value) := by
    cases result with
    | nothing | promise | owned _ | converted _ => rfl
  rw [List.append_assoc, read, before?_append]
  rfl

theorem line?_receiver (className : Text) :
    line? ("auto* self = toScriptWrappable<" ++ className ++ ">(this_val);") =
      some (.instruction (.declare "self")) := by
  have read : line? ("auto* self = toScriptWrappable<" ++ (className ++ ">(this_val);")) =
      (before? ">(this_val);" (className ++ ">(this_val);")).bind
        fun _ => some (.instruction (.declare "self")) := rfl
  rw [List.append_assoc, read, before?_append]
  rfl

end Callback

end ScriptBinding
