import ScriptBinding.Proofs.Layout.Lines
import ScriptBinding.Proofs.Text.Brackets

/-!
Code that is indented by its braces. Each line closes what it opens, and the first line of a block
opens one brace, which its last line closes; so at every line as many braces are open as there are
blocks around it, and this is the depth at which it is written.
-/
namespace ScriptBinding

namespace Text

/-- The number of spaces that a line begins with. -/
def indentation (t : Text) : Nat := (t.takeWhile (· = .scalar ' ')).length

/-- What a line says behind its indentation. -/
def unindented (t : Text) : Text := t.dropWhile (· = .scalar ' ')

/-- Where these brackets are open, a line is empty, or indented by two spaces for each brace among
them, or for each but one if it begins by closing one. -/
def IndentedIn (t opened : Text) : Prop :=
  t ≠ [] →
    (t.indentation : Int) =
      2 * (opened.count (.scalar '\x7b') - if t.unindented.beginsWith '\x7d' then 1 else 0)

/-- A text begins neither with a space nor by closing a brace. -/
def isFlush (t : Text) : Bool := !t.beginsWith ' ' && !t.beginsWith '\x7d'

end Text

open Text (unclosed?)

/-- Lines that lead from some open brackets to others, all indented as their places ask. -/
inductive Leads : (opened : Text) → List Text → (after : Text) → Prop where
  | nil {opened : Text} : Leads opened [] opened
  | cons {opened next after t : Text} {rest : List Text} (indented : t.IndentedIn opened)
      (read : unclosed? opened t = some next) (later : Leads next rest after) :
      Leads opened (t :: rest) after

namespace Leads

variable {opened between after : Text} {lines others : List Text}

theorem singleton {t : Text} (indented : t.IndentedIn opened)
    (read : unclosed? opened t = some after) : Leads opened [t] after := .cons indented read .nil

theorem append (h : Leads opened lines between) (h' : Leads between others after) :
    Leads opened (lines ++ others) after := by
  induction h with
  | nil => exact h'
  | cons indented read _ ih => exact .cons indented read (ih h')

theorem unclosed?_flatten (h : Leads opened lines after) :
    unclosed? opened lines.flatten = some after := by
  induction h with
  | nil => rfl
  | cons indented read _ ih =>
      rw [List.flatten_cons, Text.unclosed?_append, read]
      exact ih

/-- At each line, the lines before it say which brackets are open. -/
theorem indentedIn {earlier later : List Text} {t : Text}
    (h : Leads opened (earlier ++ t :: later) after) :
    ∃ here, unclosed? opened earlier.flatten = some here ∧ t.IndentedIn here := by
  induction earlier generalizing opened with
  | nil =>
      cases h with
      | cons indented _ _ => exact ⟨opened, rfl, indented⟩
  | cons first earlier ih =>
      cases h with
      | cons _ read rest =>
          obtain ⟨here, found, indented⟩ := ih rest
          refine ⟨here, ?_, indented⟩
          rw [List.flatten_cons, Text.unclosed?_append, read]
          exact found

end Leads

namespace Code

/-- Code whose braces are those of its blocks. -/
inductive IsBraced : Code → Prop where
  | line {text : Text} (flush : text.isFlush) (nested : text.IsNested) : IsBraced (.line text)
  | block {opening closing : Text} {body : List Code} (flush : opening.isFlush)
      (opens : unclosed? [] opening = some [.scalar '\x7b'])
      (inside : ∀ c ∈ body, c.IsBraced)
      (margin : closing.beginsWith '\x7d') (closes : unclosed? [.scalar '\x7b'] closing = some []) :
      IsBraced (.block opening body closing)

/-- Only the brackets of a line matter. -/
theorem isBraced_line {text : Text} (flush : text.isFlush) (nested : text.brackets.IsNested) :
    (line text).IsBraced := .line flush (Text.isNested_iff_brackets.mpr nested)

/-- The braces of the blocks around a line. -/
def braces (depth : Nat) : Text := List.replicate depth (.scalar '\x7b')

theorem count_braces (depth : Nat) : (braces depth).count (.scalar '\x7b') = depth :=
  List.count_replicate_self

theorem unclosed?_indentedLine (opened text : Text) (depth : Int) :
    unclosed? opened (indentedLine glueIndent depth text) = unclosed? opened text := by
  have spaces : (Text.replicate depth glueIndent).brackets = [] :=
    Text.brackets_eq_nil (P := (· = .scalar ' ')) (by simpa using eq_space_of_mem_replicate)
      (by decide)
  rw [indentedLine]
  split
  case isTrue empty => rw [List.isEmpty_iff.mp empty]
  case isFalse =>
    rw [← Text.unclosed?_brackets, Text.brackets_append, spaces, List.nil_append,
      Text.unclosed?_brackets]

section
variable {text : Text} (spaceless : text.beginsWith ' ' = false)
include spaceless

theorem unindented_indentedLine (depth : Int) :
    (indentedLine glueIndent depth text).unindented = text := by
  rw [Text.unindented, dropWhile_indentedLine]
  cases text with
  | nil => rfl
  | cons p rest =>
      have first : p ≠ .scalar ' ' := by simpa [Text.beginsWith] using spaceless
      simp [first]

theorem indentation_indentedLine (some : text ≠ []) (depth : Nat) :
    (indentedLine glueIndent depth text).indentation = 2 * depth := by
  have none : text.takeWhile (· = .scalar ' ') = [] := by
    cases text with
    | nil => rfl
    | cons p rest =>
        have first : p ≠ .scalar ' ' := by simpa [Text.beginsWith] using spaceless
        simp [first]
  have width : (Text.replicate depth glueIndent).length = 2 * depth := by
    simp [Text.replicate, glueIndent, Text.ofString, Nat.mul_comm]
  rw [Text.indentation, indentedLine, if_neg (by simpa using some),
    List.takeWhile_append_of_pos (by simpa using eq_space_of_mem_replicate), none, List.append_nil,
    width]

theorem indentedIn_indentedLine {opened : Text} {depth : Nat}
    (around : opened.count (.scalar '\x7b') = depth + if text.beginsWith '\x7d' then 1 else 0) :
    (indentedLine glueIndent depth text).IndentedIn opened := by
  intro written
  have some : text ≠ [] := by
    rintro rfl
    exact written rfl
  rw [indentation_indentedLine spaceless some, unindented_indentedLine spaceless, around]
  split <;> omega

end

/-- A line of its own leaves the braces around it as they are. -/
theorem leads_line {text : Text} (flush : text.isFlush) (nested : text.IsNested) (depth : Nat) :
    Leads (braces depth) [indentedLine glueIndent depth text] (braces depth) := by
  rw [Text.isFlush, Bool.and_eq_true, Bool.not_eq_true', Bool.not_eq_true'] at flush
  refine .singleton (indentedIn_indentedLine flush.1 ?_) ?_
  · rw [flush.2, count_braces]
    rfl
  · rw [unclosed?_indentedLine, Text.unclosed?_of_isNested nested]

theorem leads_opening {opening : Text} (flush : opening.isFlush)
    (opens : unclosed? [] opening = some [.scalar '\x7b']) (depth : Nat) :
    Leads (braces depth) [indentedLine glueIndent depth opening] (braces (depth + 1)) := by
  rw [Text.isFlush, Bool.and_eq_true, Bool.not_eq_true', Bool.not_eq_true'] at flush
  refine .singleton (indentedIn_indentedLine flush.1 ?_) ?_
  · rw [flush.2, count_braces]
    rfl
  · rw [unclosed?_indentedLine]
    exact Text.unclosed?_frame opens (braces depth)

theorem leads_closing {closing : Text} (margin : closing.beginsWith '\x7d')
    (closes : unclosed? [.scalar '\x7b'] closing = some []) (depth : Nat) :
    Leads (braces (depth + 1)) [indentedLine glueIndent depth closing] (braces depth) := by
  have spaceless : closing.beginsWith ' ' = false := by
    rw [Text.beginsWith, decide_eq_true_eq] at margin
    rw [Text.beginsWith, margin]
    decide
  refine .singleton (indentedIn_indentedLine spaceless ?_) ?_
  · rw [margin, count_braces]
    rfl
  · rw [unclosed?_indentedLine]
    exact Text.unclosed?_frame closes (braces depth)

theorem leads_allLinesAt_of_each {code : List Code} {depth : Nat}
    (each : ∀ c ∈ code, Leads (braces depth) (c.linesAt glueIndent depth) (braces depth)) :
    Leads (braces depth) (allLinesAt glueIndent depth code) (braces depth) := by
  induction code with
  | nil => exact .nil
  | cons c rest ih =>
      rw [List.forall_mem_cons] at each
      exact each.1.append (ih each.2)

/-- Braced code leaves the braces around it as they are, at whatever depth it is written. -/
theorem leads_linesAt {c : Code} (h : c.IsBraced) (depth : Nat) :
    Leads (braces depth) (c.linesAt glueIndent depth) (braces depth) := by
  induction h generalizing depth with
  | line flush nested => exact leads_line flush nested depth
  | block flush opens inside margin closes ih =>
      have body := leads_allLinesAt_of_each fun c mem => ih c mem (depth + 1)
      rw [Int.natCast_succ] at body
      exact (leads_opening flush opens depth).append (body.append (leads_closing margin closes depth))

theorem leads_allLinesAt {code : List Code} (braced : ∀ c ∈ code, c.IsBraced) (depth : Nat) :
    Leads (braces depth) (allLinesAt glueIndent depth code) (braces depth) :=
  leads_allLinesAt_of_each fun c mem => leads_linesAt (braced c mem) depth

end Code

end ScriptBinding
