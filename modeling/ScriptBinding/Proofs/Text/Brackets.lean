import Mathlib.Tactic.SplitIfs
import ScriptBinding.Proofs.Text.Literal

/-!
Brackets. A text is read with the brackets that are still open, the innermost first; one that closes
has to match the innermost. Nothing else in a text matters for this, and names, numbers and what is
quoted bring no brackets of their own.
-/
namespace ScriptBinding

theorem forall_mem_intercalate {α : Type} {P : α → Prop} {separator : List α}
    (between : ∀ a ∈ separator, P a) {parts : List (List α)} :
    (∀ a ∈ separator.intercalate parts, P a) ↔ ∀ part ∈ parts, ∀ a ∈ part, P a := by
  induction parts with
  | nil => simp
  | cons first rest ih =>
      cases rest with
      | nil => simp
      | cons second rest =>
          rw [List.intercalate_cons_cons, List.forall_mem_append, List.forall_mem_append, ih,
            List.forall_mem_cons (a := first), and_iff_left between]

namespace Text

/-- Closes the innermost of some open brackets, if it is this one. -/
def close? (opening : CodePoint) : (opened : Text) → Option Text
  | [] => none
  | innermost :: outer => if innermost = opening then some outer else none

/-- The brackets that are open behind one more code point. -/
def bracketStep? (opened : Text) (p : CodePoint) : Option Text :=
  if p = '(' ∨ p = '\x7b' then some (p :: opened)
  else if p = ')' then close? '(' opened
  else if p = '\x7d' then close? '\x7b' opened
  else some opened

/-- The brackets that are open behind a text, the innermost first; none if the text closes one that
is not the innermost. -/
def unclosed? (opened t : Text) : Option Text := t.foldlM bracketStep? opened

/-- All brackets are closed, in the order in which they are opened, and no others. -/
def IsNested (t : Text) : Prop := unclosed? [] t = some []

instance (t : Text) : Decidable t.IsNested := inferInstanceAs (Decidable (unclosed? [] t = some []))

theorem unclosed?_append (opened t u : Text) :
    unclosed? opened (t ++ u) = (unclosed? opened t).bind (unclosed? · u) := List.foldlM_append

theorem bracketStep?_frame {opened next : Text} {p : CodePoint}
    (step : bracketStep? opened p = some next) (around : Text) :
    bracketStep? (opened ++ around) p = some (next ++ around) := by
  have closed (opening : CodePoint) (h : close? opening opened = some next) :
      close? opening (opened ++ around) = some (next ++ around) := by
    cases opened with
    | nil => exact absurd h nofun
    | cons innermost outer =>
        rw [close?] at h
        rw [List.cons_append, close?]
        split at h
        case isTrue same => rw [if_pos same, Option.some.inj h]
        case isFalse => exact absurd h nofun
  rw [bracketStep?] at step ⊢
  split_ifs at step ⊢
  · rw [← Option.some.inj step, List.cons_append]
  · exact closed _ step
  · exact closed _ step
  · rw [Option.some.inj step]

/-- Brackets around a text stay open, whatever it opens and closes. -/
theorem unclosed?_frame {opened after t : Text} (read : unclosed? opened t = some after)
    (around : Text) : unclosed? (opened ++ around) t = some (after ++ around) := by
  induction t generalizing opened with
  | nil => rw [unclosed?, List.foldlM_nil, Option.some.inj read]; rfl
  | cons p rest ih =>
      rw [unclosed?, List.foldlM_cons, Option.bind_eq_bind, Option.bind_eq_some_iff] at read
      obtain ⟨next, step, later⟩ := read
      rw [unclosed?, List.foldlM_cons, bracketStep?_frame step around]
      exact ih later

/-- A line in a function opens a brace inside that of the function. -/
example : unclosed? ("\x7b" : Text) ("if (argc < 1) \x7b" : Text) = some ("\x7b\x7b" : Text) := by
  decide

theorem unclosed?_of_isNested {t : Text} (nested : t.IsNested) (opened : Text) :
    unclosed? opened t = some opened := unclosed?_frame nested opened

theorem IsNested.append {t u : Text} (h : t.IsNested) (h' : u.IsNested) : (t ++ u).IsNested := by
  rw [IsNested, unclosed?_append, unclosed?_of_isNested h]
  exact h'

def bracketMarks : List CodePoint := ['(', ')', '\x7b', '\x7d']

/-- The brackets of a text, without what stands between them. -/
def brackets (t : Text) : Text := t.filter bracketMarks.contains

theorem bracketStep?_other (opened : Text) {p : CodePoint} (other : p ∉ bracketMarks) :
    bracketStep? opened p = some opened := by
  simp only [bracketMarks, List.mem_cons, List.not_mem_nil, or_false, not_or] at other
  obtain ⟨roundOpen, roundClose, curlyOpen, curlyClose⟩ := other
  rw [bracketStep?, if_neg (not_or.mpr ⟨roundOpen, curlyOpen⟩), if_neg roundClose,
    if_neg curlyClose]

theorem unclosed?_brackets (opened t : Text) :
    unclosed? opened t.brackets = unclosed? opened t := by
  induction t generalizing opened with
  | nil => rfl
  | cons p rest ih =>
      by_cases mark : p ∈ bracketMarks
      · have split : brackets (p :: rest) = p :: brackets rest :=
          List.filter_cons_of_pos (by simpa using mark)
        rw [split, unclosed?, unclosed?, List.foldlM_cons, List.foldlM_cons]
        exact bind_congr fun next => ih next
      · have split : brackets (p :: rest) = brackets rest :=
          List.filter_cons_of_neg (by simpa using mark)
        rw [split, ih, unclosed?, unclosed?, List.foldlM_cons, bracketStep?_other opened mark]
        rfl

theorem isNested_iff_brackets {t : Text} : t.IsNested ↔ t.brackets.IsNested := by
  rw [IsNested, IsNested, unclosed?_brackets]

theorem brackets_append (t u : Text) : (t ++ u).brackets = t.brackets ++ u.brackets :=
  List.filter_append ..

section
variable {t : Text}

theorem brackets_eq_nil_iff : t.brackets = [] ↔ ∀ p ∈ t, p ∉ bracketMarks := by
  simp [brackets, List.filter_eq_nil_iff]

/-- A text of code points that are no brackets. -/
theorem brackets_eq_nil {P : CodePoint → Bool} (made : ∀ p ∈ t, P p)
    (other : ∀ p ∈ bracketMarks, P p = false) : t.brackets = [] :=
  brackets_eq_nil_iff.mpr fun p mem mark =>
    Bool.false_ne_true ((other p mark).symm.trans (made p mem))

theorem brackets_of_isNamePart (made : ∀ p ∈ t, p.isNamePart) : t.brackets = [] :=
  brackets_eq_nil made (by decide)

theorem brackets_of_isWord (h : t.isWord) : t.brackets = [] :=
  brackets_of_isNamePart (isNamePart_of_isWord h)

theorem brackets_of_isIdentifier (h : t.isIdentifier) : t.brackets = [] :=
  brackets_of_isNamePart (isNamePart_of_isIdentifier h)

end

theorem brackets_signedDecimal (n : Int) : (signedDecimal n).brackets = [] := by
  have digits (k : Nat) : (decimal k).brackets = [] :=
    brackets_eq_nil isDigit_of_mem_decimal (by decide)
  cases n with
  | ofNat k => exact digits k
  | negSucc k => exact (brackets_append ['-'] _).trans (digits (k + 1))

/-- What is escaped is no bracket, and neither is what it is written as. -/
theorem brackets_quoted (t : Text) : t.quoted.brackets = t.brackets := by
  have escaped : ∀ e ∈ CodePoint.escapes,
      (CodePoint.scalar e.1).quoted.brackets = brackets [.scalar e.1] := by decide
  have point (p : CodePoint) : p.quoted.brackets = brackets [p] := by
    rcases p.isPlain_or_escaped with plain | ⟨e, listed, rfl⟩
    · rw [CodePoint.quoted_of_isPlain plain]
    · exact escaped e listed
  induction t with
  | nil => rfl
  | cons p rest ih =>
      have split : quoted (p :: rest) = p.quoted ++ quoted rest := rfl
      rw [split, brackets_append, point, ih, ← brackets_append, List.singleton_append]

/-- Parts without brackets, joined by a separator without brackets. -/
theorem brackets_join {separator : Text} (plain : separator.brackets = []) {parts : List Text}
    (bare : ∀ t ∈ parts, t.brackets = []) : (join separator parts).brackets = [] := by
  simp only [brackets_eq_nil_iff] at *
  exact (forall_mem_intercalate plain).mpr bare

end Text

end ScriptBinding
