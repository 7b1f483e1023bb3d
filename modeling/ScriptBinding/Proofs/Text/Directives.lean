import ScriptBinding.Proofs.Text.Lines
import ScriptBinding.Proofs.Text.Scan

/-!
What the preprocessor leaves of the lines of a file, as far as include guards go. A guard that holds
a line feed becomes several lines: the first word of it is the macro, and the others are code.
-/
namespace ScriptBinding

/-- What a line of a file asks of the preprocessor; an inclusion asks for another file only. -/
inductive Directive where
  | ifUndefined (name : Text)
  | define (name : Text)
  | endIf
deriving DecidableEq

namespace Text

/-- A directive by its first word, and its macro by the first word behind that. -/
def directive? (t : Text) : Option Directive :=
  match after? "#ifndef " t, after? "#define " t, after? "#endif" t with
  | some rest, _, _ => some (.ifUndefined rest.stem)
  | none, some rest, _ => some (.define rest.stem)
  | none, none, some _ => some .endIf
  | none, none, none => none

/-- The lines that are compiled: those in no group for a name that is defined. `hidden` counts the
groups around a line, from the first that is left out. -/
def compiled (defined : List Text) : (hidden : Nat) → List Text → List Text
  | _, [] => []
  | 0, t :: rest =>
    match t.directive? with
    | some (.ifUndefined name) => compiled defined (if name ∈ defined then 1 else 0) rest
    | some (.define name) => compiled (name :: defined) 0 rest
    | some .endIf => compiled defined 0 rest
    | none => t :: compiled defined 0 rest
  | hidden + 1, t :: rest =>
    match t.directive? with
    | some (.ifUndefined _) => compiled defined (hidden + 2) rest
    | some .endIf => compiled defined hidden rest
    | some (.define _) | none => compiled defined (hidden + 1) rest

/-- Only a number sign begins a directive. -/
theorem directive?_eq_none {t : Text} (h : .scalar '#' ∉ t) : t.directive? = none := by
  have other (start : Text) : after? ("#" ++ start) t = none := by
    rw [Option.eq_none_iff_forall_ne_some]
    rintro rest begun
    rw [after?_eq_some_iff] at begun
    exact h (begun ▸ List.mem_cons_self)
  have ifUndefined : after? "#ifndef " t = none := other "ifndef "
  have define : after? "#define " t = none := other "define "
  have endIf : after? "#endif" t = none := other "endif"
  rw [directive?, ifUndefined, define, endIf]

theorem directive?_eq_none_of_mem_lines {t line : Text} (h : .scalar '#' ∉ t)
    (mem : line ∈ t.lines) : line.directive? = none :=
  directive?_eq_none fun sign => h (mem_of_mem_lines mem sign)

/-- Lines inside an include guard, as they are written. -/
def guarded (guard : Text) (lines : List Text) : List Text :=
  ("#ifndef " ++ guard) :: ("#define " ++ guard) :: (lines ++ ["#endif  // " ++ guard])

/-- The lines of a guard behind its first, which the preprocessor takes for code. -/
def strayLines (guard : Text) : List Text := guard.lines.tail

section
variable {guard : Text} (parts : ∀ p ∈ guard, p.isNamePart)
include parts

theorem lines_eq_stem_cons : guard.lines = guard.stem :: guard.strayLines := by
  induction guard with
  | nil => rfl
  | cons p rest ih =>
      obtain ⟨first, others⟩ := List.forall_mem_cons.mp parts
      rw [CodePoint.isNamePart, Bool.or_eq_true, decide_eq_true_eq] at first
      rcases first with continues | rfl
      · have other : p ≠ '\n' := by
          rintro rfl
          exact absurd continues (by decide)
        have first : Text.stem (p :: rest) = p :: Text.stem rest := by simp [stem, continues]
        rw [strayLines, first, lines, if_neg other, ih others]
        rfl
      · rfl

theorem directive?_strayLines : ∀ t ∈ guard.strayLines, t.directive? = none := by
  have unsigned : .scalar '#' ∉ guard := fun sign => absurd (parts _ sign) (by decide)
  exact fun t mem => directive?_eq_none_of_mem_lines unsigned (List.mem_of_mem_tail mem)

/-- What is written in front of a guard stands in front of its first line. -/
theorem lines_append_guard {ahead : Text} (plain : .scalar '\n' ∉ ahead) :
    (ahead ++ guard).lines = (ahead ++ guard.stem) :: guard.strayLines := by
  induction ahead with
  | nil => exact lines_eq_stem_cons parts
  | cons p rest ih =>
      obtain ⟨other, plain⟩ := not_or.mp (mt List.mem_cons.mpr plain)
      rw [List.cons_append, lines, if_neg (Ne.symm other), ih plain]
      rfl

end

section
variable {lines : List Text} (plain : ∀ t ∈ lines, t.directive? = none)
include plain

theorem compiled_append_of_plain (defined rest : List Text) :
    compiled defined 0 (lines ++ rest) = lines ++ compiled defined 0 rest := by
  induction lines with
  | nil => rfl
  | cons t lines ih =>
      obtain ⟨first, others⟩ := List.forall_mem_cons.mp plain
      simp only [List.cons_append, compiled, first, ih others]

theorem compiled_append_of_hidden (defined rest : List Text) (hidden : Nat) :
    compiled defined (hidden + 1) (lines ++ rest) = compiled defined (hidden + 1) rest := by
  induction lines with
  | nil => rfl
  | cons t lines ih =>
      obtain ⟨first, others⟩ := List.forall_mem_cons.mp plain
      simp only [List.cons_append, compiled, first, ih others]

end

/-- What is guarded is compiled unless the first word of its guard is defined, and then defines it.
Other lines of the guard are compiled wherever they stand outside the group. -/
theorem compiled_guarded {guard : Text} (parts : ∀ p ∈ guard, p.isNamePart) {lines : List Text}
    (plain : ∀ t ∈ lines.flatMap Text.lines, t.directive? = none) (defined rest : List Text) :
    compiled defined 0 ((guarded guard lines).flatMap Text.lines ++ rest) =
      if guard.stem ∈ defined then guard.strayLines ++ compiled defined 0 rest
      else guard.strayLines ++ (guard.strayLines ++ (lines.flatMap Text.lines ++
        (guard.strayLines ++ compiled (guard.stem :: defined) 0 rest))) := by
  have stray := directive?_strayLines parts
  have opening : ("#ifndef " ++ guard.stem : Text).directive? = some (.ifUndefined guard.stem) := by
    rw [directive?, after?_append]
    exact congrArg (fun name => some (Directive.ifUndefined name)) guard.stem_stem
  have naming : ("#define " ++ guard.stem : Text).directive? = some (.define guard.stem) := by
    rw [directive?, after?_append]
    exact congrArg (fun name => some (Directive.define name)) guard.stem_stem
  have closing : ("#endif  // " ++ guard.stem : Text).directive? = some .endIf := rfl
  have written : (guarded guard lines).flatMap Text.lines ++ rest =
      ("#ifndef " ++ guard.stem) :: (guard.strayLines ++ (("#define " ++ guard.stem) ::
        (guard.strayLines ++ (lines.flatMap Text.lines ++ (("#endif  // " ++ guard.stem) ::
          (guard.strayLines ++ rest)))))) := by
    rw [guarded]
    simp only [List.flatMap_cons, List.flatMap_append, List.flatMap_nil, List.append_assoc,
      lines_append_guard parts (show .scalar '\n' ∉ ("#ifndef " : Text) by decide),
      lines_append_guard parts (show .scalar '\n' ∉ ("#define " : Text) by decide),
      lines_append_guard parts (show .scalar '\n' ∉ ("#endif  // " : Text) by decide),
      List.cons_append, List.nil_append]
  simp only [written, compiled, opening]
  split
  · simp only [compiled_append_of_hidden stray, compiled, naming, compiled_append_of_hidden plain,
      closing, compiled_append_of_plain stray]
  · simp only [compiled_append_of_plain stray, compiled, naming, compiled_append_of_plain plain,
      closing]

end Text

end ScriptBinding
