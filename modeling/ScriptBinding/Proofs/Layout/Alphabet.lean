import ScriptBinding.Proofs.Layout.Lines
import ScriptBinding.Proofs.Text.Brackets
import ScriptBinding.Proofs.Text.Casing

/-!
What code is made of. Its fixed texts are printable, so that a property of all printable code points
is one of every line, as long as it is one of the texts that are filled in.
-/
namespace ScriptBinding

namespace CodePoint

/-- The printable code points of ASCII. -/
def isPrintable (p : CodePoint) : Bool := 0x20 ≤ p.value && p.value < 0x7F

/-- What code is written with that is no directive. -/
def isGlue (p : CodePoint) : Bool := p.isPrintable && p ≠ '#'

theorem isPrintable_of_isGlue {p : CodePoint} (h : p.isGlue) : p.isPrintable := by
  rw [isGlue, Bool.and_eq_true] at h
  exact h.1

theorem ne_of_kind {kind : CodePoint → Bool} {q : CodePoint} (other : kind q = false)
    (p : CodePoint) (made : kind p) : p ≠ q := by
  rintro rfl
  simp [other] at made

theorem isGlue_of_continuesName {p : CodePoint} (h : p.continuesName) : p.isGlue := by
  have part : p.isNamePart := by rw [isNamePart, h]; rfl
  exact forall_isNamePart (P := fun p => p.continuesName → p.isGlue) (by decide +kernel) part h

end CodePoint

namespace Text

/-- All code points of a text have a property. -/
def Over (P : CodePoint → Prop) (t : Text) : Prop := ∀ p ∈ t, P p

variable {P : CodePoint → Prop} {t u : Text}

theorem over_append : (t ++ u).Over P ↔ t.Over P ∧ u.Over P := List.forall_mem_append

theorem over_ne {q : CodePoint} : t.Over (· ≠ q) ↔ q ∉ t :=
  ⟨fun made mem => made q mem rfl, fun other _ mem same => other (same ▸ mem)⟩

theorem over_join {separator : Text} (between : separator.Over P) {parts : List Text} :
    (join separator parts).Over P ↔ ∀ t ∈ parts, t.Over P :=
  forall_mem_intercalate between

theorem over_of_all {C : CodePoint → Bool} (made : ∀ p, C p → P p) (h : t.all C) : t.Over P :=
  fun p mem => made p (List.all_eq_true.mp h p mem)

section
variable (glue : ∀ p : CodePoint, p.isGlue → P p)
include glue

theorem over_signedDecimal (n : Int) : (signedDecimal n).Over P := by
  have digits (k : Nat) : (decimal k).Over P := fun p mem =>
    glue p (CodePoint.isGlue_of_continuesName
      (by rw [CodePoint.continuesName, isDigit_of_mem_decimal p mem, Bool.or_true]))
  cases n with
  | ofNat k => exact digits k
  | negSucc k => exact List.forall_mem_cons.mpr ⟨glue _ (by decide), digits (k + 1)⟩

variable (h : t.isIdentifier)
include h

/-- The line feed that may end an identifier is escaped. -/
theorem over_quoted : t.quoted.Over P := by
  have point (p : CodePoint) (part : p.isNamePart) : ∀ q ∈ p.quoted, q.isGlue :=
    CodePoint.forall_isNamePart (P := fun p => ∀ q ∈ p.quoted, q.isGlue) (by decide +kernel) part
  intro q mem
  obtain ⟨p, listed, mem⟩ := List.mem_flatMap.mp mem
  exact glue q (point p (isNamePart_of_isIdentifier h p listed) q mem)

variable (made : t.Over P)
include made

theorem over_raised {p : CodePoint} (mem : p ∈ t) : P p.raised := by
  have part := isNamePart_of_isIdentifier h p mem
  have raised : p = '\n' ∨ p.raised.isGlue :=
    CodePoint.forall_isNamePart (P := fun p => p = '\n' ∨ p.raised.isGlue) (by decide +kernel) part
  rcases raised with rfl | plain
  · exact made _ mem
  · exact glue _ plain

theorem over_screamingSnake : t.screamingSnake.Over P := by
  rw [screamingSnake_eq h, Over, List.forall_mem_map]
  intro p mem
  rcases mem_separated mem with mem | rfl
  · exact over_raised glue h made mem
  · exact glue _ (by decide)

theorem over_capitalized : t.capitalized.Over P := by
  have parts := isNamePart_of_isIdentifier h
  have raised := over_raised glue h made (p := t.head (ne_nil_of_isIdentifier h)) (List.head_mem _)
  cases t with
  | nil => exact made
  | cons p rest =>
      rw [List.forall_mem_cons] at parts
      rw [capitalized, CodePoint.upper_eq_raised parts.1]
      exact List.forall_mem_cons.mpr ⟨raised, (List.forall_mem_cons.mp made).2⟩

end

end Text

namespace Code

variable {P : CodePoint → Prop}

/-- Code whose texts all have a property. -/
inductive Over (P : CodePoint → Prop) : Code → Prop where
  | line {text : Text} (made : text.Over P) : Over P (.line text)
  | verbatim {text : Text} (made : text.Over P) : Over P (.verbatim text)
  | block {opening closing : Text} {body : List Code} (opens : opening.Over P)
      (inside : ∀ c ∈ body, c.Over P) (closes : closing.Over P) :
      Over P (.block opening body closing)
  | deeper {body : List Code} (inside : ∀ c ∈ body, c.Over P) : Over P (.deeper body)

theorem over_indentedLine (space : P (.scalar ' ')) {text : Text} (made : text.Over P)
    (depth : Int) : (indentedLine glueIndent depth text).Over P := by
  rw [indentedLine]
  split
  · exact List.forall_mem_nil P
  · exact Text.over_append.mpr ⟨fun p mem => eq_space_of_mem_replicate p mem ▸ space, made⟩

theorem over_allLinesAt_of_each {code : List Code} {depth : Int}
    (each : ∀ c ∈ code, ∀ t ∈ c.linesAt glueIndent depth, t.Over P) :
    ∀ t ∈ allLinesAt glueIndent depth code, t.Over P := by
  induction code with
  | nil => exact List.forall_mem_nil _
  | cons c rest ih =>
      rw [List.forall_mem_cons] at each
      rw [allLinesAt, List.forall_mem_append]
      exact ⟨each.1, ih each.2⟩

theorem over_linesAt (space : P (.scalar ' ')) {c : Code} (h : c.Over P) (depth : Int) :
    ∀ t ∈ c.linesAt glueIndent depth, t.Over P := by
  induction h generalizing depth with
  | line made =>
      rw [linesAt, List.forall_mem_singleton]
      exact over_indentedLine space made depth
  | verbatim made =>
      rw [linesAt, List.forall_mem_singleton]
      exact made
  | block opens inside closes ih =>
      rw [linesAt, List.forall_mem_cons, List.forall_mem_append, List.forall_mem_singleton]
      exact ⟨over_indentedLine space opens depth,
        over_allLinesAt_of_each fun c mem => ih c mem (depth + 1),
        over_indentedLine space closes depth⟩
  | deeper inside ih => exact over_allLinesAt_of_each fun c mem => ih c mem (depth + 1)

theorem over_allLinesAt (space : P (.scalar ' ')) {code : List Code}
    (made : ∀ c ∈ code, c.Over P) (depth : Int) :
    ∀ t ∈ allLinesAt glueIndent depth code, t.Over P :=
  over_allLinesAt_of_each fun c mem => over_linesAt space (made c mem) depth

end Code

end ScriptBinding
