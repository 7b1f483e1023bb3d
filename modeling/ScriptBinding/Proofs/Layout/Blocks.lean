import ScriptBinding.Glue.Generate
import ScriptBinding.Proofs.Layout.Lines
import ScriptBinding.Proofs.Text.Scan

/-!
The lines of a file, read as blocks. A line at the margin that ends in an opening brace begins a
block, and the lines behind it are inside as far as they are empty or indented. What is written as a
block at the margin is read as this block, whatever stands inside.
-/
namespace ScriptBinding

namespace Text

/-- A line that is empty or indented. -/
def isInner (t : Text) : Bool := t.isEmpty || t.beginsWith ' '

/-- A line at the margin that ends in an opening brace, and does not begin with a closing one. -/
def opensBlock (t : Text) : Bool :=
  !t.isInner && !t.beginsWith '\x7d' && (before? " \x7b" t).isSome

theorem opensBlock_append {t : Text} (margin : t.isInner = false)
    (fresh : t.beginsWith '\x7d' = false) : (t ++ " \x7b").opensBlock := by
  have first : (t ++ (" \x7b" : Text)).isInner = false ∧
      (t ++ (" \x7b" : Text)).beginsWith '\x7d' = false := by
    cases t with
    | nil => exact absurd margin (by decide)
    | cons p rest => simpa [isInner, beginsWith] using And.intro margin fresh
  rw [opensBlock, first.1, first.2, before?_append]
  rfl

theorem opensBlock_eq_false {t : Text} (other : t.getLast? ≠ some (.scalar '\x7b')) :
    t.opensBlock = false := by
  have unread : before? " \x7b" t = none := by
    rw [List.getLast?_eq_head?_reverse] at other
    rw [before?]
    cases backwards : t.reverse with
    | nil => rfl
    | cons p rest =>
        rw [backwards] at other
        have : .scalar '\x7b' ≠ p := fun same => other (congrArg some same.symm)
        show (after? [.scalar '\x7b', .scalar ' '] (p :: rest)).map List.reverse = none
        rw [after?, if_neg this]
        rfl
  simp [opensBlock, unread]

/-- The lines behind the last that is a certain one. -/
def behindLast (mark : Text) (lines : List Text) : List Text :=
  (lines.reverse.takeWhile (· ≠ mark)).reverse

theorem behindLast_append {mark : Text} (ahead : List Text) {behind : List Text}
    (last : mark ∉ behind) : behindLast mark (ahead ++ mark :: behind) = behind := by
  have others : ∀ t ∈ behind.reverse, decide (t ≠ mark) = true := by
    intro t mem
    have differs : t ≠ mark := fun same => last (same ▸ List.mem_reverse.mp mem)
    simpa using differs
  rw [behindLast, List.reverse_append, List.reverse_cons, List.append_assoc,
    List.takeWhile_append_of_pos others]
  simp

theorem not_mem_behindLast (mark : Text) (lines : List Text) : mark ∉ behindLast mark lines := by
  intro mem
  have other := List.all_eq_true.mp List.all_takeWhile mark (List.mem_reverse.mp mem)
  exact absurd rfl (of_decide_eq_true other)

end Text

structure Block where
  opening : Text
  inside : List Text

namespace Block

def readAll : List Text → List Block
  | [] => []
  | t :: rest =>
    if t.opensBlock then ⟨t, rest.takeWhile Text.isInner⟩ :: readAll rest else readAll rest

theorem readAll_append_of_inner {ts : List Text} (inner : ∀ t ∈ ts, t.isInner)
    (rest : List Text) : readAll (ts ++ rest) = readAll rest := by
  induction ts with
  | nil => rfl
  | cons t ts ih =>
      obtain ⟨first, others⟩ := List.forall_mem_cons.mp inner
      have : t.opensBlock = false := by simp [Text.opensBlock, first]
      rw [List.cons_append, readAll, this]
      exact ih others

/-- Every line that begins a block is the opening of one. -/
theorem map_opening_readAll (lines : List Text) :
    (readAll lines).map (·.opening) = lines.filter Text.opensBlock := by
  induction lines with
  | nil => rfl
  | cons t rest ih => cases h : t.opensBlock <;> simp [readAll, h, ih]

end Block

namespace Code

mutual

/-- No line of this code is written without its indentation. -/
def keepsDepth : Code → Bool
  | line _ => true
  | verbatim _ => false
  | block _ body _ | deeper body => allKeepDepth body

def allKeepDepth : List Code → Bool
  | [] => true
  | c :: rest => c.keepsDepth && allKeepDepth rest

end

theorem allKeepDepth_iff (code : List Code) :
    allKeepDepth code ↔ ∀ c ∈ code, c.keepsDepth := by
  induction code with
  | nil => simp [allKeepDepth]
  | cons c rest ih => simp [allKeepDepth, ih]

theorem isInner_indentedLine {depth : Int} (deep : 0 < depth) (text : Text) :
    (indentedLine glueIndent depth text).isInner := by
  obtain ⟨n, rfl⟩ := Int.eq_succ_of_zero_lt deep
  rw [indentedLine]
  split
  · rfl
  · rfl

mutual

theorem isInner_of_mem_linesAt {depth : Int} (deep : 0 < depth) :
    (c : Code) → c.keepsDepth → ∀ t ∈ c.linesAt glueIndent depth, t.isInner
  | line text, _, t, mem => by
    rw [linesAt, List.mem_singleton] at mem
    exact mem ▸ isInner_indentedLine deep text
  | block opening body closing, kept, t, mem => by
    have inside := isInner_of_mem_allLinesAt (show 0 < depth + 1 by omega) body kept
    rw [linesAt, List.mem_cons, List.mem_append, List.mem_singleton] at mem
    rcases mem with rfl | mem | rfl
    · exact isInner_indentedLine deep opening
    · exact inside t mem
    · exact isInner_indentedLine deep closing
  | deeper body, kept, t, mem =>
    isInner_of_mem_allLinesAt (show 0 < depth + 1 by omega) body kept t mem

theorem isInner_of_mem_allLinesAt {depth : Int} (deep : 0 < depth) :
    (code : List Code) → allKeepDepth code → ∀ t ∈ allLinesAt glueIndent depth code, t.isInner
  | [], _, t, mem => absurd mem (by simp [allLinesAt])
  | c :: rest, kept, t, mem => by
    rw [allKeepDepth, Bool.and_eq_true] at kept
    rw [allLinesAt, List.mem_append] at mem
    rcases mem with mem | mem
    · exact isInner_of_mem_linesAt deep c kept.1 t mem
    · exact isInner_of_mem_allLinesAt deep rest kept.2 t mem

end

/-- Code for the margin of a file: lines that begin no block, and blocks that end at the margin. -/
def AtMargin : Code → Prop
  | line text => text.opensBlock = false
  | block opening body closing =>
    opening.opensBlock ∧ allKeepDepth body ∧ closing.isInner = false ∧ closing.opensBlock = false
  | verbatim _ | deeper _ => False

/-- The block that code at the margin is read as. -/
def block? : Code → Option Block
  | block opening body _ => some ⟨opening, allLinesAt glueIndent 1 body⟩
  | line _ | verbatim _ | deeper _ => none

theorem indentedLine_zero (unit text : Text) : indentedLine unit 0 text = text := by
  rw [indentedLine]
  split
  case isTrue empty => exact (List.isEmpty_iff.mp empty).symm
  case isFalse => rfl

theorem readAll_allLinesAt {code : List Code} (h : ∀ c ∈ code, c.AtMargin) :
    Block.readAll (allLinesAt glueIndent 0 code) = code.filterMap block? := by
  induction code with
  | nil => rfl
  | cons c rest ih =>
      obtain ⟨first, others⟩ := List.forall_mem_cons.mp h
      rw [allLinesAt, List.filterMap_cons]
      cases c with
      | line text =>
          have plain : text.opensBlock = false := first
          simp [linesAt, indentedLine_zero, Block.readAll, plain, block?, ih others]
      | block opening body closing =>
          obtain ⟨opens, kept, margin, closes⟩ := first
          have inner := isInner_of_mem_allLinesAt (show (0 : Int) < 0 + 1 by decide) body kept
          simp only [linesAt, indentedLine_zero, List.cons_append, List.append_assoc,
            Block.readAll, opens, if_true, List.takeWhile_append_of_pos inner,
            Block.readAll_append_of_inner inner]
          simp [margin, closes, block?, ih others]
      | verbatim text | deeper body => exact first.elim

end Code

end ScriptBinding
