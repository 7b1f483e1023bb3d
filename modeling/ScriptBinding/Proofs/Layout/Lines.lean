import ScriptBinding.Glue.Generate

/-!
The lines of code, said without an emitter. Writing code adds exactly these lines and leaves the
depth as it was, so that what stands before and after it does not matter.
-/
namespace ScriptBinding

/-- A line of text at a depth; an empty one is not indented. -/
def indentedLine (unit : Text) (depth : Int) (text : Text) : Text :=
  if text.isEmpty then [] else Text.replicate depth unit ++ text

theorem eq_space_of_mem_replicate {depth : Int} :
    ∀ p ∈ Text.replicate depth glueIndent, p = .scalar ' ' := by
  simp only [Text.replicate, List.mem_flatten, List.mem_replicate]
  rintro p ⟨unit, ⟨-, rfl⟩, mem⟩
  revert p
  decide

theorem dropWhile_indentedLine (depth : Int) (text : Text) :
    (indentedLine glueIndent depth text).dropWhile (· = .scalar ' ') =
      text.dropWhile (· = .scalar ' ') := by
  rw [indentedLine]
  split
  case isTrue empty => rw [List.isEmpty_iff.mp empty]
  case isFalse =>
    rw [List.dropWhile_append_of_pos (by simpa using eq_space_of_mem_replicate)]

namespace Code

mutual

def linesAt (unit : Text) (depth : Int) : Code → List Text
  | line text => [indentedLine unit depth text]
  | verbatim text => [text]
  | block opening body closing =>
    indentedLine unit depth opening ::
      (allLinesAt unit (depth + 1) body ++ [indentedLine unit depth closing])
  | deeper body => allLinesAt unit (depth + 1) body

def allLinesAt (unit : Text) (depth : Int) : List Code → List Text
  | [] => []
  | c :: rest => c.linesAt unit depth ++ allLinesAt unit depth rest

end

mutual

theorem write_eq (e : Emitter) : (c : Code) →
    c.write e = { e with lines := e.lines ++ (c.linesAt e.unit e.depth).toArray }
  | line text => by simp [write, linesAt, Emitter.line, Emitter.verbatim, indentedLine]
  | verbatim text => by simp [write, linesAt, Emitter.verbatim]
  | block opening body closing => by
    rw [write, writeAll_eq _ body]
    simp [linesAt, Emitter.enter, Emitter.leave, Emitter.deepen, Emitter.raise, Emitter.line,
      Emitter.verbatim, indentedLine]
  | deeper body => by
    rw [write, writeAll_eq _ body]
    simp [linesAt, Emitter.deepen, Emitter.raise]

theorem writeAll_eq (e : Emitter) : (code : List Code) →
    writeAll code e = { e with lines := e.lines ++ (allLinesAt e.unit e.depth code).toArray }
  | [] => by simp [writeAll, allLinesAt]
  | c :: rest => by
    rw [writeAll, writeAll_eq _ rest, write_eq e c]
    simp [allLinesAt]

end

theorem allLinesAt_append (unit : Text) (depth : Int) (code others : List Code) :
    allLinesAt unit depth (code ++ others) =
      allLinesAt unit depth code ++ allLinesAt unit depth others := by
  induction code with
  | nil => rfl
  | cons c rest ih => simp [allLinesAt, ih]

end Code

theorem Emitter.toList_lines_hold (code : List Code) :
    ((fresh glueIndent).hold code).lines.toList = Code.allLinesAt glueIndent 0 code := by
  rw [hold, Code.writeAll_eq]
  simp [reset, fresh]

end ScriptBinding
