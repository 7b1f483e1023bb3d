import Mathlib.Data.List.Basic
import ScriptBinding.Text.CodePoint

/-!
The lines of a text, and texts that are put together from lines. Lines come back from the text
exactly if there is no line feed inside one of them.
-/
namespace ScriptBinding.Text

theorem lines_ne_nil (t : Text) : lines t ≠ [] := by
  cases t with
  | nil => simp [lines]
  | cons p t =>
      rw [lines]
      split
      · simp
      · split <;> simp

theorem lines_append_feed (t u : Text) : lines (t ++ .scalar '\n' :: u) = lines t ++ lines u := by
  induction t with
  | nil => rfl
  | cons p t ih =>
      rw [List.cons_append, lines, lines, ih]
      split
      · rfl
      · cases first : lines t with
        | nil => exact absurd first (lines_ne_nil t)
        | cons line others => rfl

theorem lines_of_plain {t : Text} (plain : .scalar '\n' ∉ t) : lines t = [t] := by
  induction t with
  | nil => rfl
  | cons p t ih =>
      obtain ⟨first, others⟩ := not_or.mp (mt List.mem_cons.mpr plain)
      rw [lines, if_neg (Ne.symm first), ih others]

theorem feed_not_mem_of_mem_lines {t line : Text} (mem : line ∈ t.lines) :
    .scalar '\n' ∉ line := by
  induction t generalizing line with
  | nil =>
      rw [lines, List.mem_singleton] at mem
      exact mem ▸ List.not_mem_nil
  | cons p t ih =>
      rw [lines] at mem
      split at mem
      case isTrue =>
        rcases List.mem_cons.mp mem with rfl | mem
        · exact List.not_mem_nil
        · exact ih mem
      case isFalse other =>
        cases rest : lines t with
        | nil => exact absurd rest (lines_ne_nil t)
        | cons first others =>
            rw [rest] at mem ih
            rcases List.mem_cons.mp mem with rfl | mem
            · rw [List.mem_cons, not_or]
              exact ⟨Ne.symm other, ih List.mem_cons_self⟩
            · exact ih (List.mem_cons_of_mem _ mem)

theorem mem_of_mem_lines {t line : Text} (listed : line ∈ t.lines) {p : CodePoint}
    (mem : p ∈ line) : p ∈ t := by
  induction t generalizing line with
  | nil =>
      rw [lines, List.mem_singleton] at listed
      exact listed ▸ mem
  | cons q t ih =>
      rw [lines] at listed
      split at listed
      case isTrue =>
        rcases List.mem_cons.mp listed with rfl | listed
        · exact absurd mem List.not_mem_nil
        · exact List.mem_cons_of_mem q (ih listed mem)
      case isFalse =>
        cases rest : lines t with
        | nil => exact absurd rest (lines_ne_nil t)
        | cons first others =>
            rw [rest] at listed ih
            rcases List.mem_cons.mp listed with rfl | listed
            · exact List.mem_cons.mpr ((List.mem_cons.mp mem).imp_right (ih List.mem_cons_self))
            · exact List.mem_cons_of_mem q (ih (List.mem_cons_of_mem _ listed) mem)

/-- A line feed ends every part. -/
theorem lines_join_append {parts : List Text} (some : parts ≠ []) (t : Text) :
    lines (join "\n" parts ++ .scalar '\n' :: t) = parts.flatMap lines ++ lines t := by
  induction parts with
  | nil => exact absurd rfl some
  | cons first rest ih =>
      cases rest with
      | nil =>
          have alone : join "\n" [first] = first := List.intercalate_singleton
          rw [alone, lines_append_feed, List.flatMap_cons, List.flatMap_nil, List.append_nil]
      | cons second rest =>
          have split : join "\n" (first :: second :: rest) ++ .scalar '\n' :: t =
              first ++ .scalar '\n' :: (join "\n" (second :: rest) ++ .scalar '\n' :: t) := by
            rw [join, List.intercalate_cons_cons, List.append_assoc, List.append_assoc]
            rfl
          rw [split, lines_append_feed, ih (List.cons_ne_nil _ _)]
          simp only [List.flatMap_cons, List.append_assoc]

theorem lines_join {parts : List Text} (some : parts ≠ []) :
    lines (join "\n" parts ++ "\n") = parts.flatMap lines ++ [[]] :=
  lines_join_append some []

theorem flatMap_lines_eq_iff {parts : List Text} :
    parts.flatMap lines = parts ↔ ∀ t ∈ parts, .scalar '\n' ∉ t := by
  constructor
  · intro same t mem
    rw [← same] at mem
    obtain ⟨u, -, line⟩ := List.mem_flatMap.mp mem
    exact feed_not_mem_of_mem_lines line
  · intro plain
    induction parts with
    | nil => rfl
    | cons first rest ih =>
        rw [List.forall_mem_cons] at plain
        rw [List.flatMap_cons, lines_of_plain plain.1, ih plain.2, List.singleton_append]

theorem lines_join_eq_iff {parts : List Text} (some : parts ≠ []) :
    lines (join "\n" parts ++ "\n") = parts ++ [[]] ↔ ∀ t ∈ parts, .scalar '\n' ∉ t := by
  rw [lines_join some, List.append_left_inj, flatMap_lines_eq_iff]

end ScriptBinding.Text
