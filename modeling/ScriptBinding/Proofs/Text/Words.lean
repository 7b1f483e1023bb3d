import ScriptBinding.Proofs.Text.Lines
import ScriptBinding.Proofs.Text.Name

/-!
The words that a name is read as. An identifier is one word; a name that is made by appending to an
identifier comes apart into two words if a line feed is caught inside.
-/
namespace ScriptBinding.Text

/-- The words of a name: what stands between its line feeds. -/
def words (t : Text) : List Text := t.lines.filter (!·.isEmpty)

theorem words_append_feed (t u : Text) : words (t ++ .scalar '\n' :: u) = words t ++ words u := by
  rw [words, lines_append_feed, List.filter_append]
  rfl

theorem words_of_plain {t : Text} (some : t ≠ []) (plain : .scalar '\n' ∉ t) : words t = [t] := by
  simp [words, lines_of_plain plain, some]

section
variable {t : Text} (h : t.isIdentifier)
include h

theorem words_of_isIdentifier : t.words = [t.stem] := by
  have plain := words_of_plain (stem_ne_nil h) (feed_not_mem_stem t)
  rcases eq_stem_or h with same | ended
  · exact (congrArg words same).trans plain
  · calc
      words t = words (t.stem ++ .scalar '\n' :: []) := congrArg words ended
      _ = words t.stem ++ words [] := words_append_feed _ []
      _ = [t.stem] := by rw [plain]; rfl

/-- Identifiers that are read as the same words are told apart by a line feed at most. -/
theorem words_eq_words_iff {u : Text} (hu : u.isIdentifier) :
    t.words = u.words ↔ t = u ∨ t = u ++ "\n" ∨ u = t ++ "\n" := by
  have stems := stem_append_eq_iff (List.forall_mem_nil _) (eq_stem_or h) (eq_stem_or hu)
  rw [words_of_isIdentifier h, words_of_isIdentifier hu, List.singleton_inj]
  simpa using stems

/-- What is appended to an identifier joins its stem, or becomes a word of its own. -/
theorem words_append {s : Text} (some : s ≠ []) (plain : .scalar '\n' ∉ s) :
    t = t.stem ∧ (t ++ s).words = [t.stem ++ s] ∨
      t = t.stem ++ "\n" ∧ (t ++ s).words = [t.stem, s] := by
  rcases eq_stem_or h with same | ended
  · refine .inl ⟨same, ?_⟩
    rw [← same]
    apply words_of_plain (List.append_ne_nil_of_right_ne_nil t some)
    rw [List.mem_append, not_or]
    exact ⟨same ▸ feed_not_mem_stem t, plain⟩
  · refine .inr ⟨ended, ?_⟩
    have split : t ++ s = t.stem ++ .scalar '\n' :: s := by
      refine (congrArg (· ++ s) ended).trans ?_
      simp [ofString]
    rw [split, words_append_feed, words_of_plain (stem_ne_nil h) (feed_not_mem_stem t),
      words_of_plain some plain]
    rfl

/-- The word of an identifier is what an appended name is read as only if it is spelled so. -/
theorem words_eq_words_append_iff {u s : Text} (hu : u.isIdentifier) (some : s ≠ [])
    (plain : .scalar '\n' ∉ s) : u.words = (t ++ s).words ↔ u.stem = t ++ s := by
  rw [words_of_isIdentifier hu]
  rcases words_append h some plain with ⟨same, joined⟩ | ⟨ended, apart⟩
  · rw [joined, ← same]
    simp
  · have caught : u.stem ≠ t ++ s := by
      intro spelled
      apply feed_not_mem_stem u
      rw [spelled, ended]
      simp [ofString]
    simp [apart, caught]

theorem words_append_injective {u s s' : Text} (hu : u.isIdentifier) (some : s ≠ [])
    (plain : .scalar '\n' ∉ s) (plain' : .scalar '\n' ∉ s') (long : s.length = s'.length)
    (same : (t ++ s).words = (u ++ s').words) : t = u ∧ s = s' := by
  have some' : s' ≠ [] := by
    rintro rfl
    exact some (List.length_eq_zero_iff.mp long)
  rcases words_append h some plain with ⟨first, joined⟩ | ⟨first, apart⟩
  · rcases words_append hu some' plain' with ⟨second, joined'⟩ | ⟨-, apart'⟩
    · rw [joined, joined', List.singleton_inj] at same
      obtain ⟨stems, tails⟩ := List.append_inj' same long
      exact ⟨first.trans (stems.trans second.symm), tails⟩
    · simp [joined, apart'] at same
  · rcases words_append hu some' plain' with ⟨-, joined'⟩ | ⟨second, apart'⟩
    · simp [apart, joined'] at same
    · simp only [apart, apart', List.cons.injEq, and_true] at same
      refine ⟨first.trans ?_, same.2⟩
      rw [same.1]
      exact second.symm

end

end ScriptBinding.Text
