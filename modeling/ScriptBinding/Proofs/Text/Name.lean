import Mathlib.Data.List.TakeWhile
import ScriptBinding.Text.Identifier

/-!
What identifiers are made of. An identifier is one word, its stem, with or without a line feed
behind it: the generated language takes a line feed for the end of a word. Every separator of that
language but the line feed is foreign to an identifier.
-/
namespace ScriptBinding

/-- The code points that an identifier can hold, the line feed at its end included. -/
def CodePoint.isNamePart (p : CodePoint) : Bool := p.continuesName || p = '\n'

namespace Text

theorem isNamePart_of_isNameTail {t : Text} (h : t.isNameTail) : ∀ p ∈ t, p.isNamePart := by
  induction t with
  | nil => simp
  | cons p rest ih =>
      rw [isNameTail] at h
      split at h
      case isTrue continues =>
        simpa [CodePoint.isNamePart, continues] using ih h
      case isFalse =>
        simp_all [CodePoint.isNamePart]

theorem isNamePart_of_isName {t : Text} (h : t.isName) : ∀ p ∈ t, p.isNamePart := by
  cases t with
  | nil => simp
  | cons p rest =>
      rw [isName, Bool.and_eq_true] at h
      have first : p.isNamePart := by simp [CodePoint.isNamePart, CodePoint.continuesName, h.1]
      simpa [first] using isNamePart_of_isNameTail h.2

theorem isName_of_isIdentifier {t : Text} (h : t.isIdentifier) : t.isName := by
  rw [isIdentifier, Bool.and_eq_true] at h
  exact h.1

theorem ne_nil_of_isIdentifier {t : Text} (h : t.isIdentifier) : t ≠ [] := by
  rintro rfl
  exact absurd h (by decide)

theorem isNamePart_of_isIdentifier {t : Text} (h : t.isIdentifier) : ∀ p ∈ t, p.isNamePart :=
  isNamePart_of_isName (isName_of_isIdentifier h)

/-- An identifier begins with a code point that any name may hold. -/
theorem exists_cons_of_isIdentifier {t : Text} (h : t.isIdentifier) :
    ∃ p rest, t = p :: rest ∧ p.continuesName ∧ isNameTail rest := by
  have name := isName_of_isIdentifier h
  cases t with
  | nil => exact absurd name (by decide)
  | cons p rest =>
      rw [isName, Bool.and_eq_true] at name
      exact ⟨p, rest, rfl, by simp [CodePoint.continuesName, name.1], name.2⟩

/-- A name without the line feed that may end it. -/
def stem (t : Text) : Text := t.takeWhile CodePoint.continuesName

theorem stem_append {t : Text} (h : ∀ p ∈ t, p.continuesName) (u : Text) :
    (t ++ u).stem = t ++ u.stem :=
  List.takeWhile_append_of_pos h

theorem stem_stem (t : Text) : t.stem.stem = t.stem := List.takeWhile_idem

/-- An identifier is its stem, or its stem and a line feed. -/
theorem eq_stem_or_of_isNameTail {t : Text} (h : t.isNameTail) :
    t = t.stem ∨ t = t.stem ++ "\n" := by
  induction t with
  | nil => exact .inl rfl
  | cons p rest ih =>
      rw [isNameTail] at h
      split at h
      case isTrue continues =>
        have first : stem (p :: rest) = p :: stem rest := by simp [stem, continues]
        rw [first]
        exact (ih h).imp (congrArg (p :: ·)) (congrArg (p :: ·))
      case isFalse other =>
        simp only [Bool.and_eq_true, decide_eq_true_eq, List.isEmpty_iff] at h
        obtain ⟨rfl, rfl⟩ := h
        exact .inr rfl

theorem feed_not_mem_stem (t : Text) : .scalar '\n' ∉ t.stem := fun mem =>
  absurd (List.mem_takeWhile_imp mem) (by decide)

theorem stem_append_feed (t u : Text) : (t ++ .scalar '\n' :: u).stem = t.stem := by
  induction t with
  | nil => rfl
  | cons p t ih =>
      simp only [stem, List.cons_append, List.takeWhile_cons]
      split
      · exact congrArg (p :: ·) ih
      · rfl

section
variable {tail : Text} (continues : ∀ p ∈ tail, p.continuesName)
include continues

theorem stem_append_of_plain {t : Text} (plain : t = t.stem) : (t ++ tail).stem = t ++ tail := by
  have every : ∀ p ∈ t ++ tail, p.continuesName := by
    rw [List.forall_mem_append]
    exact ⟨plain ▸ fun p mem => List.mem_takeWhile_imp mem, continues⟩
  exact List.takeWhile_eq_self_iff.mpr every

/-- Words with something behind them begin with the same word only if they are one, or if a line
feed behind one of them cuts this off. -/
theorem stem_append_eq_iff {t u : Text} (ht : t = t.stem ∨ t = t.stem ++ "\n")
    (hu : u = u.stem ∨ u = u.stem ++ "\n") :
    (t ++ tail).stem = (u ++ tail).stem ↔
      t = u ∨ t = u ++ (tail ++ "\n") ∨ u = t ++ (tail ++ "\n") := by
  have cut {name : Text} (fed : name = name.stem ++ "\n") : (name ++ tail).stem = name.stem := by
    have split : name ++ tail = name.stem ++ .scalar '\n' :: tail := by
      refine (congrArg (· ++ tail) fed).trans ?_
      rw [List.append_assoc]
      rfl
    rw [split, stem_append_feed, stem_stem]
  have again {name other : Text} (same : name = other ++ (tail ++ "\n")) :
      (name ++ tail).stem = (other ++ tail).stem := by
    have split : name ++ tail = (other ++ tail) ++ .scalar '\n' :: tail := by
      rw [same, List.append_assoc, List.append_assoc, List.append_assoc]
      rfl
    rw [split, stem_append_feed]
  constructor
  · intro same
    rcases ht with plain | fed <;> rcases hu with plain' | fed'
    · rw [stem_append_of_plain continues plain, stem_append_of_plain continues plain'] at same
      exact .inl (List.append_cancel_right same)
    · rw [stem_append_of_plain continues plain, cut fed'] at same
      exact .inr (.inr (fed'.trans (by rw [← same, List.append_assoc])))
    · rw [cut fed, stem_append_of_plain continues plain'] at same
      exact .inr (.inl (fed.trans (by rw [same, List.append_assoc])))
    · rw [cut fed, cut fed'] at same
      exact .inl (fed.trans (same ▸ fed'.symm))
  · rintro (rfl | left | right)
    · rfl
    · exact again left
    · exact (again right).symm

end

section
variable {t : Text} (h : t.isIdentifier)
include h

theorem stem_ne_nil : t.stem ≠ [] := by
  obtain ⟨p, rest, rfl, first, -⟩ := exists_cons_of_isIdentifier h
  simp [stem, first]

theorem eq_stem_or : t = t.stem ∨ t = t.stem ++ "\n" := by
  obtain ⟨p, rest, rfl, first, tail⟩ := exists_cons_of_isIdentifier h
  apply eq_stem_or_of_isNameTail
  rwa [isNameTail, if_pos first]

end

/-- One word, with or without a line feed behind it. -/
def isWord (t : Text) : Bool := !t.stem.isEmpty && (t = t.stem || t = t.stem ++ "\n")

theorem isWord_iff {t : Text} : t.isWord ↔ t.stem ≠ [] ∧ (t = t.stem ∨ t = t.stem ++ "\n") := by
  simp [isWord]

theorem isNamePart_of_isWord {t : Text} (h : t.isWord) : ∀ p ∈ t, p.isNamePart := by
  have stem : ∀ p ∈ t.stem, p.isNamePart := fun p mem => by
    have continues : p.continuesName := List.mem_takeWhile_imp mem
    simp [CodePoint.isNamePart, continues]
  rcases (isWord_iff.mp h).2 with plain | ended
  · exact plain ▸ stem
  · rw [ended, List.forall_mem_append]
    exact ⟨stem, List.forall_mem_singleton.mpr rfl⟩

theorem isWord_of_isIdentifier {t : Text} (h : t.isIdentifier) : t.isWord :=
  isWord_iff.mpr ⟨stem_ne_nil h, eq_stem_or h⟩

/-- A word without a line feed joins the one behind it. -/
theorem isWord_append {t u : Text} (ht : ∀ p ∈ t, p.continuesName) (hu : u.isWord) :
    (t ++ u).isWord := by
  obtain ⟨some, spelled⟩ := isWord_iff.mp hu
  rw [isWord_iff, stem_append ht]
  refine ⟨List.append_ne_nil_of_right_ne_nil t some, ?_⟩
  rw [List.append_assoc, List.append_right_inj, List.append_right_inj]
  exact spelled

/-- What cannot stand in a name does not stand in a word. -/
theorem not_mem_of_isWord {t : Text} (h : t.isWord) {p : CodePoint}
    (foreign : p.isNamePart = false) : p ∉ t := fun mem => by
  simp [isNamePart_of_isWord h p mem] at foreign

theorem not_mem_of_isIdentifier {t : Text} (h : t.isIdentifier) {p : CodePoint}
    (foreign : p.isNamePart = false) : p ∉ t :=
  not_mem_of_isWord (isWord_of_isIdentifier h) foreign

end Text

end ScriptBinding
