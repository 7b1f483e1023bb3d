import ScriptBinding.Proofs.Text.Scan
import ScriptBinding.Text.Quoted

/-!
String literals and formats of the generated language. What is quoted reads back, up to the
quotation mark that ends the literal, and a format whose only directive is `%d` shows its number
there.
-/
namespace ScriptBinding

namespace CodePoint

/-- What a backslash and this code point stand for. -/
def escaped? (p : CodePoint) : Option CodePoint :=
  if p = '\\' then some '\\'
  else if p = '"' then some '"'
  else if p = 'n' then some '\n'
  else if p = 't' then some '\t'
  else if p = 'r' then some '\r'
  else none

/-- The code point stands for itself in a literal. -/
def isPlain (p : CodePoint) : Bool :=
  p ≠ '\\' && p ≠ '"' && p ≠ '\n' && p ≠ '\t' && p ≠ '\r'

/-- What is escaped, each with the letter that stands for it behind a backslash. -/
def escapes : List (Char × Char) :=
  [('\\', '\\'), ('"', '"'), ('\n', 'n'), ('\t', 't'), ('\r', 'r')]

theorem isPlain_iff {p : CodePoint} : p.isPlain ↔ ∀ e ∈ escapes, p ≠ .scalar e.1 := by
  simp [isPlain, escapes, and_assoc]

/-- A code point stands for itself, or is one of those that are escaped. -/
theorem isPlain_or_escaped (p : CodePoint) : p.isPlain ∨ ∃ e ∈ escapes, p = .scalar e.1 := by
  by_cases plain : p.isPlain
  · exact .inl plain
  · simp only [isPlain_iff, Classical.not_forall, Decidable.not_not] at plain
    obtain ⟨e, listed, same⟩ := plain
    exact .inr ⟨e, listed, same⟩

theorem quoted_of_mem_escapes : ∀ e ∈ escapes,
    (scalar e.1).quoted = [.scalar '\\', .scalar e.2] ∧ (scalar e.2).escaped? = some (scalar e.1) := by
  decide

theorem quoted_of_isPlain {p : CodePoint} (h : p.isPlain) : p.quoted = [p] := by
  simp only [isPlain, ne_eq, decide_not, Bool.and_eq_true, Bool.not_eq_true',
    decide_eq_false_iff_not] at h
  obtain ⟨⟨⟨⟨backslash, quote⟩, feed⟩, tab⟩, carriage⟩ := h
  rw [quoted, if_neg backslash, if_neg quote, if_neg feed, if_neg tab, if_neg carriage]

/-- The code point stands for itself in a format inside a literal. -/
def isVerbatim (p : CodePoint) : Bool := p.isPlain && p ≠ '%'

theorem isPlain_of_isVerbatim {p : CodePoint} (h : p.isVerbatim) : p.isPlain := by
  rw [isVerbatim, Bool.and_eq_true] at h
  exact h.1

theorem isVerbatim_of_isDigit {p : CodePoint} (h : p.isDigit) : p.isVerbatim := by
  have digit (q : CodePoint) (other : q.isDigit = false) : p ≠ q := by
    intro same
    rw [same, other] at h
    exact absurd h (by decide)
  simp [isVerbatim, isPlain, digit '\\' rfl, digit '"' rfl, digit '\n' rfl, digit '\t' rfl,
    digit '\r' rfl, digit '%' rfl]

end CodePoint

namespace Text

/-- The content of a literal behind its opening quotation mark, and what follows the closing one.
`escaping` says that a backslash has been read. -/
def literalFrom (escaping : Bool) : Text → Option (Text × Text)
  | [] => none
  | p :: t =>
    if escaping then do
      let stood ← p.escaped?
      let (content, rest) ← literalFrom false t
      some (stood :: content, rest)
    else if p = '"' then some ([], t)
    else if p = '\\' then literalFrom true t
    else if p.isPlain then (literalFrom false t).map fun (content, rest) => (p :: content, rest)
    else none

def literal? (t : Text) : Option (Text × Text) := literalFrom false t

/-- One code point, written into a literal, reads back. -/
theorem literal?_quoted_point (p : CodePoint) (t : Text) :
    literal? (p.quoted ++ t) = (literal? t).map fun (content, rest) => (p :: content, rest) := by
  rcases p.isPlain_or_escaped with plain | ⟨e, listed, rfl⟩
  · have other := CodePoint.isPlain_iff.mp plain
    have quote : p ≠ '"' := other ('"', '"') (by decide)
    have backslash : p ≠ '\\' := other ('\\', '\\') (by decide)
    rw [CodePoint.quoted_of_isPlain plain]
    simp [literal?, literalFrom, plain, quote, backslash]
  · obtain ⟨written, stands⟩ := CodePoint.quoted_of_mem_escapes e listed
    rw [written]
    cases read : literalFrom false t <;> simp [literal?, literalFrom, stands, read]

theorem quoted_cons (p : CodePoint) (t : Text) : quoted (p :: t) = p.quoted ++ quoted t := rfl

theorem literal?_quoted_append (t rest : Text) :
    literal? (t.quoted ++ .scalar '"' :: rest) = some (t, rest) := by
  induction t with
  | nil => rfl
  | cons p t ih =>
      rw [quoted_cons, List.append_assoc, literal?_quoted_point, ih]
      rfl

theorem quoted_append (t u : Text) : quoted (t ++ u) = quoted t ++ quoted u :=
  List.flatMap_append

theorem quoted_of_isPlain {t : Text} (plain : ∀ p ∈ t, p.isPlain) : quoted t = t := by
  induction t with
  | nil => rfl
  | cons p t ih =>
      obtain ⟨first, others⟩ := List.forall_mem_cons.mp plain
      rw [quoted_cons, CodePoint.quoted_of_isPlain first, ih others, List.singleton_append]

/-- A format filled in with numbers, one for each `%d`. -/
def printed? : List Nat → Text → Option Text
  | _, [] => some []
  | numbers, .scalar '%' :: .scalar '%' :: t => (printed? numbers t).map ('%' :: ·)
  | n :: numbers, .scalar '%' :: .scalar 'd' :: t => (printed? numbers t).map (decimal n ++ ·)
  | numbers, p :: t => if p = '%' then none else (printed? numbers t).map (p :: ·)

theorem printed?_plain_append (numbers : List Nat) {t : Text} (plain : .scalar '%' ∉ t)
    (rest : Text) : printed? numbers (t ++ rest) = (printed? numbers rest).map (t ++ ·) := by
  induction t with
  | nil => simp
  | cons p t ih =>
      obtain ⟨first, others⟩ := not_or.mp (mt List.mem_cons.mpr plain)
      rw [List.cons_append, printed?]
      · simp [Ne.symm first, ih others, Function.comp_def]
      · rintro _ rfl
        exact absurd rfl first
      · rintro _ _ _ _ rfl
        exact absurd rfl first

theorem isVerbatim_of_mem_signedDecimal {n : Int} : ∀ p ∈ signedDecimal n, p.isVerbatim := by
  have digits (k : Nat) : ∀ p ∈ decimal k, p.isVerbatim := fun p mem =>
    CodePoint.isVerbatim_of_isDigit (isDigit_of_mem_decimal p mem)
  cases n with
  | ofNat k => exact digits k
  | negSucc k => exact List.forall_mem_cons.mpr ⟨by decide, digits (k + 1)⟩

theorem percent_not_mem_of_isVerbatim {t : Text} (h : ∀ p ∈ t, p.isVerbatim) :
    .scalar '%' ∉ t := fun mem =>
  absurd (h _ mem) (by decide)

end Text

end ScriptBinding
