import ScriptBinding.Proofs.Text.Literal

/-!
Escaping and its reader. A reader takes the inside of a literal apart into code points and escapes
without judging them; what was escaped comes apart into known escapes and code points that may stand
in a literal, one for each code point. Escaping in one pass is replacing one mark after the other, the
backslash first.
-/
namespace ScriptBinding

/-- A piece of the inside of a literal: a code point that no backslash stands before, a backslash
with the code point behind it, or a backslash at the end. -/
inductive Piece where
  | plain (p : CodePoint)
  | escape (p : CodePoint)
  | cut
deriving DecidableEq

namespace Piece

/-- One of the five escapes, or a code point that may stand in a literal as it is. -/
def IsSound : Piece → Prop
  | plain p => ∀ e ∈ CodePoint.escapes, p ≠ .scalar e.1
  | escape p => ∃ e ∈ CodePoint.escapes, p = .scalar e.2
  | cut => False

/-- The code point that a piece stands for. -/
def stands? : Piece → Option CodePoint
  | plain p => some p
  | escape p => p.escaped?
  | cut => none

end Piece

namespace Text

/-- The pieces of the inside of a literal, whatever stands there. -/
def scanned : Text → List Piece
  | [] => []
  | [.scalar '\\'] => [.cut]
  | .scalar '\\' :: p :: rest => .escape p :: scanned rest
  | p :: rest => .plain p :: scanned rest

/-- A text with `replacement` for each `mark`. -/
def replaced (t : Text) (mark : Char) (replacement : Text) : Text :=
  t.flatMap fun p => if p = .scalar mark then replacement else [p]

/-- One code point, written into a literal, is one piece that stands for it. -/
theorem exists_piece_quoted (p : CodePoint) :
    ∃ piece : Piece, piece.IsSound ∧ piece.stands? = some p ∧
      ∀ rest, scanned (p.quoted ++ rest) = piece :: scanned rest := by
  rcases p.isPlain_or_escaped with plain | ⟨e, listed, rfl⟩
  · have other := CodePoint.isPlain_iff.mp plain
    have backslash : p ≠ '\\' := other ('\\', '\\') (by decide)
    rw [CodePoint.quoted_of_isPlain plain]
    exact ⟨.plain p, other, rfl, fun rest => by simp [scanned, backslash]⟩
  · obtain ⟨written, stands⟩ := CodePoint.quoted_of_mem_escapes e listed
    rw [written]
    exact ⟨.escape (.scalar e.2), ⟨e, listed, rfl⟩, stands, fun _ => rfl⟩

theorem isSound_of_mem_scanned (t : Text) : ∀ piece ∈ t.quoted.scanned, piece.IsSound := by
  induction t with
  | nil => exact fun _ none => absurd none List.not_mem_nil
  | cons p t ih =>
      obtain ⟨piece, sound, -, scan⟩ := exists_piece_quoted p
      rw [quoted_cons, scan, List.forall_mem_cons]
      exact ⟨sound, ih⟩

theorem map_stands?_scanned (t : Text) : t.quoted.scanned.map Piece.stands? = t.map some := by
  induction t with
  | nil => rfl
  | cons p t ih =>
      obtain ⟨piece, -, stands, scan⟩ := exists_piece_quoted p
      rw [quoted_cons, scan, List.map_cons, List.map_cons, stands, ih]

theorem quoted_injective : Function.Injective quoted := by
  intro t u same
  have first := literal?_quoted_append t []
  rw [same, literal?_quoted_append] at first
  exact (congrArg Prod.fst (Option.some.inj first)).symm

/-- The five replacements, each over what the ones before have written. -/
def replacedInTurn (t : Text) : Text :=
  ((((t.replaced '\\' "\\\\").replaced '"' "\\\"").replaced '\n' "\\n").replaced
    '\t' "\\t").replaced '\r' "\\r"

theorem replacedInTurn_append (t u : Text) :
    replacedInTurn (t ++ u) = replacedInTurn t ++ replacedInTurn u := by
  simp only [replacedInTurn, replaced, List.flatMap_append]

/-- No replacement touches what an earlier one has written. -/
theorem replacedInTurn_singleton (p : CodePoint) : replacedInTurn [p] = p.quoted := by
  have escaped : ∀ e ∈ CodePoint.escapes,
      replacedInTurn [.scalar e.1] = (CodePoint.scalar e.1).quoted := by decide
  rcases p.isPlain_or_escaped with plain | ⟨e, listed, rfl⟩
  · rw [CodePoint.quoted_of_isPlain plain]
    rw [CodePoint.isPlain_iff] at plain
    simp only [CodePoint.escapes, List.forall_mem_cons] at plain
    simp [replacedInTurn, replaced, plain]
  · exact escaped e listed

theorem replacedInTurn_eq (t : Text) : replacedInTurn t = t.quoted := by
  induction t with
  | nil => rfl
  | cons p t ih =>
      rw [← List.singleton_append, replacedInTurn_append, replacedInTurn_singleton, ih]
      rfl

/-- What is escaped comes apart into the five escapes and code points that may stand in a literal,
which stand for the text, and reads back up to the quotation mark that ends the literal. Different
texts are escaped differently, and texts one after the other each on its own. Escaping in one pass is
replacing the backslashes, quotation marks, line feeds, tabs and carriage returns in turn. -/
theorem quoted_reads_back (t : Text) :
    (∀ piece ∈ t.quoted.scanned, piece.IsSound) ∧
      t.quoted.scanned.map Piece.stands? = t.map some ∧
      (∀ rest, literal? (t.quoted ++ .scalar '"' :: rest) = some (t, rest)) ∧
      Function.Injective quoted ∧
      (∀ u : Text, quoted (t ++ u) = t.quoted ++ u.quoted) ∧
      t.replacedInTurn = t.quoted :=
  ⟨t.isSound_of_mem_scanned, t.map_stands?_scanned, t.literal?_quoted_append, quoted_injective,
    t.quoted_append, t.replacedInTurn_eq⟩

theorem quoted_reads_back_quotation :
    let t : Text := "\\n is \"\n\""
    t.quoted = "\\\\n is \\\"\\n\\\"" ∧
      Piece.escape 'n' ∈ t.quoted.scanned ∧ (Piece.escape 'n').IsSound ∧
      literal? (t.quoted ++ "\");") = some (t, ofString ");") := by
  intro t
  obtain ⟨sound, -, read, -⟩ := quoted_reads_back t
  have listed : Piece.escape 'n' ∈ t.quoted.scanned := by decide
  exact ⟨by decide, listed, sound _ listed, read ");"⟩

end Text

end ScriptBinding
