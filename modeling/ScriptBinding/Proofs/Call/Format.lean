import ScriptBinding.Call.Trace
import ScriptBinding.Proofs.Text.Literal

/-!
Messages about the number of arguments. A name without a percent sign is no format of its own, so
that the message of a call can be filled in and shows the name as it is; it prints the same out of
the generated code.
-/
namespace ScriptBinding

namespace CallMessage

theorem shownFrom_none_of_plain {t : Text} (plain : .scalar '%' ∉ t) :
    shownFrom none false t = .ok t := by
  induction t with
  | nil => rfl
  | cons p rest ih =>
      obtain ⟨first, others⟩ := not_or.mp (mt List.mem_cons.mpr plain)
      simp only [shownFrom, Ne.symm first, if_false, ih others]
      rfl

theorem shown_of_plain {name : Text} (plain : .scalar '%' ∉ name) : shown name = .ok name := by
  have closed : (.scalar '%' : CodePoint) ∉ name ++ ("'" : Text) := by
    rw [List.mem_append, not_or]
    exact ⟨plain, by decide⟩
  rw [shown, shownFrom_none_of_plain closed]
  exact congrArg Except.ok (List.dropLast_concat)

theorem tooFew_of_plain {name : Text} (plain : .scalar '%' ∉ name) (required : Int) (count : Nat) :
    tooFew name required count =
      .ok (opening ++ name ++ tooFewTail required ++ Text.decimal count ++ closing) := by
  rw [tooFew, filled, shown_of_plain plain]
  rfl

theorem tooMany_of_plain {name : Text} (plain : .scalar '%' ∉ name) (accepted : Int)
    (count : Nat) :
    tooMany name accepted count =
      .ok (opening ++ name ++ tooManyTail accepted ++ Text.decimal count ++ closing) := by
  rw [tooMany, filled, shown_of_plain plain]
  rfl

theorem isVerbatim_around {start finish : Text} (hs : ∀ p ∈ start, p.isVerbatim)
    (hf : ∀ p ∈ finish, p.isVerbatim) (n : Int) :
    ∀ p ∈ start ++ Text.signedDecimal n ++ finish, p.isVerbatim := by
  intro p mem
  rcases List.mem_append.mp mem with mem | mem
  · rcases List.mem_append.mp mem with mem | mem
    · exact hs p mem
    · exact Text.isVerbatim_of_mem_signedDecimal p mem
  · exact hf p mem

theorem isVerbatim_tooFewTail (n : Int) : ∀ p ∈ tooFewTail n, p.isVerbatim :=
  isVerbatim_around (by decide) (by decide) n

theorem isVerbatim_tooManyTail (n : Int) : ∀ p ∈ tooManyTail n, p.isVerbatim :=
  isVerbatim_around (by decide) (by decide) n

section
variable {tail : Text} (verbatim : ∀ p ∈ tail, p.isVerbatim)
include verbatim

/-- Only the name in a format has anything to be quoted. -/
theorem quoted_format (name : Text) :
    Text.quoted (opening ++ name ++ tail ++ "%d" ++ closing) =
      opening ++ name.quoted ++ tail ++ "%d" ++ closing := by
  have plain := Text.quoted_of_isPlain fun p mem => CodePoint.isPlain_of_isVerbatim (verbatim p mem)
  simp only [Text.quoted_append, plain]
  rfl

theorem printed?_format {name : Text} (plain : .scalar '%' ∉ name) (count : Nat) :
    Text.printed? [count] (opening ++ name ++ tail ++ "%d" ++ closing) =
      some (opening ++ name ++ tail ++ Text.decimal count ++ closing) := by
  have start : .scalar '%' ∉ opening := by decide
  have middle := Text.percent_not_mem_of_isVerbatim verbatim
  simp only [List.append_assoc]
  rw [Text.printed?_plain_append _ start, Text.printed?_plain_append _ plain,
    Text.printed?_plain_append _ middle]
  rfl

end

end CallMessage

end ScriptBinding
