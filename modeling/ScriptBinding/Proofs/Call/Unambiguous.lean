import Mathlib.Logic.Function.Iterate
import ScriptBinding.Call.Operator
import ScriptBinding.Proofs.Interface.Representable
import ScriptBinding.Proofs.Interface.WellFormed
import ScriptBinding.Proofs.Text.Scan

/-!
What the text of an operator tells. Where all names are words, the marks around the arguments show
where each one begins and ends, and no two operators are written alike. The operator of a type tells
how many sequences the type has and what its values are converted with below them, and no more.
-/
namespace ScriptBinding

/-- A text that may stand behind an operator: nothing, or what follows an argument. -/
def Text.EndsArgument (t : Text) : Prop := ∀ p ∈ t.head?, p = .scalar ',' ∨ p = .scalar '>'

theorem Text.endsArgument_nil : EndsArgument [] := fun _ first => nomatch first

namespace Operator

/-- The names of an operator and of all that it is made from are words. -/
inductive IsWorded : Operator → Prop
  | intro {name : Text} {arguments : List Operator} (word : name.isWord)
      (inside : ∀ o ∈ arguments, o.IsWorded) : IsWorded ⟨name, arguments⟩

/-- What is written behind the first argument, when these are the others. -/
def writtenBehind : List Operator → Text
  | [] => ">"
  | o :: rest => ", " ++ (o.written ++ writtenBehind rest)

/-- What is written behind a name that has these arguments. -/
def bracketed : List Operator → Text
  | [] => []
  | first :: others => "<" ++ (first.written ++ writtenBehind others)

theorem join_writtenAll (first : Operator) (others : List Operator) :
    Text.join ", " (first.written :: writtenAll others) ++ ">" =
      first.written ++ writtenBehind others := by
  induction others generalizing first with
  | nil => rw [writtenAll, Text.join, List.intercalate_singleton, writtenBehind]
  | cons o rest ih =>
      rw [writtenAll, Text.join, List.intercalate_cons_cons, ← Text.join, List.append_assoc,
        List.append_assoc, ih, writtenBehind]

theorem written_eq (name : Text) (arguments : List Operator) :
    written ⟨name, arguments⟩ = name ++ bracketed arguments := by
  cases arguments with
  | nil => rw [written, bracketed, List.append_nil]
  | cons first others =>
      rw [written, List.append_assoc, join_writtenAll, bracketed, List.append_assoc]

theorem endsArgument_writtenBehind (others : List Operator) (rest : Text) :
    (writtenBehind others ++ rest).EndsArgument := by
  cases others with
  | nil => exact fun _ first => .inr (Option.some.inj first).symm
  | cons _ _ => exact fun _ first => .inl (Option.some.inj first).symm

/-- No name goes on with what is written behind it. -/
theorem name_ended {arguments : List Operator} {rest : Text} (ended : rest.EndsArgument) :
    (bracketed arguments ++ rest).head?.all fun p => !p.isNamePart := by
  cases arguments with
  | nil =>
      rw [bracketed, List.nil_append, Option.all_eq_true]
      intro p first
      rcases ended p first with rfl | rfl <;> rfl
  | cons _ _ => rfl

/-- The text of the operator, with anything behind it that ends an argument, tells the operator. -/
def IsTold (o : Operator) : Prop :=
  ∀ p : Operator, p.IsWorded → ∀ r s : Text, r.EndsArgument → s.EndsArgument →
    o.written ++ r = p.written ++ s → o = p ∧ r = s

section
variable {as bs : List Operator} (told : ∀ o ∈ as, o.IsTold) (worded : ∀ o ∈ bs, o.IsWorded)
include told worded

theorem writtenBehind_append_inj {r s : Text}
    (same : writtenBehind as ++ r = writtenBehind bs ++ s) : as = bs ∧ r = s := by
  induction as generalizing bs with
  | nil =>
      cases bs with
      | nil => exact ⟨rfl, List.append_cancel_left same⟩
      | cons b bs => exact absurd (List.cons.inj same).1 (by decide)
  | cons a as ih =>
      cases bs with
      | nil => exact absurd (List.cons.inj same).1 (by decide)
      | cons b bs =>
          rw [List.forall_mem_cons] at told worded
          simp only [writtenBehind, List.append_assoc, List.append_cancel_left_eq] at same
          obtain ⟨rfl, behind⟩ := told.1 b worded.1 _ _ (endsArgument_writtenBehind as r)
            (endsArgument_writtenBehind bs s) same
          obtain ⟨rfl, rfl⟩ := ih told.2 worded.2 behind
          exact ⟨rfl, rfl⟩

/-- The mark that opens arguments ends none, so that both operators have arguments or neither
has. -/
theorem bracketed_append_inj {r s : Text} (endsR : r.EndsArgument) (endsS : s.EndsArgument)
    (same : bracketed as ++ r = bracketed bs ++ s) : as = bs ∧ r = s := by
  have unopened {t u : Text} (ends : t.EndsArgument) : t ≠ .scalar '<' :: u := by
    rintro rfl
    exact absurd (ends _ rfl) (by decide)
  cases as with
  | nil =>
      cases bs with
      | nil => exact ⟨rfl, same⟩
      | cons b bs => exact absurd same (unopened endsR)
  | cons a as =>
      cases bs with
      | nil => exact absurd same.symm (unopened endsS)
      | cons b bs =>
          have behind : writtenBehind (a :: as) ++ r = writtenBehind (b :: bs) ++ s := by
            simpa only [bracketed, writtenBehind, List.append_assoc,
              List.append_cancel_left_eq] using same
          exact writtenBehind_append_inj told worded behind

end

/-- Two operators at once: equal texts begin with one name, and go on with equal arguments. -/
theorem IsWorded.isTold {o : Operator} (h : o.IsWorded) : o.IsTold := by
  induction h with
  | @intro name arguments word inside told =>
      rintro ⟨name', arguments'⟩ (⟨word', inside'⟩) r s endsR endsS same
      rw [written_eq, written_eq, List.append_assoc, List.append_assoc] at same
      have read := congrArg Text.word same
      rw [Text.word_append word (name_ended endsR),
        Text.word_append word' (name_ended endsS)] at read
      obtain ⟨rfl, behind⟩ := Prod.mk.inj read
      obtain ⟨rfl, rfl⟩ := bracketed_append_inj told inside' endsR endsS behind
      exact ⟨rfl, rfl⟩

theorem IsWorded.written_inj {o p : Operator} (ho : o.IsWorded) (hp : p.IsWorded) :
    o.written = p.written ↔ o = p := by
  refine ⟨fun same => ?_, congrArg written⟩
  exact (ho.isTold p hp [] [] Text.endsArgument_nil Text.endsArgument_nil
    (congrArg (· ++ []) same)).1

/-- A name that is no word can be mistaken for an operator with arguments. -/
example : (plain "IDLSequence<Node>").written = (sequence (plain "Node")).written := rfl

theorem IsWorded.plain {name : Text} (word : name.isWord) : (plain name).IsWorded :=
  .intro word fun _ mem => nomatch mem

theorem IsWorded.sequence {o : Operator} (h : o.IsWorded) : o.sequence.IsWorded :=
  .intro (by decide) (List.forall_mem_singleton.mpr h)

theorem IsWorded.optional {o : Operator} (h : o.IsWorded) : o.optional.IsWorded :=
  .intro (by decide) (List.forall_mem_singleton.mpr h)

theorem sequence_injective : Function.Injective sequence := fun _ _ same =>
  List.singleton_inj.mp (Operator.mk.inj same).2

theorem optional_inj {o p : Operator} : o.optional = p.optional ↔ o = p :=
  ⟨fun same => List.singleton_inj.mp (Operator.mk.inj same).2, congrArg optional⟩

theorem iterate_sequence_inj {m n : Nat} {a b : Text} :
    sequence^[m] (plain a) = sequence^[n] (plain b) ↔ m = n ∧ a = b := by
  induction m generalizing n with
  | zero =>
      cases n with
      | zero => simp [plain]
      | succ n => simp [Function.iterate_succ_apply', plain, sequence]
  | succ m ih =>
      cases n with
      | zero => simp [Function.iterate_succ_apply', plain, sequence]
      | succ n =>
          rw [Function.iterate_succ_apply', Function.iterate_succ_apply', sequence_injective.eq_iff,
            ih, Nat.succ_inj]

end Operator

namespace Primitive

/-- The operators that types with a name of their own have. -/
def operatorNames : List (Text × Text) :=
  [("boolean", "IDLBoolean"), ("int32", "IDLInt32"), ("int64", "IDLInt64"),
   ("double", "IDLDouble"), ("string", "IDLDOMString"), ("object", "IDLObject"),
   ("any", "IDLAny"), ("function", "IDLCallback")]

/-- The name of an operator in the table, and that of the operator for any value where the table
has none. -/
def operatorName (p : Primitive) : Text := (operatorNames.lookup p.name).getD "IDLAny"

theorem operator_eq (p : Primitive) : p.operator = .plain p.operatorName := by
  cases p with
  | unlisted kind other =>
      have listed : ∀ pair ∈ operatorNames, pair.1 ∈ kinds := by decide
      have absent : operatorNames.lookup kind = none := by
        rw [List.lookup_eq_none_iff]
        intro pair mem
        rw [bne_iff_ne]
        rintro rfl
        exact other (listed pair mem)
      rw [operator, operatorName, name, absent]
      rfl
  | void | boolean | int32 | int64 | double | string | object | any | function => rfl

theorem isWord_operatorName (p : Primitive) : p.operatorName.isWord := by
  have words : ∀ pair ∈ operatorNames, pair.2.isWord := by decide
  rw [operatorName]
  cases found : operatorNames.lookup p.name with
  | none => decide
  | some name =>
      obtain ⟨_, _, split, -⟩ := List.lookup_eq_some_iff.mp found
      exact words (p.name, name) (split ▸ List.mem_append_right _ List.mem_cons_self)

end Primitive

namespace ValueType

/-- The name of the operator below all sequences. An interface has its own. -/
def operatorName : ValueType → Text
  | primitive p => p.operatorName
  | interface name => name
  | sequence element => element.operatorName
  | promise | owned _ => "IDLAny"

/-- The operators that a value of the type may be converted with: as a required one, and as one that
may be absent. -/
def operators (t : ValueType) : List Operator := [t.operator, t.operator.optional]

theorem operator_eq (t : ValueType) :
    t.operator = Operator.sequence^[t.nesting] (.plain t.operatorName) := by
  induction t with
  | primitive p => exact p.operator_eq
  | interface _ | promise | owned _ => rfl
  | sequence element ih => rw [operator, nesting, Function.iterate_succ_apply', ih]; rfl

theorem operator_eq_iff (s t : ValueType) :
    s.operator = t.operator ↔ s.nesting = t.nesting ∧ s.operatorName = t.operatorName := by
  rw [operator_eq, operator_eq, Operator.iterate_sequence_inj]

theorem isWorded_operator {t : ValueType} (h : t.Spellable) : t.operator.IsWorded := by
  induction t with
  | primitive p =>
      rw [operator, p.operator_eq]
      exact .plain p.isWord_operatorName
  | interface name => exact .plain (Text.isWord_of_isIdentifier (h name (.inl rfl)))
  | sequence element ih => exact (ih h).sequence
  | promise | owned _ => exact .plain (by decide)

theorem isWorded_of_mem_operators {t : ValueType} (h : t.Spellable) {o : Operator}
    (mem : o ∈ t.operators) : o.IsWorded := by
  have required := isWorded_operator h
  have each : ∀ o ∈ t.operators, o.IsWorded :=
    List.forall_mem_cons.mpr ⟨required, List.forall_mem_singleton.mpr required.optional⟩
  exact each o mem

/-- Only an interface can be named like the operator of a value that may be absent, and its own
operator has no arguments. -/
theorem operator_ne_optional (s t : ValueType) : s.operator ≠ t.operator.optional := by
  cases s with
  | primitive p => simp [operator, p.operator_eq, Operator.plain, Operator.optional]
  | interface _ | promise | owned _ =>
      simp [operator, Operator.any, Operator.plain, Operator.optional]
  | sequence element =>
      intro same
      exact absurd (Operator.mk.inj same).1 (by decide)

/-- Operators of types whose interfaces can be spelled are written alike only if they are the same,
whether for required values or for such as may be absent. Two types have the same operator exactly
if they have as many sequences and the same name below them. The operator of a required value is
never that of one that may be absent, of this type or another. -/
theorem written_tells_operator {s t : ValueType} (hs : s.Spellable) (ht : t.Spellable) :
    (∀ o ∈ s.operators, ∀ p ∈ t.operators, o.written = p.written ↔ o = p) ∧
      (s.operator = t.operator ↔ s.nesting = t.nesting ∧ s.operatorName = t.operatorName) ∧
      (s.operator.optional = t.operator.optional ↔ s.operator = t.operator) ∧
      s.operator ≠ t.operator.optional :=
  ⟨fun _ mem _ mem' =>
      (isWorded_of_mem_operators hs mem).written_inj (isWorded_of_mem_operators ht mem'),
    operator_eq_iff s t, Operator.optional_inj, operator_ne_optional s t⟩

/-- An interface may be named like the operator of another type; both are then converted alike. -/
theorem written_tells_operator_grid :
    let grid : ValueType := .sequence (.sequence (.primitive .int32))
    let named : ValueType := .sequence (.sequence (.interface "IDLInt32"))
    let row : ValueType := .sequence (.interface "IDLInt32")
    grid.Spellable ∧ named.Spellable ∧ row.Spellable ∧ grid ≠ named ∧
      grid.operator.optional.written = named.operator.optional.written ∧
      grid.operator.written ≠ row.operator.optional.written := by
  intro grid named row
  have spelled {t : ValueType} (accepted : Check.typeName (.ofRoot "page") t = []) : t.Spellable :=
    (Check.typeName_eq_nil_iff _ t).mp accepted
  have hg : grid.Spellable := spelled rfl
  have hn : named.Spellable := spelled rfl
  have hr : row.Spellable := spelled rfl
  obtain ⟨alike, same_iff, optional_iff, -⟩ := written_tells_operator hg hn
  obtain ⟨apart, -, -, other⟩ := written_tells_operator hg hr
  have same := optional_iff.mpr (same_iff.mpr (by decide))
  refine ⟨hg, hn, hr, by decide, ?_, ?_⟩
  · exact (alike _ (by simp [operators]) _ (by simp [operators])).mpr same
  · exact mt (apart _ (by simp [operators]) _ (by simp [operators])).mp other

end ValueType

end ScriptBinding
