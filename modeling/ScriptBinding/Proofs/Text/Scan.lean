import ScriptBinding.Proofs.Text.Name

/-!
Reading a text from the left: a fixed start, a name, a number, pieces between commas. Each reader
comes with the lemma that it takes back what was written.
-/
namespace ScriptBinding.Text

/-- What follows a start. -/
def after? : (start t : Text) → Option Text
  | [], t => some t
  | _ :: _, [] => none
  | p :: start, q :: t => if p = q then after? start t else none

theorem after?_append (start t : Text) : after? start (start ++ t) = some t := by
  induction start with
  | nil => rfl
  | cons p start ih => simpa [after?] using ih

theorem after?_eq_some_iff {start t rest : Text} :
    after? start t = some rest ↔ t = start ++ rest := by
  constructor
  · intro read
    induction start generalizing t with
    | nil => exact Option.some.inj read
    | cons p start ih =>
        cases t with
        | nil => exact absurd read (by simp [after?])
        | cons q t =>
            rw [after?] at read
            split at read
            case isTrue same => rw [same, ih read, List.cons_append]
            case isFalse => exact absurd read (by simp)
  · rintro rfl
    exact after?_append start rest

/-- What precedes an ending. -/
def before? (ending t : Text) : Option Text :=
  (after? ending.reverse t.reverse).map List.reverse

theorem before?_append (t ending : Text) : before? ending (t ++ ending) = some t := by
  simp [before?, after?_append]

theorem before?_eq_some_iff {ending t start : Text} :
    before? ending t = some start ↔ t = start ++ ending := by
  constructor
  · intro read
    obtain ⟨backwards, found, rfl⟩ := Option.map_eq_some_iff.mp read
    rw [after?_eq_some_iff] at found
    rw [← t.reverse_reverse, found, List.reverse_append, List.reverse_reverse]
  · rintro rfl
    exact before?_append start ending

/-- The word a text begins with, and what follows it. A line feed behind the word is spelled with
it. -/
def word (t : Text) : Text × Text :=
  let rest := t.dropWhile CodePoint.continuesName
  match after? "\n" rest with
  | some behind => (t.stem ++ "\n", behind)
  | none => (t.stem, rest)

theorem word_eq {stem rest : Text} (continues : ∀ p ∈ stem, p.continuesName)
    (ended : rest.head?.all fun p => !p.continuesName) :
    word (stem ++ rest) = match after? "\n" rest with
      | some behind => (stem ++ "\n", behind)
      | none => (stem, rest) := by
  have stop : rest.takeWhile CodePoint.continuesName = [] ∧
      rest.dropWhile CodePoint.continuesName = rest := by
    cases rest with
    | nil => simp
    | cons p rest => simp_all
  rw [word, stem_append continues, List.dropWhile_append_of_pos continues, Text.stem, stop.1,
    stop.2, List.append_nil]

theorem word_append {name : Text} (h : name.isWord) {rest : Text}
    (ended : rest.head?.all fun p => !p.isNamePart) : word (name ++ rest) = (name, rest) := by
  have continues : ∀ p ∈ name.stem, p.continuesName := fun p mem => List.mem_takeWhile_imp mem
  rcases (isWord_iff.mp h).2 with plain | fed
  · have apart : after? "\n" rest = none := by
      rw [Option.eq_none_iff_forall_ne_some]
      rintro behind found
      rw [after?_eq_some_iff.mp found] at ended
      exact absurd ended Bool.false_ne_true
    have stop : rest.head?.all fun p => !p.continuesName := by
      cases rest with
      | nil => rfl
      | cons p rest =>
          have foreign : p.isNamePart = false := by simpa using ended
          rw [CodePoint.isNamePart, Bool.or_eq_false_iff] at foreign
          simp [foreign.1]
    rw [plain, word_eq continues stop, apart]
  · rw [fed, List.append_assoc, word_eq continues rfl, after?_append]

/-- The parts of a text before and after the first of a code point. -/
def cut? (mark : CodePoint) : Text → Option (Text × Text)
  | [] => none
  | p :: t => if p = mark then some ([], t) else (cut? mark t).map fun (a, b) => (p :: a, b)

theorem cut?_append {mark : CodePoint} {t : Text} (foreign : mark ∉ t) (rest : Text) :
    cut? mark (t ++ mark :: rest) = some (t, rest) := by
  induction t with
  | nil => simp [cut?]
  | cons p t ih =>
      obtain ⟨first, others⟩ := not_or.mp (mt List.mem_cons.mpr foreign)
      simp [cut?, Ne.symm first, ih others]

/-- The pieces of a text between its commas, each without the space before it. -/
def pieces : Text → List Text
  | [] => [[]]
  | .scalar ',' :: .scalar ' ' :: t => [] :: pieces t
  | p :: t =>
    match pieces t with
    | [] => [[p]]
    | first :: others => (p :: first) :: others

theorem pieces_append_comma {t : Text} (plain : .scalar ',' ∉ t) (rest : Text) :
    pieces (t ++ (", " ++ rest)) = t :: pieces rest := by
  induction t with
  | nil => rfl
  | cons p t ih =>
      obtain ⟨first, others⟩ := not_or.mp (mt List.mem_cons.mpr plain)
      have : pieces (p :: (t ++ (", " ++ rest))) = _ :=
        pieces.eq_3 p _ fun _ h => absurd h.symm first
      rw [List.cons_append, this, ih others]

theorem pieces_of_plain {t : Text} (plain : .scalar ',' ∉ t) : pieces t = [t] := by
  induction t with
  | nil => rfl
  | cons p t ih =>
      obtain ⟨first, others⟩ := not_or.mp (mt List.mem_cons.mpr plain)
      rw [pieces.eq_3 p _ fun _ h => absurd h.symm first, ih others]

theorem pieces_join {parts : List Text} (some : parts ≠ [])
    (plain : ∀ t ∈ parts, .scalar ',' ∉ t) : pieces (join ", " parts) = parts := by
  induction parts with
  | nil => exact absurd rfl some
  | cons first others ih =>
      obtain ⟨first_plain, others_plain⟩ := List.forall_mem_cons.mp plain
      cases others with
      | nil => simpa [join] using pieces_of_plain first_plain
      | cons second others =>
          rw [join, List.intercalate_cons_cons, List.append_assoc,
            pieces_append_comma first_plain, ← join, ih (List.cons_ne_nil _ _) others_plain]

/-- The number that a text of decimal digits writes. -/
def toNat? (t : Text) : Option Nat :=
  if t.isEmpty || !t.all CodePoint.isDigit then none
  else some (t.foldl (fun n p => n * 10 + p.digit) 0)

theorem isDigit_scalar {c : Char} (h : c.isDigit) : CodePoint.isDigit c := by
  simp only [Char.isDigit, UInt32.le_iff_toNat_le, ge_iff_le, Bool.and_eq_true,
    decide_eq_true_eq] at h
  rw [CodePoint.isDigit, Bool.and_eq_true, decide_eq_true_eq, decide_eq_true_eq]
  exact h

theorem decimal_ne_nil (n : Nat) : decimal n ≠ [] := by
  simp [decimal]

theorem isDigit_of_mem_decimal {n : Nat} : ∀ p ∈ decimal n, p.isDigit := by
  intro p mem
  obtain ⟨c, digit, rfl⟩ := List.mem_map.mp mem
  exact isDigit_scalar (Nat.isDigit_of_mem_toDigits (by omega) (by omega) digit)

theorem toNat?_decimal (n : Nat) : toNat? (decimal n) = some n := by
  have digits : (decimal n).all CodePoint.isDigit := List.all_eq_true.mpr isDigit_of_mem_decimal
  have value : (decimal n).foldl (fun n p => n * 10 + p.digit) 0 =
      Nat.ofDigitChars 10 (Nat.toDigits 10 n) 0 := by
    simp [decimal, List.foldl_map, Nat.ofDigitChars, CodePoint.digit, CodePoint.value,
      Nat.mul_comm]
  rw [toNat?, digits, value, Nat.ofDigitChars_ten_toDigits]
  simp [decimal_ne_nil]

end ScriptBinding.Text
