import ScriptBinding.Proofs.Text.CodePoint
import ScriptBinding.Proofs.Text.Name
import ScriptBinding.Text.SnakeCase

/-!
What the two passes into snake case come to: one rule that says, at each place of a name, whether an
underscore stands there. Capitals that the first pass has read over stand behind a small letter, so
that the second pass finds them. On identifiers the case mappings are those of single letters, and a
name in screaming snake case is the parted name with its small letters raised.
-/
namespace ScriptBinding

namespace Text

/-- An underscore stands between a code point and a capital behind it, if this is a small letter or
digit, or if a small letter follows; a line feed is parted from nothing that follows it. -/
def breaks (p : CodePoint) : Text → Bool
  | [] => false
  | q :: rest =>
    q.isCapital && (p.isSmall || p.isDigit || (p ≠ '\n' && rest.head?.any CodePoint.isSmall))

def parted : Text → Text
  | [] => []
  | p :: rest => if breaks p rest then p :: .scalar '_' :: parted rest else p :: parted rest

/-- A name with all its underscores, before it is put into one case. -/
def separated (name : Text) : Text :=
  let t := name.dropUnderscore
  if t.contains '_' then t else t.parted

end Text

namespace CodePoint

theorem not_isSmall_of_isCapital {p : CodePoint} (h : p.isCapital) : p.isSmall = false := by
  simp only [isCapital, isSmall, Bool.and_eq_true, decide_eq_true_eq, Bool.and_eq_false_iff,
    decide_eq_false_iff_not] at h ⊢
  omega

theorem isUppercase_of_isCapital {p : CodePoint} (h : p.isCapital) : p.isUppercase := by
  simp only [isCapital, Bool.and_eq_true, decide_eq_true_eq] at h
  have first : (⟨0x41, 0x5A, 1⟩ : LetterCase.Run) ∈ LetterCase.uppercaseRuns := List.mem_cons_self
  refine List.any_eq_true.mpr ⟨_, first, ?_⟩
  simp [LetterCase.Run.contains, h.1, h.2, Nat.mod_one]

end CodePoint

namespace Text

theorem breaks_of_opensWord {p : CodePoint} {rest : Text} (apart : p ≠ '\n')
    (opens : rest.opensWord) : breaks p rest := by
  match rest, opens with
  | q :: r :: _, opens =>
    rw [opensWord, Bool.and_eq_true] at opens
    simp [breaks, opens.1, opens.2, apart]

/-- Behind a small letter, or where no word opens, the second pass says where names are parted. -/
theorem breaks_eq {p : CodePoint} {rest : Text}
    (h : p.isSmall ∨ ¬ (p ≠ '\n' ∧ rest.opensWord)) :
    breaks p rest = ((p.isSmall || p.isDigit) && rest.head?.any CodePoint.isCapital) := by
  cases rest with
  | nil => simp [breaks]
  | cons q rest =>
      rcases h with small | other
      · simp [breaks, small]
      · have unopened : (p ≠ '\n' && rest.head?.any CodePoint.isSmall) = true → ¬ q.isCapital := by
          intro follows capital
          rw [Bool.and_eq_true, decide_eq_true_eq] at follows
          cases rest with
          | nil => exact absurd follows.2 (by simp)
          | cons r rest => exact other ⟨follows.1, by simpa [opensWord, capital] using follows.2⟩
        cases capital : q.isCapital with
        | false => simp [breaks, capital]
        | true =>
            have none := mt unopened (not_not_intro capital)
            rw [Bool.not_eq_true] at none
            rw [breaks, none]
            simp [capital]

theorem partWords_outside (p : CodePoint) (rest : Text) :
    partWords .outside (p :: rest) =
      if p ≠ '\n' ∧ rest.opensWord then p :: .scalar '_' :: partWords .capital rest
      else p :: partWords .outside rest := by
  simp [partWords]

theorem partWords_inside (p : CodePoint) (rest : Text) :
    partWords .inside (p :: rest) =
      if p.isSmall then p :: partWords .inside rest else partWords .outside (p :: rest) := by
  simp [partWords]

theorem head?_partWords (place : WordPlace) (t : Text) : (partWords place t).head? = t.head? := by
  have outside (p : CodePoint) (rest : Text) :
      (partWords .outside (p :: rest)).head? = some p := by
    rw [partWords_outside]
    split <;> rfl
  cases t with
  | nil => cases place <;> rfl
  | cons p rest =>
      cases place with
      | capital => rfl
      | outside => exact outside p rest
      | inside =>
          rw [partWords_inside]
          split
          · rfl
          · exact outside p rest

/-- The second pass goes on over what the first has left together. -/
theorem partCapitals_cons_partWords {place : WordPlace} (p : CodePoint) {rest : Text}
    (later : partCapitals (partWords place rest) = rest.parted)
    (h : p.isSmall ∨ ¬ (p ≠ '\n' ∧ rest.opensWord)) :
    partCapitals (p :: partWords place rest) = parted (p :: rest) := by
  rw [partCapitals, parted, breaks_eq h, head?_partWords, later]

/-- No second underscore is put where the first pass has put one. -/
theorem partCapitals_underscore (p : CodePoint) (rest : Text) :
    partCapitals (p :: .scalar '_' :: rest) = p :: .scalar '_' :: partCapitals rest := by
  have mark : (CodePoint.scalar '_').isCapital = false ∧ (CodePoint.scalar '_').isSmall = false ∧
      (CodePoint.scalar '_').isDigit = false := by decide
  simp [partCapitals, mark]

/-- The second pass after the first, wherever the first stands. -/
theorem partCapitals_partWords {place : WordPlace} {t : Text}
    (opens : place = .capital → t.opensWord) : partCapitals (partWords place t) = t.parted := by
  induction t generalizing place with
  | nil => cases place <;> rfl
  | cons p rest ih =>
      have outside : partCapitals (partWords .outside (p :: rest)) = parted (p :: rest) := by
        rw [partWords_outside]
        split
        case isTrue word =>
          have later : partCapitals (partWords .capital rest) = parted rest := ih fun _ => word.2
          rw [partCapitals_underscore, later, parted, if_pos (breaks_of_opensWord word.1 word.2)]
        case isFalse other => exact partCapitals_cons_partWords p (ih nofun) (.inr other)
      cases place with
      | outside => exact outside
      | capital =>
          have small : rest.head?.any CodePoint.isSmall := by
            have word := opens rfl
            cases rest with
            | nil => exact absurd word Bool.false_ne_true
            | cons q rest => simpa using (Bool.and_eq_true _ _ ▸ word).2
          refine partCapitals_cons_partWords p (ih nofun) (.inr fun word => ?_)
          match rest, small, word.2 with
          | q :: r :: _, small, word =>
            rw [opensWord, Bool.and_eq_true] at word
            exact absurd small (by simp [CodePoint.not_isSmall_of_isCapital word.1])
      | inside =>
          rw [partWords_inside]
          split
          case isTrue small => exact partCapitals_cons_partWords p (ih nofun) (.inl small)
          case isFalse => exact outside

theorem parted_of_no_capital {t : Text} (h : ∀ p ∈ t, p.isCapital = false) : t.parted = t := by
  induction t with
  | nil => rfl
  | cons p rest ih =>
      obtain ⟨-, others⟩ := List.forall_mem_cons.mp h
      have whole : breaks p rest = false := by
        cases rest with
        | nil => rfl
        | cons q rest => simp [breaks, others q List.mem_cons_self]
      rw [parted, whole, ih others]
      rfl

/-- Snake case is the separated name in lower case. -/
theorem snake_eq (name : Text) : name.snake = name.separated.lower := by
  have passes :
      partCapitals (partWords .outside name.dropUnderscore) = name.dropUnderscore.parted :=
    partCapitals_partWords nofun
  simp only [snake, separated, passes]
  cases name.dropUnderscore.contains '_' with
  | true => rfl
  | false =>
      cases small : name.dropUnderscore.isLowercase with
      | false => rfl
      | true =>
          rw [isLowercase, Bool.and_eq_true, List.all_eq_true] at small
          have plain : ∀ p ∈ name.dropUnderscore, p.isCapital = false := by
            intro p mem
            have lower := small.2 p mem
            cases capital : p.isCapital with
            | false => rfl
            | true => simp [CodePoint.isUppercase_of_isCapital capital] at lower
          rw [parted_of_no_capital plain]
          rfl

end Text

namespace CodePoint

/-- The capital of a small letter; anything else as it is. -/
def raised (p : CodePoint) : CodePoint := if p.isSmall then ofNat (p.value - 0x20) else p

theorem isSmall_iff {p : CodePoint} : p.isSmall ↔ 0x61 ≤ p.value ∧ p.value ≤ 0x7A := by
  simp [isSmall]

theorem isCapital_iff {p : CodePoint} : p.isCapital ↔ 0x41 ≤ p.value ∧ p.value ≤ 0x5A := by
  simp [isCapital]

theorem value_raised (p : CodePoint) :
    p.raised.value = if p.isSmall then p.value - 0x20 else p.value := by
  rw [raised]
  split
  case isTrue small =>
    rw [isSmall_iff] at small
    exact value_ofNat (by omega)
  case isFalse => rfl

/-- Among code points that are no capitals, raising loses nothing. -/
theorem raised_inj {p q : CodePoint} (hp : p.isCapital = false) (hq : q.isCapital = false)
    (same : p.raised = q.raised) : p = q := by
  have values := congrArg value same
  have equal : p.value = q.value := by
    rw [value_raised, value_raised] at values
    simp only [← Bool.not_eq_true, isCapital_iff, isSmall_iff] at hp hq values
    split at values <;> split at values <;> omega
  rw [← p.ofNat_value, equal, q.ofNat_value]

theorem isSmall_raised (p : CodePoint) : p.raised.isSmall = false := by
  rw [← Bool.not_eq_true, isSmall_iff, value_raised]
  split
  case isTrue small =>
    rw [isSmall_iff] at small
    omega
  case isFalse other => rwa [isSmall_iff] at other

theorem raised_of_not_isSmall {p : CodePoint} (h : p.isSmall = false) : p.raised = p := by
  simp [raised, h]

theorem raised_raised (p : CodePoint) : p.raised.raised = p.raised :=
  raised_of_not_isSmall p.isSmall_raised

theorem not_isCapital_of_isSmall {p : CodePoint} (h : p.isSmall) : p.isCapital = false := by
  cases capital : p.isCapital with
  | false => rfl
  | true => simp [not_isSmall_of_isCapital capital] at h

/-- Raising makes two code points the same only if they are so, or one is the other raised. -/
theorem raised_eq_raised_iff {p q : CodePoint} :
    p.raised = q.raised ↔ p = q ∨ p = q.raised ∨ q = p.raised := by
  constructor
  · intro same
    cases small : p.isSmall with
    | false => exact .inr (.inl ((raised_of_not_isSmall small).symm.trans same))
    | true =>
        cases small' : q.isSmall with
        | false => exact .inr (.inr ((raised_of_not_isSmall small').symm.trans same.symm))
        | true =>
            have plain := not_isCapital_of_isSmall small
            exact .inl (raised_inj plain (not_isCapital_of_isSmall small') same)
  · rintro (rfl | rfl | rfl)
    · rfl
    · exact q.raised_raised
    · exact p.raised_raised.symm

theorem continuesName_raised {p : CodePoint} (h : p.continuesName) : p.raised.continuesName := by
  cases small : p.isSmall with
  | false => rwa [raised_of_not_isSmall small]
  | true =>
      have capital : p.raised.isCapital := by
        rw [isSmall_iff] at small
        rw [isCapital_iff, value_raised, if_pos (isSmall_iff.mpr small)]
        omega
      simp [continuesName, startsName, capital]

theorem value_lt_of_isNamePart {p : CodePoint} (h : p.isNamePart) : p.value < 0x80 := by
  simp only [isNamePart, continuesName, startsName, isDigit, Bool.or_eq_true, Bool.and_eq_true,
    decide_eq_true_eq, isCapital_iff, isSmall_iff] at h
  rcases h with (((capital | small) | rfl) | digit) | rfl
  · omega
  · omega
  · decide
  · omega
  · decide

/-- What is said of ASCII code points is said of so few that it can be tried out. -/
theorem forall_ascii {P : CodePoint → Prop} (every : ∀ n < 0x80, P (ofNat n)) {p : CodePoint}
    (low : p.value < 0x80) : P p :=
  p.ofNat_value ▸ every p.value low

theorem forall_isNamePart {P : CodePoint → Prop}
    (every : ∀ n < 0x80, (ofNat n).isNamePart → P (ofNat n)) {p : CodePoint} (h : p.isNamePart) :
    P p :=
  forall_ascii (P := fun p => p.isNamePart → P p) every (value_lt_of_isNamePart h) h

/-- On what can stand in a name, lower case and then upper case raise single letters. -/
theorem flatMap_upper_lower {p : CodePoint} (h : p.isNamePart) :
    p.lower.flatMap upper = [p.raised] :=
  forall_isNamePart (P := fun p => p.lower.flatMap upper = [p.raised]) (by decide +kernel) h

theorem upper_eq_raised {p : CodePoint} (h : p.isNamePart) : p.upper = [p.raised] :=
  forall_isNamePart (P := fun p => p.upper = [p.raised]) (by decide +kernel) h

theorem isNamePart_raised {p : CodePoint} (h : p.isNamePart) : p.raised.isNamePart :=
  forall_isNamePart (P := fun p => p.raised.isNamePart) (by decide +kernel) h

end CodePoint

namespace Text

theorem map_raised_inj {t u : Text} (ht : ∀ p ∈ t, p.isCapital = false)
    (hu : ∀ q ∈ u, q.isCapital = false) (same : t.map CodePoint.raised = u.map CodePoint.raised) :
    t = u := by
  induction t generalizing u with
  | nil => exact (List.map_eq_nil_iff.mp same.symm).symm
  | cons p t ih =>
      cases u with
      | nil => exact absurd same (by simp)
      | cons q u =>
          rw [List.forall_mem_cons] at ht hu
          rw [List.map_cons, List.map_cons, List.cons.injEq] at same
          rw [CodePoint.raised_inj ht.1 hu.1 same.1, ih ht.2 hu.2 same.2]

/-- Below U+0080 no code point looks at its neighbours. -/
theorem lower_eq_flatMap {t : Text} (h : ∀ p ∈ t, p.value < 0x80) :
    t.lower = t.flatMap CodePoint.lower := by
  have anywhere (before : Text) : lowerFrom before t = t.flatMap CodePoint.lower := by
    induction t generalizing before with
    | nil => rfl
    | cons p rest ih =>
        obtain ⟨low, others⟩ := List.forall_mem_cons.mp h
        rw [lowerFrom, if_neg (by omega), ih others, List.flatMap_cons]
  exact anywhere []

theorem mem_parted {t : Text} {p : CodePoint} (mem : p ∈ t.parted) : p ∈ t ∨ p = '_' := by
  induction t with
  | nil => exact .inl mem
  | cons q rest ih =>
      rw [parted] at mem
      have later : p ∈ parted rest → p ∈ q :: rest ∨ p = '_' := fun listed =>
        (ih listed).imp_left (List.mem_cons_of_mem q)
      split at mem
      · rcases List.mem_cons.mp mem with rfl | mem
        · exact .inl List.mem_cons_self
        · exact (List.mem_cons.mp mem).elim .inr later
      · rcases List.mem_cons.mp mem with rfl | mem
        · exact .inl List.mem_cons_self
        · exact later mem

theorem mem_of_mem_dropUnderscore {t : Text} {p : CodePoint} (mem : p ∈ t.dropUnderscore) :
    p ∈ t := by
  cases t with
  | nil => exact mem
  | cons q rest =>
      rw [dropUnderscore] at mem
      split at mem
      · exact List.mem_cons_of_mem q mem
      · exact mem

/-- All that separating puts into a name is underscores. -/
theorem mem_separated {name : Text} {p : CodePoint} (mem : p ∈ name.separated) :
    p ∈ name ∨ p = '_' := by
  simp only [separated] at mem
  split at mem
  · exact .inl (mem_of_mem_dropUnderscore mem)
  · exact (mem_parted mem).imp_left mem_of_mem_dropUnderscore

theorem isNamePart_of_mem_separated {name : Text} (h : ∀ p ∈ name, p.isNamePart) :
    ∀ p ∈ name.separated, p.isNamePart := by
  intro p mem
  rcases mem_separated mem with mem | rfl
  · exact h p mem
  · decide

theorem screamingSnake_eq {name : Text} (h : name.isIdentifier) :
    name.screamingSnake = name.separated.map CodePoint.raised := by
  have parts := isNamePart_of_mem_separated (isNamePart_of_isIdentifier h)
  have low := fun p mem => CodePoint.value_lt_of_isNamePart (parts p mem)
  rw [screamingSnake, snake_eq, lower_eq_flatMap low, upper, List.flatMap_assoc,
    List.map_eq_flatMap]
  exact congrArg List.flatten (List.map_congr_left fun p mem =>
    CodePoint.flatMap_upper_lower (parts p mem))

theorem isNamePart_of_mem_screamingSnake {name : Text} (h : name.isIdentifier) :
    ∀ p ∈ name.screamingSnake, p.isNamePart := by
  rw [screamingSnake_eq h, List.forall_mem_map]
  exact fun p mem => CodePoint.isNamePart_raised
    (isNamePart_of_mem_separated (isNamePart_of_isIdentifier h) p mem)

theorem isNamePart_of_mem_capitalized {name : Text} (h : ∀ p ∈ name, p.isNamePart) :
    ∀ p ∈ name.capitalized, p.isNamePart := by
  cases name with
  | nil => exact h
  | cons p rest =>
      rw [List.forall_mem_cons] at h
      rw [capitalized, CodePoint.upper_eq_raised h.1, List.singleton_append, List.forall_mem_cons]
      exact ⟨CodePoint.isNamePart_raised h.1, h.2⟩

/-- A name with its first letter, if this is a small one, made a capital. -/
def initialRaised : Text → Text
  | [] => []
  | p :: rest => p.raised :: rest

theorem initialRaised_eq_initialRaised_iff {t u : Text} :
    t.initialRaised = u.initialRaised ↔ t = u ∨ t = u.initialRaised ∨ u = t.initialRaised := by
  cases t with
  | nil => cases u <;> simp [initialRaised]
  | cons p t =>
      cases u with
      | nil => simp [initialRaised]
      | cons q u =>
          simp only [initialRaised, List.cons.injEq, CodePoint.raised_eq_raised_iff]
          grind

theorem capitalized_eq_initialRaised {name : Text} (h : name.isIdentifier) :
    name.capitalized = name.initialRaised := by
  have parts := isNamePart_of_isIdentifier h
  cases name with
  | nil => rfl
  | cons p rest =>
      rw [capitalized, CodePoint.upper_eq_raised (parts p List.mem_cons_self)]
      rfl

end Text

end ScriptBinding
