import Mathlib.Data.List.Chain
import ScriptBinding.Json.Reader
import ScriptBinding.Json.Writer
import ScriptBinding.Proofs.Text.CodePoint
import ScriptBinding.Text.Utf8

/-!
Texts as JSON strings. A code point is written as itself, as a short escape, or as one escaped unit
or two. Where two units that are read are the halves of one code point, this code point is read, and
so a text comes back from the string it is written as exactly if it holds no such halves next to
each other. No text that is read out of characters does.
-/
namespace ScriptBinding

namespace CodePoint

theorem hexDigit?_digitChar : ∀ n < 16, (scalar n.digitChar).hexDigit? = some n := by decide

end CodePoint

namespace Text

theorem not_hasSurrogate_iff {t : Text} : ¬ t.hasSurrogate ↔ ∀ p ∈ t, ¬ p.isSurrogate := by
  simp [hasSurrogate]

theorem not_hasSurrogate_ofString (s : String) : ¬ (s : Text).hasSurrogate := by
  rw [not_hasSurrogate_iff]
  exact List.forall_mem_map.mpr fun _ _ => Bool.false_ne_true

theorem not_hasSurrogate_of_suffix {s t : Text} (clean : ¬ t.hasSurrogate) (suffix : s <:+ t) :
    ¬ s.hasSurrogate :=
  not_hasSurrogate_iff.mpr fun p mem => not_hasSurrogate_iff.mp clean p (suffix.subset mem)

/-- No two code points next to each other are the halves of one above U+FFFF. -/
def Joined (t : Text) : Prop :=
  t.IsChain fun p q => ¬ (Json.isHighSurrogate p.value ∧ Json.isLowSurrogate q.value)

end Text

namespace Json

open CodePoint

section
variable {p : CodePoint} {n : Nat}

theorem isHighSurrogate_iff : isHighSurrogate n ↔ 0xD800 ≤ n ∧ n < 0xDC00 := by
  simp [isHighSurrogate]

theorem isLowSurrogate_iff : isLowSurrogate n ↔ 0xDC00 ≤ n ∧ n < 0xE000 := by
  simp [isLowSurrogate]

theorem isSurrogate_of_isHighSurrogate (high : isHighSurrogate p.value) : p.isSurrogate := by
  rw [isHighSurrogate_iff] at high
  exact p.isSurrogate_iff.mpr (by omega)

theorem isSurrogate_of_isLowSurrogate (low : isLowSurrogate p.value) : p.isSurrogate := by
  rw [isLowSurrogate_iff] at low
  exact p.isSurrogate_iff.mpr (by omega)

theorem value_ofNat_of_isSurrogate (surrogate : (ofNat n).isSurrogate) : (ofNat n).value = n := by
  have inside : 0xD800 ≤ n ∧ n < 0xE000 := by
    by_contra outside
    exact not_isSurrogate_ofNat outside surrogate
  rw [ofNat, dif_pos inside, value, Nat.add_sub_cancel' inside.1]

end

theorem joined_of_not_hasSurrogate {t : Text} (clean : ¬ t.hasSurrogate) : t.Joined := by
  rw [Text.not_hasSurrogate_iff] at clean
  refine (List.pairwise_of_forall_mem_list ?_).isChain
  exact fun p mem _ _ halves => clean p mem (isSurrogate_of_isHighSurrogate halves.1)

section
variable {high low : Nat} {rest : List StringPart}

/-- A unit that makes no pair with one right behind it. -/
def StandsAlone (n : Nat) (rest : List StringPart) : Prop :=
  ∀ low after, rest = .unit low :: after → ¬ (isHighSurrogate n ∧ isLowSurrogate low)

theorem joinParts_unit (alone : StandsAlone high rest) :
    joinParts (.unit high :: rest) = .ofNat high :: joinParts rest := by
  match rest with
  | [] | .plain p :: rest => rfl
  | .unit low :: after => rw [joinParts, if_neg (by simpa using alone low after rfl)]

theorem joinParts_pair (isHigh : isHighSurrogate high) (isLow : isLowSurrogate low) :
    joinParts (.unit high :: .unit low :: rest) =
      .ofNat (0x10000 + (high - 0xD800) * 0x400 + (low - 0xDC00)) :: joinParts rest := by
  rw [joinParts, isHigh, isLow]
  rfl

end

@[elab_as_elim]
theorem joinParts_induction {motive : List StringPart → Prop} (nil : motive [])
    (plain : ∀ p rest, motive rest → motive (.plain p :: rest))
    (unit : ∀ n rest, StandsAlone n rest → motive rest → motive (.unit n :: rest))
    (pair : ∀ high low rest, isHighSurrogate high → isLowSurrogate low → motive rest →
      motive (.unit high :: .unit low :: rest)) (ps : List StringPart) : motive ps := by
  fun_induction joinParts ps with
  | case1 => exact nil
  | case2 p rest ih => exact plain p rest ih
  | case3 high low rest halves ih =>
      obtain ⟨isHigh, isLow⟩ := Bool.and_eq_true_iff.mp halves
      exact pair high low rest isHigh isLow ih
  | case4 high low rest apart ih =>
      refine unit high _ ?_ ih
      rintro _ _ ⟨⟩
      simpa using apart
  | case5 high rest last ih =>
      exact unit high rest (fun low after same => absurd same (last low after)) ih

/-- A text that is joined from parts starts with a surrogate only if the parts do. -/
theorem head?_of_mem_head?_joinParts {ps : List StringPart} {q : CodePoint}
    (surrogate : q.isSurrogate) (mem : q ∈ (joinParts ps).head?) :
    ps.head? = some (.plain q) ∨ ps.head? = some (.unit q.value) := by
  induction ps using joinParts_induction with
  | nil => exact nomatch mem
  | plain p rest _ =>
      rw [joinParts, List.head?_cons, Option.mem_some_iff] at mem
      exact .inl (mem ▸ rfl)
  | unit n rest alone _ =>
      rw [joinParts_unit alone, List.head?_cons, Option.mem_some_iff] at mem
      subst mem
      rw [value_ofNat_of_isSurrogate surrogate]
      exact .inr rfl
  | pair high low rest isHigh isLow _ =>
      rw [joinParts_pair isHigh isLow, List.head?_cons, Option.mem_some_iff] at mem
      exact absurd (mem ▸ surrogate) (not_isSurrogate_ofNat (by omega))

/-- What is not escaped is no surrogate. -/
def ScalarParts (ps : List StringPart) : Prop := ∀ p, .plain p ∈ ps → ¬ p.isSurrogate

theorem ScalarParts.plain {p : CodePoint} {ps : List StringPart} (behind : ScalarParts ps)
    (scalar : ¬ p.isSurrogate) : ScalarParts (.plain p :: ps) := by
  rintro q (_ | ⟨_, mem⟩)
  · exact scalar
  · exact behind q mem

theorem ScalarParts.unit {ps : List StringPart} (behind : ScalarParts ps) (n : Nat) :
    ScalarParts (.unit n :: ps) := by
  rintro q (_ | ⟨_, mem⟩)
  exact behind q mem

theorem scalarParts_of_cons {part : StringPart} {ps : List StringPart}
    (scalars : ScalarParts (part :: ps)) : ScalarParts ps :=
  fun p mem => scalars p (List.mem_cons_of_mem part mem)

theorem joined_joinParts {ps : List StringPart} (scalars : ScalarParts ps) :
    (joinParts ps).Joined := by
  induction ps using joinParts_induction with
  | nil => exact List.isChain_nil
  | plain p rest ih =>
      rw [joinParts]
      refine List.isChain_cons.mpr ⟨fun q _ halves => ?_, ih (scalarParts_of_cons scalars)⟩
      exact scalars p List.mem_cons_self (isSurrogate_of_isHighSurrogate halves.1)
  | unit n rest alone ih =>
      rw [joinParts_unit alone]
      refine List.isChain_cons.mpr ⟨fun q mem halves => ?_, ih (scalarParts_of_cons scalars)⟩
      have surrogate := isSurrogate_of_isLowSurrogate halves.2
      rcases head?_of_mem_head?_joinParts surrogate mem with first | first
      · exact scalars q (List.mem_cons_of_mem _ (List.mem_of_head? first)) surrogate
      · obtain ⟨after, split⟩ := List.head?_eq_some_iff.mp first
        rw [value_ofNat_of_isSurrogate (isSurrogate_of_isHighSurrogate halves.1)] at halves
        exact alone q.value after split halves
  | pair high low rest isHigh isLow ih =>
      rw [joinParts_pair isHigh isLow]
      refine List.isChain_cons.mpr
        ⟨fun q _ halves => ?_, ih (scalarParts_of_cons (scalarParts_of_cons scalars))⟩
      exact not_isSurrogate_ofNat (by omega) (isSurrogate_of_isHighSurrogate halves.1)

section
variable {opening rest : Text} {acc : List StringPart}

theorem readParts_quote :
    readParts opening acc (.scalar '"' :: rest) = .ok (acc.reverse, rest) := by
  rw [readParts.eq_def]
  simp

theorem readParts_plain {p : CodePoint} (quote : p ≠ '"') (backslash : p ≠ '\\')
    (printed : 0x20 ≤ p.value) :
    readParts opening acc (p :: rest) = readParts opening (.plain p :: acc) rest := by
  rw [readParts.eq_def]
  simp [quote, backslash, Nat.not_lt.mpr printed]

theorem readParts_short {p q : CodePoint} (short : shortEscape? q = some p) :
    readParts opening acc (.scalar '\\' :: q :: rest) =
      readParts opening (.plain p :: acc) rest := by
  have other : q ≠ 'u' := by
    rintro rfl
    exact nomatch short
  rw [readParts.eq_def]
  simp [short, other, value]

theorem readParts_unit {a b c d : CodePoint} {n : Nat}
    (escaped : escapedUnit? a b c d rest = some n) :
    readParts opening acc (.scalar '\\' :: .scalar 'u' :: a :: b :: c :: d :: rest) =
      readParts opening (.unit n :: acc) rest := by
  rw [readParts.eq_def]
  simp [escaped, value]

end

/-- A unit as it is written. -/
def unitEscape (n : Nat) : Text := .scalar '\\' :: .scalar 'u' :: (Text.fourHex n).map .scalar

/-- An escaped unit is read if the text does not end behind it. -/
theorem readParts_unitEscape {n : Nat} (small : n < 0x10000) (opening : Text)
    (acc : List StringPart) (q : CodePoint) (rest : Text) :
    readParts opening acc (unitEscape n ++ q :: rest) =
      readParts opening (.unit n :: acc) (q :: rest) := by
  have first := hexDigit?_digitChar (n / 0x1000) (by omega)
  have second := hexDigit?_digitChar (n / 0x100 % 0x10) (by omega)
  have third := hexDigit?_digitChar (n / 0x10 % 0x10) (by omega)
  have fourth := hexDigit?_digitChar (n % 0x10) (by omega)
  refine readParts_unit ?_
  change escapedUnit? _ _ _ _ (q :: rest) = some n
  simp only [escapedUnit?, first, second, third, fourth, Option.some.injEq]
  omega

/-- The code points that are written as a backslash and one more, with that one. -/
def shortEscapes : List (CodePoint × CodePoint) :=
  [('"', '"'), ('\\', '\\'), ('\n', 'n'), ('\r', 'r'), ('\t', 't'), (.ofNat 0x0C, 'f'),
   (.ofNat 0x08, 'b')]

theorem escaped_of_mem_shortEscapes : ∀ pair ∈ shortEscapes,
    pair.1.escaped = [.scalar '\\', pair.2] ∧ shortEscape? pair.2 = some pair.1 := by decide

theorem escaped_of_not_mem_shortEscapes {p : CodePoint} (other : p ∉ shortEscapes.map Prod.fst) :
    p.escaped =
      if 0x20 ≤ p.value ∧ p.value ≤ 0x7E then [p]
      else if p.value < 0x10000 then unitEscape p.value
      else unitEscape (0xD800 + (p.value - 0x10000) / 0x400) ++
        unitEscape (0xDC00 + (p.value - 0x10000) % 0x400) := by
  have ofValue (n : Nat) (same : p.value = n) : p = .ofNat n := by rw [← same, p.ofNat_value]
  simp only [shortEscapes, List.map_cons, List.map_nil, List.mem_cons, List.not_mem_nil, or_false,
    not_or] at other
  obtain ⟨quote, backslash, feed, carriage, tab, formFeed, backspace⟩ := other
  have notFormFeed := mt (ofValue 0x0C) formFeed
  have notBackspace := mt (ofValue 0x08) backspace
  simp [CodePoint.escaped, quote, backslash, feed, carriage, tab, notFormFeed, notBackspace,
    unitEscape]

/-- What an escaped code point is read into. -/
def parts (p : CodePoint) : List StringPart :=
  if p ∈ shortEscapes.map Prod.fst ∨ 0x20 ≤ p.value ∧ p.value ≤ 0x7E then [.plain p]
  else if p.value < 0x10000 then [.unit p.value]
  else [.unit (0xD800 + (p.value - 0x10000) / 0x400),
    .unit (0xDC00 + (p.value - 0x10000) % 0x400)]

theorem parts_ne_nil (p : CodePoint) : parts p ≠ [] := by
  rw [parts]
  split
  · exact List.cons_ne_nil _ _
  split <;> exact List.cons_ne_nil _ _

theorem scalarParts_flatMap_parts (t : Text) : ScalarParts (t.flatMap parts) := by
  have short : ∀ p ∈ shortEscapes.map Prod.fst, ¬ p.isSurrogate := by decide
  intro p mem
  obtain ⟨q, -, mem⟩ := List.mem_flatMap.mp mem
  rw [parts] at mem
  split at mem
  case isTrue plain =>
    obtain rfl := StringPart.plain.inj (List.mem_singleton.mp mem)
    rcases plain with listed | printed
    · exact short p listed
    · exact p.isSurrogate_iff.not.mpr (by omega)
  all_goals split at mem <;> simp at mem

/-- The first unit of a code point is a low surrogate only if it is all of it. -/
theorem isLowSurrogate_of_head?_parts {p : CodePoint} {low : Nat}
    (first : (parts p).head? = some (.unit low)) (isLow : isLowSurrogate low) :
    isLowSurrogate p.value := by
  have bound := p.value_lt
  rw [parts] at first
  split at first
  · exact nomatch first
  split at first <;> obtain rfl := StringPart.unit.inj (Option.some.inj first)
  · exact isLow
  · rw [isLowSurrogate_iff] at isLow
    omega

theorem readParts_escaped (p q : CodePoint) (opening rest : Text) (acc : List StringPart) :
    readParts opening acc (p.escaped ++ q :: rest) =
      readParts opening ((parts p).reverse ++ acc) (q :: rest) := by
  rw [parts]
  by_cases short : p ∈ shortEscapes.map Prod.fst
  · obtain ⟨pair, listed, rfl⟩ := List.mem_map.mp short
    obtain ⟨written, read⟩ := escaped_of_mem_shortEscapes pair listed
    rw [written, if_pos (.inl short)]
    exact readParts_short read
  rw [escaped_of_not_mem_shortEscapes short]
  by_cases printed : 0x20 ≤ p.value ∧ p.value ≤ 0x7E
  · rw [if_pos printed, if_pos (.inr printed)]
    have quote : p ≠ '"' := fun same => short (same ▸ by decide)
    have backslash : p ≠ '\\' := fun same => short (same ▸ by decide)
    exact readParts_plain quote backslash printed.1
  rw [if_neg printed, if_neg (not_or.mpr ⟨short, printed⟩)]
  by_cases small : p.value < 0x10000
  · rw [if_pos small, if_pos small]
    exact readParts_unitEscape small opening acc q rest
  · have bound := p.value_lt
    rw [if_neg small, if_neg small, List.append_assoc]
    generalize high : 0xD800 + (p.value - 0x10000) / 0x400 = n
    generalize low : 0xDC00 + (p.value - 0x10000) % 0x400 = k
    have smallHigh : n < 0x10000 := by omega
    have smallLow : k < 0x10000 := by omega
    have first := readParts_unitEscape smallHigh opening acc '\\'
      (.scalar 'u' :: (Text.fourHex k).map .scalar ++ q :: rest)
    exact first.trans (readParts_unitEscape smallLow opening _ q rest)

theorem readParts_flatMap_escaped (t opening rest : Text) (acc : List StringPart) :
    readParts opening acc (t.flatMap CodePoint.escaped ++ .scalar '"' :: rest) =
      .ok (acc.reverse ++ t.flatMap parts, rest) := by
  induction t generalizing acc with
  | nil => simp [readParts_quote]
  | cons p t ih =>
      obtain ⟨q, others, next⟩ : ∃ q others,
          t.flatMap CodePoint.escaped ++ .scalar '"' :: rest = q :: others :=
        List.exists_cons_of_ne_nil (by simp)
      rw [List.flatMap_cons, List.append_assoc, next, readParts_escaped, ← next, ih]
      simp

theorem joinParts_flatMap_parts {t : Text} (joined : t.Joined) :
    joinParts (t.flatMap parts) = t := by
  induction t with
  | nil => rfl
  | cons p rest ih =>
      obtain ⟨next, joined⟩ := List.isChain_cons.mp joined
      specialize ih joined
      rw [List.flatMap_cons, parts]
      split
      · rw [List.singleton_append, joinParts, ih]
      split
      · rw [List.singleton_append, joinParts_unit, ih, ofNat_value]
        intro low after split halves
        cases rest with
        | nil => exact nomatch split
        | cons q rest =>
            have first : (parts q).head? = some (.unit low) := by
              rw [← List.head?_append_of_ne_nil _ (parts_ne_nil q), ← List.flatMap_cons, split]
              rfl
            exact next q rfl ⟨halves.1, isLowSurrogate_of_head?_parts first halves.2⟩
      · have bound := p.value_lt
        have isHigh : isHighSurrogate (0xD800 + (p.value - 0x10000) / 0x400) := by
          rw [isHighSurrogate_iff]
          omega
        have isLow : isLowSurrogate (0xDC00 + (p.value - 0x10000) % 0x400) := by
          rw [isLowSurrogate_iff]
          omega
        have same : 0x10000 + (0xD800 + (p.value - 0x10000) / 0x400 - 0xD800) * 0x400 +
            (0xDC00 + (p.value - 0x10000) % 0x400 - 0xDC00) = p.value := by omega
        rw [List.cons_append, List.singleton_append, joinParts_pair isHigh isLow, ih, same,
          ofNat_value]

/-- A text is read from the string it is written as exactly if it is joined. -/
theorem readString_literal_iff (t rest : Text) :
    readString (literal t ++ rest) = .ok (t, rest) ↔ t.Joined := by
  have opened : (literal t ++ rest).drop 1 =
      t.flatMap CodePoint.escaped ++ .scalar '"' :: rest := by
    simp [literal, Text.ofString]
  have same : joinParts (t.flatMap parts) = t ↔ t.Joined :=
    ⟨fun same => same ▸ joined_joinParts (scalarParts_flatMap_parts t), joinParts_flatMap_parts⟩
  rw [readString, opened, readParts_flatMap_escaped, ← same]
  simp [Except.map]

theorem not_isSurrogate_of_shortEscape? {p q : CodePoint} (short : shortEscape? q = some p) :
    ¬ p.isSurrogate := by
  have every : ∀ p ∈ ([.scalar '"', .scalar '\\', .scalar '/', .ofNat 0x08, .ofNat 0x0C,
      .scalar '\n', .scalar '\r', .scalar '\t'] : Text), ¬ p.isSurrogate := by decide
  apply every
  grind [shortEscape?]

theorem scalarParts_of_readParts {opening s rest : Text} {acc ps : List StringPart}
    (clean : ∀ p ∈ s, ¬ p.isSurrogate) (before : ScalarParts acc)
    (read : readParts opening acc s = .ok (ps, rest)) : ScalarParts ps ∧ rest <:+ s := by
  fun_induction readParts opening acc s with
  | case2 acc others =>
      obtain ⟨rfl, rfl⟩ := Prod.mk.inj (Except.ok.inj read)
      exact ⟨fun p mem => before p (List.mem_reverse.mp mem), List.suffix_cons _ _⟩
  | case5 acc a b c d beyond n _ _ _ ih =>
      have suffix : beyond <:+ .scalar '\\' :: .scalar 'u' :: a :: b :: c :: d :: beyond :=
        ⟨[.scalar '\\', .scalar 'u', a, b, c, d], rfl⟩
      obtain ⟨scalars, left⟩ := ih (fun p mem => clean p (suffix.subset mem)) (before.unit n) read
      exact ⟨scalars, left.trans suffix⟩
  | case8 acc q after _ c short _ _ ih =>
      have suffix : after <:+ .scalar '\\' :: q :: after := ⟨[.scalar '\\', q], rfl⟩
      have scalar := not_isSurrogate_of_shortEscape? short
      obtain ⟨scalars, left⟩ := ih (fun p mem => clean p (suffix.subset mem)) (before.plain scalar)
        read
      exact ⟨scalars, left.trans suffix⟩
  | case10 acc q after _ _ _ ih =>
      have scalar := clean q List.mem_cons_self
      obtain ⟨scalars, left⟩ := ih (fun p mem => clean p (List.mem_cons_of_mem q mem))
        (before.plain scalar) read
      exact ⟨scalars, left.trans (List.suffix_cons q after)⟩
  | case1 | case3 | case4 | case6 | case7 | case9 => exact nomatch read

/-- What is read out of a text without surrogates is joined. -/
theorem joined_of_readString {s t rest : Text} (clean : ¬ s.hasSurrogate)
    (read : readString s = .ok (t, rest)) : t.Joined ∧ rest <:+ s := by
  cases found : readParts s [] (s.drop 1) with
  | error e =>
      rw [readString, found] at read
      exact nomatch read
  | ok result =>
      rw [readString, found] at read
      obtain ⟨rfl, rfl⟩ := Prod.mk.inj (Except.ok.inj read)
      have behind := Text.not_hasSurrogate_of_suffix clean (List.drop_suffix 1 s)
      obtain ⟨scalars, left⟩ := scalarParts_of_readParts (Text.not_hasSurrogate_iff.mp behind)
        (fun _ mem => absurd mem List.not_mem_nil) found
      exact ⟨joined_joinParts scalars, left.trans (List.drop_suffix 1 s)⟩

end Json

end ScriptBinding
