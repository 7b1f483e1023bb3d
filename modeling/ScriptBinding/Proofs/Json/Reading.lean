import ScriptBinding.Proofs.Interface.Loading
import ScriptBinding.Proofs.Json.Strings

/-!
What is read out of a text of characters. Every reader leaves an end of its text, and every string
among the values it reads is joined.
-/
namespace ScriptBinding.Json

open Load (bind_eq_ok_iff map_eq_ok_iff)

/-- Every string among the values is joined. The names of members do not count. -/
inductive Joined : Json → Prop
  | null : Joined null
  | bool (b : Bool) : Joined (bool b)
  | int (n : Int) : Joined (int n)
  | real (x : Binary64) : Joined (real x)
  | str {t : Text} (joined : t.Joined) : Joined (str t)
  | arr {items : List Json} (each : ∀ v ∈ items, Joined v) : Joined (arr items)
  | obj {members : List (Text × Json)} (each : ∀ m ∈ members, Joined m.2) : Joined (obj members)

theorem joined_str_iff {t : Text} : (str t).Joined ↔ t.Joined :=
  ⟨fun | .str joined => joined, .str⟩

theorem joined_arr_iff {items : List Json} : (arr items).Joined ↔ ∀ v ∈ items, v.Joined :=
  ⟨fun | .arr each => each, .arr⟩

theorem joined_obj_iff {members : List (Text × Json)} :
    (obj members).Joined ↔ ∀ m ∈ members, m.2.Joined :=
  ⟨fun | .obj each => each, .obj⟩

theorem ite_drop_suffix (signed : Bool) (s : Text) : (if signed then s.drop 1 else s) <:+ s := by
  split
  · exact List.drop_suffix 1 s
  · exact List.suffix_rfl

theorem suffix_of_signedDigits? {s rest : Text} {n : Int}
    (read : signedDigits? s = some (n, rest)) : rest <:+ s := by
  unfold signedDigits? at read
  extract_lets negative unsigned digits size at read
  split at read
  · exact nomatch read
  · obtain ⟨-, rfl⟩ := Prod.mk.inj (Option.some.inj read)
    exact (List.drop_suffix _ _).trans (ite_drop_suffix _ s)

theorem suffix_of_exponent? {s rest : Text} {n : Int} (read : exponent? s = some (n, rest)) :
    rest <:+ s := by
  cases s with
  | nil => exact nomatch read
  | cons mark s =>
      rw [exponent?] at read
      split at read
      · exact (suffix_of_signedDigits? read).trans (List.suffix_cons mark s)
      · exact nomatch read

theorem suffix_of_fraction? {s digits rest : Text} (read : fraction? s = some (digits, rest)) :
    rest <:+ s := by
  cases s with
  | nil => exact nomatch read
  | cons mark s =>
      simp only [fraction?] at read
      split at read
      · obtain ⟨-, rfl⟩ := Prod.mk.inj (Option.some.inj read)
        exact (List.drop_suffix _ _).trans (List.suffix_cons mark s)
      · exact nomatch read

/-- What is left behind a part that may be absent. -/
theorem suffix_of_getD {α : Type} {part : Option (α × Text)} {s after : Text} {absent a : α}
    (h : ∀ a rest, part = some (a, rest) → rest <:+ s) (read : part.getD (absent, s) = (a, after)) :
    after <:+ s := by
  cases part with
  | none =>
      obtain ⟨-, rfl⟩ := Prod.mk.inj read
      exact List.suffix_rfl
  | some found => exact h a after (congrArg some read)

theorem joined_of_readNumber {s rest : Text} {v : Json} (read : readNumber s = .ok (v, rest)) :
    v.Joined ∧ rest <:+ s := by
  unfold readNumber at read
  extract_lets negative body whole afterWhole fraction size at read
  have entered : afterWhole <:+ s :=
    (List.drop_suffix _ body).trans (ite_drop_suffix negative s)
  rcases point : fraction.getD ([], afterWhole) with ⟨digits, afterFraction⟩
  rw [point] at read
  dsimp only at read
  rcases scaled : (exponent? afterFraction).getD (0, afterFraction) with ⟨power, left⟩
  rw [scaled] at read
  dsimp only at read
  have behind : left <:+ s :=
    (suffix_of_getD (fun _ _ => suffix_of_exponent?) scaled).trans
      ((suffix_of_getD (fun _ _ => suffix_of_fraction?) point).trans entered)
  split at read
  · exact nomatch read
  split at read
  · obtain ⟨rfl, rfl⟩ := Prod.mk.inj (Except.ok.inj read)
    exact ⟨.real _, behind⟩
  split at read
  · exact nomatch read
  · obtain ⟨rfl, rfl⟩ := Prod.mk.inj (Except.ok.inj read)
    exact ⟨.int _, behind⟩

theorem joined_of_readScalar {s rest : Text} {v : Json} (read : readScalar s = .ok (v, rest)) :
    v.Joined ∧ rest <:+ s := by
  rw [readScalar] at read
  split at read
  case h_1 word value found =>
    obtain ⟨rfl, rfl⟩ := Prod.mk.inj (Except.ok.inj read)
    refine ⟨?_, List.drop_suffix _ s⟩
    have listed := List.mem_of_find?_eq_some found
    simp only [words, List.mem_cons, Prod.mk.injEq, List.not_mem_nil, or_false] at listed
    rcases listed with ⟨-, rfl⟩ | ⟨-, rfl⟩ | ⟨-, rfl⟩ | ⟨-, rfl⟩ | ⟨-, rfl⟩ | ⟨-, rfl⟩
    · exact .null
    · exact .bool true
    · exact .bool false
    all_goals exact .real _
  case h_2 => exact joined_of_readNumber read

theorem dropSpace_suffix (s : Text) : dropSpace s <:+ s := List.dropWhile_suffix _

section
variable {item : Text → Except Failure (Json × Text)} {fuel : Nat} {s rest : Text}

theorem readItems_succ_eq_ok_iff {items : List Json} :
    readItems item (fuel + 1) s = .ok (items, rest) ↔ ∃ v after, item s = .ok (v, after) ∧
      (dropSpace after = .scalar ']' :: rest ∧ items = [v] ∨
        ∃ behind others, dropSpace after = .scalar ',' :: behind ∧
          readItems item fuel (dropSpace behind) = .ok (others, rest) ∧ items = v :: others) := by
  rw [readItems.eq_def]
  simp only [bind_eq_ok_iff, Prod.exists]
  refine exists_congr fun v => exists_congr fun after => and_congr_right fun _ => ?_
  cases dropSpace after with
  | nil => simp
  | cons p behind =>
      by_cases closes : p = ']'
      · simp [closes, eq_comm, and_comm]
      · by_cases separates : p = ','
        · subst separates
          simp only [if_neg closes, if_true, bind_eq_ok_iff, Except.ok.injEq, Prod.mk.injEq]
          simp [closes, eq_comm, and_comm]
        · simp [closes, separates]

/-- A quoted name, a colon and a value, one behind the other, start the text. -/
def ReadsMember (item : Text → Except Failure (Json × Text)) (s name : Text) (v : Json)
    (after : Text) : Prop :=
  s.beginsWith '"' ∧ ∃ between value, readString s = .ok (name, between) ∧
    dropSpace between = .scalar ':' :: value ∧ item (dropSpace value) = .ok (v, after)

theorem beginsWith_iff {t : Text} {c : Char} : t.beginsWith c ↔ ∃ rest, t = .scalar c :: rest := by
  simp [Text.beginsWith, List.head?_eq_some_iff]

theorem readMembers_succ_eq_ok_iff {before members : List (Text × Json)} :
    readMembers item (fuel + 1) before s = .ok (members, rest) ↔
      ∃ name v after, ReadsMember item s name v after ∧
        (dropSpace after = .scalar '}' :: rest ∧ members = setMember name v before ∨
          ∃ behind, dropSpace after = .scalar ',' :: behind ∧
            readMembers item fuel (setMember name v before) (dropSpace behind) =
              .ok (members, rest)) := by
  rw [readMembers.eq_def]
  constructor
  · intro read
    simp only [Bool.not_eq_true'] at read
    split at read
    · exact nomatch read
    case isFalse quoted =>
    obtain ⟨⟨name, between⟩, named, read⟩ := bind_eq_ok_iff.mp read
    split at read
    · exact nomatch read
    case isFalse colon =>
    obtain ⟨⟨v, after⟩, first, read⟩ := bind_eq_ok_iff.mp read
    obtain ⟨value, split⟩ := beginsWith_iff.mp (by simpa using colon)
    refine ⟨name, v, after, ⟨by simpa using quoted, between, value, named, split, ?_⟩, ?_⟩
    · simpa [split] using first
    simp only at read
    split at read
    · exact nomatch read
    case h_2 p behind stop =>
    split at read
    case isTrue closes =>
      obtain ⟨rfl, rfl⟩ := Prod.mk.inj (Except.ok.inj read)
      exact .inl ⟨closes ▸ stop, rfl⟩
    split at read
    case isTrue separates => exact .inr ⟨behind, separates ▸ stop, read⟩
    · exact nomatch read
  · rintro ⟨name, v, after, ⟨quoted, between, value, named, colon, first⟩, closed⟩
    have colonFirst : Text.beginsWith (.scalar ':' :: value) ':' := beginsWith_iff.mpr ⟨value, rfl⟩
    rcases closed with ⟨stop, rfl⟩ | ⟨behind, stop, next⟩
    · simp [quoted, named, colon, colonFirst, first, stop, bind, Except.bind]
    · simp [quoted, named, colon, colonFirst, first, stop, next, bind, Except.bind]

end

theorem forall_mem_setMember {P : Json → Prop} {name : Text} {v : Json}
    {members : List (Text × Json)} (here : P v) (before : ∀ m ∈ members, P m.2) :
    ∀ m ∈ setMember name v members, P m.2 := by
  induction members with
  | nil => exact List.forall_mem_singleton.mpr here
  | cons other rest ih =>
      obtain ⟨first, behind⟩ := List.forall_mem_cons.mp before
      rw [setMember]
      split
      · exact List.forall_mem_cons.mpr ⟨here, behind⟩
      · exact List.forall_mem_cons.mpr ⟨first, ih behind⟩

/-- A reader of values that leaves an end of its text, and reads joined strings out of
characters. -/
def ReadsJoined (item : Text → Except Failure (Json × Text)) : Prop :=
  ∀ s v rest, ¬ s.hasSurrogate → item s = .ok (v, rest) → v.Joined ∧ rest <:+ s

section
variable {item : Text → Except Failure (Json × Text)} (h : ReadsJoined item)
include h

theorem joined_of_readItems {fuel : Nat} {s rest : Text} {items : List Json}
    (clean : ¬ s.hasSurrogate) (read : readItems item fuel s = .ok (items, rest)) :
    (∀ v ∈ items, v.Joined) ∧ rest <:+ s := by
  induction fuel generalizing s items with
  | zero => exact nomatch read
  | succ fuel ih =>
      obtain ⟨v, after, first, closed⟩ := readItems_succ_eq_ok_iff.mp read
      obtain ⟨joined, left⟩ := h s v after clean first
      have left := (dropSpace_suffix after).trans left
      rcases closed with ⟨stop, rfl⟩ | ⟨behind, others, stop, next, rfl⟩
      · exact ⟨List.forall_mem_singleton.mpr joined, (List.suffix_cons _ rest).trans (stop ▸ left)⟩
      · have left : dropSpace behind <:+ s :=
          (dropSpace_suffix behind).trans ((List.suffix_cons _ behind).trans (stop ▸ left))
        obtain ⟨othersJoined, last⟩ := ih (Text.not_hasSurrogate_of_suffix clean left) next
        exact ⟨List.forall_mem_cons.mpr ⟨joined, othersJoined⟩, last.trans left⟩

theorem joined_of_readMembers {fuel : Nat} {s rest : Text} {before members : List (Text × Json)}
    (clean : ¬ s.hasSurrogate) (known : ∀ m ∈ before, m.2.Joined)
    (read : readMembers item fuel before s = .ok (members, rest)) :
    (∀ m ∈ members, m.2.Joined) ∧ rest <:+ s := by
  induction fuel generalizing s before with
  | zero => exact nomatch read
  | succ fuel ih =>
      obtain ⟨name, v, after, ⟨-, between, value, named, colon, first⟩, closed⟩ :=
        readMembers_succ_eq_ok_iff.mp read
      have entered : dropSpace value <:+ s := by
        have behind := (dropSpace_suffix between).trans (joined_of_readString clean named).2
        exact (dropSpace_suffix value).trans ((List.suffix_cons _ value).trans (colon ▸ behind))
      obtain ⟨joined, left⟩ := h _ v after (Text.not_hasSurrogate_of_suffix clean entered) first
      have left := (dropSpace_suffix after).trans (left.trans entered)
      have added : ∀ m ∈ setMember name v before, m.2.Joined := forall_mem_setMember joined known
      rcases closed with ⟨stop, rfl⟩ | ⟨behind, stop, next⟩
      · exact ⟨added, (List.suffix_cons _ rest).trans (stop ▸ left)⟩
      · have left : dropSpace behind <:+ s :=
          (dropSpace_suffix behind).trans ((List.suffix_cons _ behind).trans (stop ▸ left))
        obtain ⟨othersJoined, last⟩ := ih (Text.not_hasSurrogate_of_suffix clean left) added next
        exact ⟨othersJoined, last.trans left⟩

end

theorem joined_of_readString_map {s rest : Text} {v : Json} (clean : ¬ s.hasSurrogate)
    (read : (readString s).map (fun (t, rest) => (str t, rest)) = .ok (v, rest)) :
    v.Joined ∧ rest <:+ s := by
  obtain ⟨⟨t, left⟩, found, same⟩ := map_eq_ok_iff.mp read
  obtain ⟨rfl, rfl⟩ := Prod.mk.inj same
  obtain ⟨joined, left⟩ := joined_of_readString clean found
  exact ⟨.str joined, left⟩

theorem readsJoined_readValue (fuel depth : Nat) : ReadsJoined (readValue fuel depth) := by
  induction depth with
  | zero =>
      intro s v rest clean read
      rw [readValue.eq_def] at read
      split at read
      · exact nomatch read
      split at read
      · exact joined_of_readString_map clean read
      split at read
      · exact nomatch read
      split at read
      · exact nomatch read
      · exact joined_of_readScalar read
  | succ depth ih =>
      intro s v rest clean read
      rw [readValue.eq_def] at read
      split at read
      · exact nomatch read
      case h_2 p behind =>
      have inside : dropSpace behind <:+ p :: behind :=
        (dropSpace_suffix behind).trans (List.suffix_cons p behind)
      have closed := (List.drop_suffix 1 _).trans inside
      have cleanInside := Text.not_hasSurrogate_of_suffix clean inside
      split at read
      · exact joined_of_readString_map clean read
      split at read
      · simp only at read
        split at read
        · obtain ⟨rfl, rfl⟩ := Prod.mk.inj (Except.ok.inj read)
          exact ⟨.arr fun _ mem => absurd mem List.not_mem_nil, closed⟩
        · obtain ⟨⟨items, left⟩, found, same⟩ := map_eq_ok_iff.mp read
          obtain ⟨rfl, rfl⟩ := Prod.mk.inj same
          obtain ⟨joined, left⟩ := joined_of_readItems ih cleanInside found
          exact ⟨.arr joined, left.trans inside⟩
      split at read
      · simp only at read
        split at read
        · obtain ⟨rfl, rfl⟩ := Prod.mk.inj (Except.ok.inj read)
          exact ⟨.obj fun _ mem => absurd mem List.not_mem_nil, closed⟩
        · obtain ⟨⟨members, left⟩, found, same⟩ := map_eq_ok_iff.mp read
          obtain ⟨rfl, rfl⟩ := Prod.mk.inj same
          obtain ⟨joined, left⟩ := joined_of_readMembers ih cleanInside
            (fun _ mem => absurd mem List.not_mem_nil) found
          exact ⟨.obj joined, left.trans inside⟩
      · exact joined_of_readScalar read

/-- Every string that is read out of characters is joined. -/
theorem joined_of_read {s : Text} {v : Json} (clean : ¬ s.hasSurrogate) (found : read s = .ok v) :
    v.Joined := by
  rw [read] at found
  split at found
  · exact nomatch found
  obtain ⟨⟨w, rest⟩, value, found⟩ := bind_eq_ok_iff.mp found
  have clean := Text.not_hasSurrogate_of_suffix clean (dropSpace_suffix s)
  obtain ⟨joined, -⟩ := readsJoined_readValue _ _ _ w rest clean value
  dsimp only at found
  split at found
  · exact Except.ok.inj found ▸ joined
  · exact nomatch found

end ScriptBinding.Json
