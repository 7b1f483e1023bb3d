import ScriptBinding.Proofs.Json.Reading

/-!
Values that are written and read again. A value that holds no number comes back from its text if
its strings are joined, no object has two members of one name, and it is nested no deeper than the
reader goes. How the text is laid out does not matter, as long as only white space stands between
the tokens.
-/
namespace ScriptBinding.Json

mutual

/-- How many arrays and objects stand inside each other. -/
def nesting : Json → Nat
  | arr items => nestingItems items + 1
  | obj members => nestingMembers members + 1
  | null | bool _ | int _ | real _ | str _ => 0

def nestingItems : List Json → Nat
  | [] => 0
  | v :: rest => max v.nesting (nestingItems rest)

def nestingMembers : List (Text × Json) → Nat
  | [] => 0
  | (_, v) :: rest => max v.nesting (nestingMembers rest)

end

theorem nesting_le_nestingItems {items : List Json} :
    ∀ v ∈ items, v.nesting ≤ nestingItems items := by
  induction items with
  | nil => exact fun _ mem => absurd mem List.not_mem_nil
  | cons v rest ih =>
      exact List.forall_mem_cons.mpr ⟨Nat.le_max_left _ _, fun w mem =>
        (ih w mem).trans (Nat.le_max_right _ _)⟩

theorem nesting_le_nestingMembers {members : List (Text × Json)} :
    ∀ m ∈ members, m.2.nesting ≤ nestingMembers members := by
  induction members with
  | nil => exact fun _ mem => absurd mem List.not_mem_nil
  | cons m rest ih =>
      exact List.forall_mem_cons.mpr ⟨Nat.le_max_left _ _, fun w mem =>
        (ih w mem).trans (Nat.le_max_right _ _)⟩

theorem indentedItems_eq_map (depth : Nat) (items : List Json) :
    indentedItems depth items = items.map (indentedAt depth) := by
  induction items with
  | nil => rfl
  | cons v rest ih => rw [indentedItems, ih, List.map_cons]

theorem indentedMembers_eq_map (depth : Nat) (members : List (Text × Json)) :
    indentedMembers depth members =
      members.map fun m => literal m.1 ++ ": " ++ m.2.indentedAt depth := by
  induction members with
  | nil => rfl
  | cons m rest ih => rw [indentedMembers, ih, List.map_cons]

theorem setMember_eq_append {name : Text} {members : List (Text × Json)}
    (absent : name ∉ members.map Prod.fst) (v : Json) :
    setMember name v members = members ++ [(name, v)] := by
  induction members with
  | nil => rfl
  | cons m rest ih =>
      obtain ⟨other, unlisted⟩ := not_or.mp (mt List.mem_cons.mpr absent)
      rw [setMember, if_neg (Ne.symm other), ih unlisted, List.cons_append]

/-- Nothing but white space. -/
def Blank (t : Text) : Prop := ∀ p ∈ t, isSpace p

/-- A text that does not start with white space. -/
def Solid (t : Text) : Prop := ∃ p rest, t = p :: rest ∧ ¬ isSpace p

theorem blank_newLine (depth : Nat) : Blank (newLine depth) := by
  refine List.forall_mem_cons.mpr ⟨rfl, fun p mem => ?_⟩
  rw [List.eq_of_mem_replicate mem]
  rfl

theorem Solid.append {t : Text} (h : Solid t) (rest : Text) : Solid (t ++ rest) := by
  obtain ⟨p, tail, rfl, solid⟩ := h
  exact ⟨p, tail ++ rest, rfl, solid⟩

theorem Solid.head?_append {t : Text} (h : Solid t) (rest : Text) :
    (t ++ rest).head? = t.head? := by
  obtain ⟨p, tail, rfl, -⟩ := h
  rfl

theorem exists_join_cons (separator t : Text) (others : List Text) :
    ∃ tail, Text.join separator (t :: others) = t ++ tail := by
  cases others with
  | nil => exact ⟨[], by rw [Text.join, List.intercalate_singleton, List.append_nil]⟩
  | cons u others =>
      rw [Text.join, List.intercalate_cons_cons, List.append_assoc]
      exact ⟨_, rfl⟩

theorem Solid.join {t : Text} (h : Solid t) (separator : Text) (others : List Text) :
    Solid (Text.join separator (t :: others)) := by
  obtain ⟨tail, same⟩ := exists_join_cons separator t others
  exact same ▸ h.append tail

theorem Solid.head?_join {t : Text} (h : Solid t) (separator : Text) (others : List Text) :
    (Text.join separator (t :: others)).head? = t.head? := by
  obtain ⟨tail, same⟩ := exists_join_cons separator t others
  rw [same, h.head?_append]

theorem dropSpace_append {blank t : Text} (h : Blank blank) (solid : Solid t) :
    dropSpace (blank ++ t) = t := by
  obtain ⟨p, rest, rfl, starts⟩ := solid
  rw [dropSpace, List.dropWhile_append_of_pos h, List.dropWhile_cons_of_neg starts]

theorem dropSpace_solid {t : Text} (solid : Solid t) : dropSpace t = t :=
  dropSpace_append (fun _ mem => absurd mem List.not_mem_nil) solid

/-- A text that a reader of values takes for this value, whatever stands behind it. -/
structure ReadAs (item : Text → Except Failure (Json × Text)) (t : Text) (v : Json) : Prop where
  solid : Solid t
  opens : t.head? ≠ some (.scalar ']')
  read : ∀ rest, item (t ++ rest) = .ok (v, rest)

section
variable {item : Text → Except Failure (Json × Text)} {written : Json → Text}
  {separator closing : Text}

/-- A member as it is written, with the text of its value. -/
def memberText (written : Json → Text) (m : Text × Json) : Text :=
  literal m.1 ++ ": " ++ written m.2

theorem solid_memberText (written : Json → Text) (m : Text × Json) : Solid (memberText written m) :=
  ⟨_, _, rfl, by decide⟩

theorem head?_memberText (written : Json → Text) (m : Text × Json) :
    (memberText written m).head? = some (.scalar '"') := rfl

theorem readsMember_memberText {m : Text × Json} (joined : m.1.Joined)
    (h : ReadAs item (written m.2) m.2) (rest : Text) :
    ReadsMember item (memberText written m ++ rest) m.1 m.2 rest := by
  have split : memberText written m ++ rest =
      literal m.1 ++ (.scalar ':' :: .scalar ' ' :: (written m.2 ++ rest)) := by
    simp [memberText, Text.ofString]
  rw [split]
  refine ⟨rfl, _, _, (readString_literal_iff m.1 _).mpr joined, rfl, ?_⟩
  exact (congrArg item (dropSpace_solid (h.solid.append rest))).trans (h.read rest)

variable (blank : Blank separator) (blankEnd : Blank closing) (rest : Text)
include blank blankEnd

theorem readItems_join {items : List Json} (h : ∀ v ∈ items, ReadAs item (written v) v)
    (some : items ≠ []) {fuel : Nat} (enough : items.length ≤ fuel) :
    readItems item fuel (Text.join (.scalar ',' :: separator) (items.map written) ++
      (closing ++ .scalar ']' :: rest)) = .ok (items, rest) := by
  induction items generalizing fuel with
  | nil => exact absurd rfl some
  | cons v others ih =>
      obtain ⟨first, behind⟩ := List.forall_mem_cons.mp h
      cases fuel with
      | zero => exact absurd enough (Nat.not_succ_le_zero _)
      | succ fuel =>
          cases others with
          | nil =>
              rw [List.map_singleton, Text.join, List.intercalate_singleton]
              have stop := dropSpace_append blankEnd ⟨.scalar ']', rest, rfl, by decide⟩
              exact readItems_succ_eq_ok_iff.mpr ⟨v, _, first.read _, .inl ⟨stop, rfl⟩⟩
          | cons w others =>
              specialize ih behind (List.cons_ne_nil _ _) (Nat.le_of_succ_le_succ enough)
              have next := (behind w List.mem_cons_self).solid.join (.scalar ',' :: separator)
                (others.map written)
              rw [List.map_cons, ← dropSpace_append blank (next.append _)] at ih
              rw [List.map_cons, List.map_cons, Text.join, List.intercalate_cons_cons,
                List.append_assoc, List.append_assoc]
              exact readItems_succ_eq_ok_iff.mpr
                ⟨v, _, first.read _, .inr ⟨_, w :: others, rfl, ih, rfl⟩⟩

theorem readMembers_join (before : List (Text × Json)) {members : List (Text × Json)}
    (joined : ∀ m ∈ members, m.1.Joined) (h : ∀ m ∈ members, ReadAs item (written m.2) m.2)
    (distinct : ((before ++ members).map Prod.fst).Nodup) (some : members ≠ [])
    {fuel : Nat} (enough : members.length ≤ fuel) :
    readMembers item fuel before
      (Text.join (.scalar ',' :: separator) (members.map (memberText written)) ++
        (closing ++ .scalar '}' :: rest)) = .ok (before ++ members, rest) := by
  induction members generalizing fuel before with
  | nil => exact absurd rfl some
  | cons m others ih =>
      obtain ⟨first, behind⟩ := List.forall_mem_cons.mp h
      obtain ⟨named, othersNamed⟩ := List.forall_mem_cons.mp joined
      have added : setMember m.1 m.2 before = before ++ [m] := by
        rw [List.map_append, List.map_cons] at distinct
        have apart := (List.nodup_append.mp distinct).2.2
        exact setMember_eq_append (fun mem => apart _ mem _ List.mem_cons_self rfl) m.2
      cases fuel with
      | zero => exact absurd enough (Nat.not_succ_le_zero _)
      | succ fuel =>
          cases others with
          | nil =>
              rw [List.map_singleton, Text.join, List.intercalate_singleton, ← added]
              have stop := dropSpace_append blankEnd ⟨.scalar '}', rest, rfl, by decide⟩
              exact readMembers_succ_eq_ok_iff.mpr
                ⟨m.1, m.2, _, readsMember_memberText named first _, .inl ⟨stop, rfl⟩⟩
          | cons w others =>
              rw [List.append_cons] at distinct
              specialize ih (before ++ [m]) othersNamed behind distinct (List.cons_ne_nil _ _)
                (Nat.le_of_succ_le_succ enough)
              have next := (solid_memberText written w).join (.scalar ',' :: separator)
                (others.map (memberText written))
              rw [List.map_cons, ← dropSpace_append blank (next.append _)] at ih
              rw [List.map_cons, List.map_cons, Text.join, List.intercalate_cons_cons,
                List.append_assoc, List.append_assoc, List.append_cons before m]
              exact readMembers_succ_eq_ok_iff.mpr
                ⟨m.1, m.2, _, readsMember_memberText named first _, .inr ⟨_, rfl, added ▸ ih⟩⟩

end

section
variable {fuel depth : Nat} {s inside rest : Text}

theorem readValue_items {items : List Json} (entered : dropSpace s = inside)
    (opens : inside.head? ≠ some (.scalar ']'))
    (read : readItems (readValue fuel depth) fuel inside = .ok (items, rest)) :
    readValue fuel (depth + 1) (.scalar '[' :: s) = .ok (arr items, rest) := by
  rw [readValue.eq_def]
  simp [entered, opens, read, Text.beginsWith, Except.map]

theorem readValue_members {members : List (Text × Json)} (entered : dropSpace s = inside)
    (opens : inside.head? ≠ some (.scalar '}'))
    (read : readMembers (readValue fuel depth) fuel [] inside = .ok (members, rest)) :
    readValue fuel (depth + 1) (.scalar '{' :: s) = .ok (obj members, rest) := by
  rw [readValue.eq_def]
  simp [entered, opens, read, Text.beginsWith, Except.map]

theorem readAs_null : ReadAs (readValue fuel depth) "null" null where
  solid := ⟨_, _, rfl, by decide⟩
  opens := by decide
  read rest := by
    rw [readValue.eq_def]
    rfl

theorem readAs_bool (b : Bool) : ReadAs (readValue fuel depth) (bool b).oneLine (bool b) where
  solid := by cases b <;> exact ⟨_, _, rfl, by decide⟩
  opens := by cases b <;> decide
  read rest := by
    rw [readValue.eq_def]
    cases b <;> rfl

theorem readAs_str {t : Text} (joined : t.Joined) :
    ReadAs (readValue fuel depth) (literal t) (str t) where
  solid := ⟨_, _, rfl, by decide⟩
  opens := by simp [literal, Text.ofString]
  read rest := by
    have read := (readString_literal_iff t rest).mpr joined
    rw [readValue.eq_def]
    change (readString (literal t ++ rest)).map _ = _
    rw [read]
    rfl

theorem readAs_emptyItems : ReadAs (readValue fuel (depth + 1)) "[]" (arr []) where
  solid := ⟨_, _, rfl, by decide⟩
  opens := by decide
  read rest := by
    rw [readValue.eq_def]
    rfl

theorem readAs_emptyMembers : ReadAs (readValue fuel (depth + 1)) "\x7b\x7d" (obj []) where
  solid := ⟨_, _, rfl, by decide⟩
  opens := by decide
  read rest := by
    rw [readValue.eq_def]
    rfl

variable {written : Json → Text} {opening separator closing : Text} (blankStart : Blank opening)
  (blank : Blank separator) (blankEnd : Blank closing)
include blankStart blank blankEnd

theorem readAs_items {items : List Json}
    (h : ∀ v ∈ items, ReadAs (readValue fuel depth) (written v) v) (some : items ≠ [])
    (enough : items.length ≤ fuel) :
    ReadAs (readValue fuel (depth + 1))
      ("[" ++ opening ++ Text.join (.scalar ',' :: separator) (items.map written) ++ closing ++ "]")
      (arr items) where
  solid := ⟨_, _, rfl, by decide⟩
  opens := by simp [Text.ofString]
  read rest := by
    have read := readItems_join blank blankEnd rest h some enough
    obtain ⟨v, others, rfl⟩ := List.exists_cons_of_ne_nil some
    have first := h v List.mem_cons_self
    have starts := first.solid.join (.scalar ',' :: separator) (others.map written)
    have split (t : Text) : ("[" ++ opening ++ t ++ closing ++ "]") ++ rest =
        .scalar '[' :: (opening ++ (t ++ (closing ++ .scalar ']' :: rest))) := by
      simp [Text.ofString]
    rw [List.map_cons] at read ⊢
    rw [split]
    refine readValue_items (dropSpace_append blankStart (starts.append _)) ?_ read
    rw [starts.head?_append, first.solid.head?_join]
    exact first.opens

theorem readAs_members {members : List (Text × Json)} (joined : ∀ m ∈ members, m.1.Joined)
    (h : ∀ m ∈ members, ReadAs (readValue fuel depth) (written m.2) m.2)
    (distinct : (members.map Prod.fst).Nodup) (some : members ≠ [])
    (enough : members.length ≤ fuel) :
    ReadAs (readValue fuel (depth + 1))
      ("\x7b" ++ opening ++
        Text.join (.scalar ',' :: separator) (members.map (memberText written)) ++ closing ++
          "\x7d")
      (obj members) where
  solid := ⟨_, _, rfl, by decide⟩
  opens := by simp [Text.ofString]
  read rest := by
    have read := readMembers_join blank blankEnd rest [] joined h distinct some enough
    obtain ⟨m, others, rfl⟩ := List.exists_cons_of_ne_nil some
    have solid := solid_memberText written m
    have starts := solid.join (.scalar ',' :: separator) (others.map (memberText written))
    have split (t : Text) : ("\x7b" ++ opening ++ t ++ closing ++ "\x7d") ++ rest =
        .scalar '{' :: (opening ++ (t ++ (closing ++ .scalar '}' :: rest))) := by
      simp [Text.ofString]
    rw [List.map_cons] at read ⊢
    rw [split]
    refine readValue_members (dropSpace_append blankStart (starts.append _)) ?_ read
    rw [starts.head?_append, solid.head?_join, head?_memberText]
    decide

end

/-- A value without numbers whose strings are joined, and whose objects name no member twice. -/
inductive Legible : Json → Prop
  | null : Legible null
  | bool (b : Bool) : Legible (bool b)
  | str {t : Text} (joined : t.Joined) : Legible (str t)
  | arr {items : List Json} (each : ∀ v ∈ items, Legible v) : Legible (arr items)
  | obj {members : List (Text × Json)} (names : ∀ m ∈ members, m.1.Joined)
      (distinct : (members.map Prod.fst).Nodup) (each : ∀ m ∈ members, Legible m.2) :
      Legible (obj members)

theorem length_le_length_join {t : Text} {parts : List Text} (mem : t ∈ parts) (separator : Text) :
    t.length ≤ (Text.join separator parts).length := by
  induction parts with
  | nil => exact absurd mem List.not_mem_nil
  | cons u others ih =>
      obtain ⟨tail, same⟩ := exists_join_cons separator u others
      rcases List.mem_cons.mp mem with rfl | behind
      · rw [same, List.length_append]
        exact Nat.le_add_right _ _
      · cases others with
        | nil => exact absurd behind List.not_mem_nil
        | cons w others =>
            rw [Text.join, List.intercalate_cons_cons, List.length_append]
            exact (ih behind).trans (Nat.le_add_left _ _)

theorem count_le_length_join {separator : Text} (some : separator ≠ []) (parts : List Text) :
    parts.length ≤ (Text.join separator parts).length + 1 := by
  have long := List.length_pos_of_ne_nil some
  induction parts with
  | nil => exact Nat.zero_le _
  | cons u others ih =>
      cases others with
      | nil => exact Nat.le_add_left _ _
      | cons w others =>
          rw [Text.join, List.intercalate_cons_cons, ← Text.join, List.length_append,
            List.length_append, List.length_cons]
          omega

/-- What stands in brackets has no more parts than code points, and no part longer than the
whole. -/
theorem le_length_bracketed (opening closing : Text) (level : Nat) (parts : List Text) :
    parts.length ≤ (bracketed opening closing level parts).length ∧
      ∀ t ∈ parts, t.length ≤ (bracketed opening closing level parts).length := by
  cases parts with
  | nil => exact ⟨Nat.zero_le _, fun _ mem => absurd mem List.not_mem_nil⟩
  | cons u others =>
      have separated : "," ++ newLine (level + 1) ≠ ([] : Text) := List.cons_ne_nil _ _
      have count := count_le_length_join separated (u :: others)
      have apart : 0 < (newLine level).length := Nat.succ_pos _
      simp only [bracketed, List.length_append]
      refine ⟨by omega, fun t mem => ?_⟩
      have := length_le_length_join mem ("," ++ newLine (level + 1))
      omega

/-- A value is read from what it is written as, with one element a line. -/
theorem readAs_indentedAt {v : Json} (legible : v.Legible) (level : Nat) {fuel depth : Nat}
    (shallow : v.nesting ≤ depth) (enough : (v.indentedAt level).length ≤ fuel) :
    ReadAs (readValue fuel depth) (v.indentedAt level) v := by
  induction legible generalizing level depth with
  | null => exact readAs_null
  | bool b => exact readAs_bool b
  | str joined => exact readAs_str joined
  | @arr items each ih =>
      obtain ⟨depth, rfl⟩ := Nat.exists_eq_add_one_of_ne_zero (Nat.ne_zero_of_lt shallow)
      have inside : nestingItems items ≤ depth := Nat.le_of_succ_le_succ shallow
      rw [indentedAt, indentedItems_eq_map] at enough ⊢
      obtain ⟨count, lengths⟩ :=
        le_length_bracketed "[" "]" level (items.map (indentedAt (level + 1)))
      rw [List.length_map] at count
      have read : ∀ v ∈ items, ReadAs (readValue fuel depth) (v.indentedAt (level + 1)) v := by
        intro v mem
        exact ih v mem (level + 1) ((nesting_le_nestingItems v mem).trans inside)
          ((lengths _ (List.mem_map_of_mem mem)).trans enough)
      cases items with
      | nil => exact readAs_emptyItems
      | cons v others =>
          exact readAs_items (blank_newLine _) (blank_newLine _) (blank_newLine _) read
            (List.cons_ne_nil _ _) (count.trans enough)
  | @obj members names distinct each ih =>
      obtain ⟨depth, rfl⟩ := Nat.exists_eq_add_one_of_ne_zero (Nat.ne_zero_of_lt shallow)
      have inside : nestingMembers members ≤ depth := Nat.le_of_succ_le_succ shallow
      rw [indentedAt, indentedMembers_eq_map] at enough ⊢
      obtain ⟨count, lengths⟩ := le_length_bracketed "\x7b" "\x7d" level
        (members.map (memberText (indentedAt (level + 1))))
      rw [List.length_map] at count
      have read :
          ∀ m ∈ members, ReadAs (readValue fuel depth) (m.2.indentedAt (level + 1)) m.2 := by
        intro m mem
        refine ih m mem (level + 1) ((nesting_le_nestingMembers m mem).trans inside) ?_
        refine le_trans ?_ ((lengths _ (List.mem_map_of_mem mem)).trans enough)
        rw [memberText, List.length_append]
        exact Nat.le_add_left _ _
      cases members with
      | nil => exact readAs_emptyMembers
      | cons m others =>
          exact readAs_members (blank_newLine _) (blank_newLine _) (blank_newLine _) names read
            distinct (List.cons_ne_nil _ _) (count.trans enough)

/-- A text is read as what its only value is read as. -/
theorem read_of_readAs {t : Text} {v : Json} (unmarked : ¬ t.beginsWith (Char.ofNat 0xFEFF))
    (h : ReadAs (readValue t.length nestingLimit) t v) : read t = .ok v := by
  have whole := h.read []
  rw [List.append_nil] at whole
  rw [read.eq_def, dropSpace_solid h.solid, whole]
  simp [unmarked, bind, Except.bind, dropSpace]

end ScriptBinding.Json
