import ScriptBinding.Proofs.Text.Casing

/-!
Snake case by places. An underscore is put behind a place exactly if this is the end of a word, which
two code points behind it decide; the two passes put it there and nowhere else. In a name of ASCII
code points nothing but the case of the letters changes besides.
-/
namespace ScriptBinding

namespace Text

/-- A capital follows, and a small letter or digit stands here or a small letter stands behind the
capital; a line feed only ends a line. -/
def isBoundary (t : Text) (i : Nat) : Bool :=
  t[i + 1]?.any CodePoint.isCapital &&
    (t[i]?.any (fun p => p.isSmall || p.isDigit) ||
      t[i]?.any (fun p : CodePoint => p ≠ '\n') && t[i + 2]?.any CodePoint.isSmall)

/-- A name with an underscore at each boundary. -/
def underscored (t : Text) : Text :=
  (t.mapIdx fun i p => if t.isBoundary i then [p, .scalar '_'] else [p]).flatten

theorem isBoundary_cons_zero (p : CodePoint) (t : Text) :
    isBoundary (p :: t) 0 = breaks p t := by
  cases t with
  | nil => rfl
  | cons q t => simp [isBoundary, breaks, List.head?_eq_getElem?]

theorem underscored_cons (p : CodePoint) (t : Text) :
    underscored (p :: t) = (if breaks p t then [p, .scalar '_'] else [p]) ++ underscored t := by
  rw [underscored, List.mapIdx_cons, List.flatten_cons, isBoundary_cons_zero]
  rfl

theorem parted_eq_underscored (t : Text) : t.parted = t.underscored := by
  induction t with
  | nil => rfl
  | cons p t ih =>
      rw [parted, underscored_cons, ih]
      split <;> rfl

theorem dropUnderscore_eq (name : Text) :
    name.dropUnderscore = if name.beginsWith '_' then name.tail else name := by
  cases name with
  | nil => rfl
  | cons p rest => simp [dropUnderscore, beginsWith]

/-- The two passes are one rule. -/
theorem snake_eq_underscored (name : Text) :
    name.snake =
      let t := name.dropUnderscore
      (if t.contains '_' || t.isLowercase then t else t.underscored).lower := by
  have passes :
      partCapitals (partWords .outside name.dropUnderscore) = name.dropUnderscore.parted :=
    partCapitals_partWords nofun
  simp only [snake, passes, parted_eq_underscored]
  split <;> rfl

end Text

namespace CodePoint

/-- The small letter of a capital; anything else as it is. -/
def lowered (p : CodePoint) : CodePoint := if p.isCapital then ofNat (p.value + 0x20) else p

theorem value_lowered (p : CodePoint) :
    p.lowered.value = if p.isCapital then p.value + 0x20 else p.value := by
  rw [lowered]
  split
  case isTrue capital =>
    rw [isCapital_iff] at capital
    exact value_ofNat (by omega)
  case isFalse => rfl

/-- Only an underscore becomes one. -/
theorem lowered_eq_underscore_iff {p : CodePoint} : p.lowered = '_' ↔ p = '_' := by
  have value (q : CodePoint) : q = '_' ↔ q.value = 0x5F := by
    constructor
    · rintro rfl
      rfl
    · intro same
      rw [← q.ofNat_value, same]
      rfl
  rw [value, value, value_lowered]
  split
  case isTrue capital =>
    rw [isCapital_iff] at capital
    omega
  case isFalse => rfl

theorem lower_of_ascii {p : CodePoint} (low : p.value < 0x80) : p.lower = [p.lowered] :=
  forall_ascii (P := fun p => p.lower = [p.lowered]) (by decide +kernel) low

theorem not_isUppercase_lowered {p : CodePoint} (low : p.value < 0x80) :
    p.lowered.isUppercase = false :=
  forall_ascii (P := fun p => p.lowered.isUppercase = false) (by decide +kernel) low

end CodePoint

namespace Text

theorem lower_of_ascii {t : Text} (low : ∀ p ∈ t, p.value < 0x80) :
    t.lower = t.map CodePoint.lowered := by
  rw [lower_eq_flatMap low, List.map_eq_flatMap]
  exact congrArg List.flatten
    (List.map_congr_left fun p mem => CodePoint.lower_of_ascii (low p mem))

/-- A text without its underscores. -/
def unscored (t : Text) : Text := t.filter (· ≠ '_')

theorem unscored_map_lowered (t : Text) :
    unscored (t.map CodePoint.lowered) = (unscored t).map CodePoint.lowered := by
  simp only [unscored, List.filter_map, Function.comp_def, ne_eq,
    CodePoint.lowered_eq_underscore_iff]

theorem unscored_cons (p : CodePoint) (t : Text) :
    unscored (p :: t) = if p = '_' then unscored t else p :: unscored t := by
  by_cases mark : p = '_' <;> simp [unscored, mark]

theorem unscored_parted (t : Text) : unscored t.parted = unscored t := by
  induction t with
  | nil => rfl
  | cons p rest ih =>
      rw [parted]
      split <;> simp only [unscored_cons, ih, if_true]

theorem unscored_separated (name : Text) : unscored name.separated = unscored name := by
  have dropped : unscored name.dropUnderscore = unscored name := by
    cases name with
    | nil => rfl
    | cons p rest =>
        rw [dropUnderscore]
        split
        case isTrue mark => rw [unscored_cons, if_pos mark]
        case isFalse => rfl
  simp only [separated]
  split
  · exact dropped
  · rw [unscored_parted, dropped]

section
variable {name : Text} (low : ∀ p ∈ name, p.value < 0x80)
include low

theorem snake_of_ascii : name.snake = name.separated.map CodePoint.lowered := by
  rw [snake_eq]
  apply lower_of_ascii
  intro p mem
  rcases mem_separated mem with mem | rfl
  · exact low p mem
  · decide

/-- Apart from underscores, a name only changes its case. -/
theorem unscored_snake : unscored name.snake = (unscored name).lower := by
  rw [snake_of_ascii low, unscored_map_lowered, unscored_separated]
  exact (lower_of_ascii fun p mem => low p (List.mem_filter.mp mem).1).symm

theorem not_isUppercase_of_mem_snake : ∀ p ∈ name.snake, p.isUppercase = false := by
  rw [snake_of_ascii low, List.forall_mem_map]
  intro p mem
  apply CodePoint.not_isUppercase_lowered
  rcases mem_separated mem with mem | rfl
  · exact low p mem
  · decide

end

/-- Snake case by places: one leading underscore is dropped; a name that still holds one, or is in
lower case, is put into lower case as it is, and any other one with an underscore at each boundary.
In ASCII nothing but underscores and the case of letters changes, and no capital is left. -/
theorem snake_by_boundaries (name : Text) :
    (name.snake =
      let t : Text := if name.beginsWith '_' then name.tail else name
      (if t.contains '_' || t.isLowercase then t else t.underscored).lower) ∧
    ((∀ p ∈ name, p.value < 0x80) →
      unscored name.snake = (unscored name).lower ∧ ∀ p ∈ name.snake, p.isUppercase = false) := by
  refine ⟨?_, fun low => ⟨unscored_snake low, not_isUppercase_of_mem_snake low⟩⟩
  rw [snake_eq_underscored, dropUnderscore_eq]

theorem snake_by_boundaries_response :
    (∀ p ∈ ofString "_getHTTPResponse2XML", p.value < 0x80) ∧
      snake "_getHTTPResponse2XML" = "get_http_response2_xml" ∧
      unscored (snake "_getHTTPResponse2XML") = "gethttpresponse2xml" := by
  obtain ⟨rule, ascii⟩ := snake_by_boundaries "_getHTTPResponse2XML"
  have low : ∀ p ∈ ofString "_getHTTPResponse2XML", p.value < 0x80 := by decide
  exact ⟨low, rule.trans (by decide +kernel), (ascii low).1.trans (by decide +kernel)⟩

end Text

end ScriptBinding
