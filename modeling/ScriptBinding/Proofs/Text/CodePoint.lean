import ScriptBinding.Text.CodePoint

/-!
Code points and their numbers. A code point is known by its number, and below the surrogates every
number is that of a character.
-/
namespace ScriptBinding.CodePoint

theorem valid_of_scalar (c : Char) :
    (scalar c).value < 0xD800 ∨ 0xDFFF < (scalar c).value ∧ (scalar c).value < 0x110000 := c.valid

theorem isSurrogate_iff (p : CodePoint) : p.isSurrogate ↔ 0xD800 ≤ p.value ∧ p.value < 0xE000 := by
  cases p with
  | scalar c =>
      have valid := valid_of_scalar c
      simp only [isSurrogate, Bool.false_eq_true, false_iff]
      omega
  | surrogate offset =>
      simp only [isSurrogate, value, true_iff]
      omega

theorem value_lt (p : CodePoint) : p.value < 0x110000 := by
  cases p with
  | scalar c =>
      have valid := valid_of_scalar c
      omega
  | surrogate offset =>
      simp only [value]
      omega

theorem ofNat_value (p : CodePoint) : ofNat p.value = p := by
  cases p with
  | scalar c =>
      have other := mt (isSurrogate_iff (scalar c)).mpr Bool.false_ne_true
      rw [ofNat, dif_neg other, value, Char.ofNat_toNat]
  | surrogate offset =>
      have inside : 0xD800 ≤ 0xD800 + offset.val ∧ 0xD800 + offset.val < 0xE000 := by omega
      simp [value, ofNat, inside]

theorem not_isSurrogate_ofNat {n : Nat} (outside : ¬ (0xD800 ≤ n ∧ n < 0xE000)) :
    ¬ (ofNat n).isSurrogate := by
  rw [ofNat, dif_neg outside]
  exact Bool.false_ne_true

theorem value_ofNat {n : Nat} (low : n < 0xD800) : (ofNat n).value = n := by
  have valid : n.isValidChar := .inl low
  rw [ofNat, dif_neg (by omega), value, Char.ofNat, dif_pos valid]
  rfl

end ScriptBinding.CodePoint
