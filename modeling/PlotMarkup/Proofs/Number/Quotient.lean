import PlotMarkup.Proofs.Number.Nearest

namespace PlotMarkup.Number

open Float.Model hiding pack unpack
open Float.Model.UnpackedFloat

variable {m m' : Nat} {e e' : Int}

theorem tells_exact (mantissa : Nat) : Tells (.ofMantissaAndAccuracy mantissa .exact) mantissa :=
  rfl

theorem le_target_of_long {mantissa : Nat} {exponent : Int} (long : 52 ≤ mantissa.log2) :
    exponent ≤ target mantissa exponent := by
  unfold target totalExponent
  omega

theorem tells_fraction {divisor : Nat} (dividend : Nat) (pos : 0 < divisor) :
    Tells (.ofMantissaAndAccuracy (dividend / divisor)
      (accuracyOfFraction (dividend % divisor) divisor)) (dividend / divisor) := by
  have positive : (0 : ℚ) < divisor := by exact_mod_cast pos
  have whole : (dividend : ℚ) / divisor =
      (dividend / divisor : Nat) + (dividend % divisor : Nat) / divisor := by
    rw [div_eq_iff positive.ne', add_mul, div_mul_cancel₀ _ positive.ne']
    exact_mod_cast (Nat.div_add_mod' dividend divisor).symm
  have less : ((dividend % divisor : Nat) : ℚ) / divisor < 1 := by
    rw [div_lt_one positive]
    exact_mod_cast Nat.mod_lt _ pos
  rw [whole]
  generalize dividend % divisor = rest at *
  unfold accuracyOfFraction
  split
  · rename_i zero
    subst zero
    simp [Tells, ExtendedMantissa.ofMantissaAndAccuracy]
  · rename_i some
    have some : (0 : ℚ) < rest / divisor := by
      have := Nat.pos_of_ne_zero some
      positivity
    cases order : compare (2 * rest) divisor with
    | lt =>
        have half : (rest : ℚ) / divisor < 1 / 2 := by
          rw [div_lt_iff₀ positive]
          have := Nat.compare_eq_lt.mp order
          have : (2 * rest : ℚ) < divisor := by exact_mod_cast this
          linarith
        simp only [Tells, ExtendedMantissa.ofMantissaAndAccuracy]
        constructor <;> linarith
    | eq =>
        have half : (rest : ℚ) / divisor = 1 / 2 := by
          rw [div_eq_iff positive.ne']
          have := Nat.compare_eq_eq.mp order
          have : (2 * rest : ℚ) = divisor := by exact_mod_cast this
          linarith
        exact congrArg _ half
    | gt =>
        have half : 1 / 2 < (rest : ℚ) / divisor := by
          rw [lt_div_iff₀ positive]
          have := Nat.compare_eq_gt.mp order
          have : (divisor : ℚ) < 2 * rest := by exact_mod_cast this
          linarith
        simp only [Tells, ExtendedMantissa.ofMantissaAndAccuracy]
        constructor <;> linarith

theorem le_target_of_quotient (pos : 0 < m) (pos' : 0 < m') {place : Int} (low : place ≤ e - e')
    (most : place ≤ max (totalExponent m e - totalExponent m' e' - 53) (-1074)) :
    place ≤ target (m * 2 ^ (e - e' - place).toNat / m') place := by
  rcases le_or_gt place (-1074) with least | above
  · exact least.trans (le_max_right _ _)
  · have long : 2 ^ 52 ≤ m * 2 ^ (e - e' - place).toNat / m' := by
      rw [Nat.le_div_iff_mul_le pos']
      calc 2 ^ 52 * m' ≤ 2 ^ 52 * 2 ^ (m'.log2 + 1) := Nat.mul_le_mul_left _ Nat.lt_log2_self.le
        _ = 2 ^ (m'.log2 + 53) := by rw [← Nat.pow_add]; congr 1; omega
        _ ≤ 2 ^ (m.log2 + (e - e' - place).toNat) := by
          refine Nat.pow_le_pow_right (by decide) ?_
          unfold totalExponent at most
          omega
        _ ≤ m * 2 ^ (e - e' - place).toNat := by
          rw [Nat.pow_add]
          exact Nat.mul_le_mul_right _ (Nat.log2_self_le pos.ne')
    exact le_target_of_long ((Nat.le_log2 (by omega)).mpr long)

theorem exists_quotient (sign sign' : Sign) (e e' : Int) (pos : 0 < m) (pos' : 0 < m') :
    ∃ mantissa place accuracy,
      div Format.binary64 (.finite sign m e pos) (.finite sign' m' e' pos') =
        roundWithAccuracy Format.binary64 (sign / sign') mantissa place accuracy ∧
      Tells (.ofMantissaAndAccuracy mantissa accuracy) (m * 2 ^ e / (m' * 2 ^ e') / 2 ^ place) ∧
      place ≤ target mantissa place := by
  let place :=
    min (e - e') (Format.binary64.targetExponent (totalExponent m e - totalExponent m' e'))
  have low : place ≤ e - e' := min_le_left _ _
  have fine := le_target_of_quotient pos pos' low (min_le_right _ _)
  have exact : ((m * 2 ^ (e - e' - place).toNat : Nat) : ℚ) / m' =
      m * 2 ^ e / (m' * 2 ^ e') / 2 ^ place := by
    push_cast
    rw [← zpow_natCast, Int.toNat_of_nonneg (by omega), zpow_sub₀ two_ne_zero,
      zpow_sub₀ two_ne_zero]
    field_simp
  have told := tells_fraction (m * 2 ^ (e - e' - place).toNat) pos'
  rw [exact] at told
  refine ⟨_, place, _, ?_, told, fine⟩
  unfold UnpackedFloat.div divCore
  dsimp only
  rw [Nat.shiftLeft_eq]

end PlotMarkup.Number
