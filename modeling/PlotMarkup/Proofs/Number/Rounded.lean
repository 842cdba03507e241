import PlotMarkup.Proofs.Number.Quotient
import PlotMarkup.Proofs.Number.Value

namespace PlotMarkup.Number

open Float.Model hiding pack unpack
open Float.Model.UnpackedFloat

def overflow : ℚ :=
  2 ^ 1024 - 2 ^ 970

/-- The double is the number rounded: to the nearest one, or to an infinity. -/
def Rounds (r : ℚ) (x : Float) : Prop :=
  ∃ (v : Magnitude) (sign : Sign), v.Shaped ∧ v.Attracts |r| ∧ r = signed sign |r| ∧
    x = ⟨Float.Model.pack (v.signed sign)⟩

variable {v : Magnitude} {r : ℚ} {x y : Float}

theorem rounds_roundWithAccuracy {mantissa : Nat} {exponent : Int} {accuracy : Accuracy}
    (tells : Tells (.ofMantissaAndAccuracy mantissa accuracy) (r / 2 ^ exponent))
    (fine : exponent ≤ target mantissa exponent) (sign : Sign) : Rounds (signed sign r)
    ⟨Float.Model.pack (roundWithAccuracy Format.binary64 sign mantissa exponent accuracy)⟩ := by
  obtain ⟨v, shaped, attracts, same⟩ := exists_attracts tells fine sign
  have nonneg : 0 ≤ r := by
    have below := tells.floor.1
    rw [le_div_iff₀ (by positivity)] at below
    exact le_trans (by positivity) below
  refine ⟨v, sign, shaped, ?_, ?_, congrArg _ (congrArg _ same)⟩
  · rwa [abs_signed sign nonneg]
  · rw [abs_signed sign nonneg]

theorem unpack_pack_of_shaped (shaped : v.Shaped) (sign : Sign) :
    (Float.Model.pack (v.signed sign)).unpack =
      if v.exponent ≤ 971 then v.signed sign else .infinity sign := by
  by_cases most : v.exponent ≤ 971
  · rw [if_pos most]
    exact unpack_pack (shaped.canonical most) sign
  · rw [if_neg most]
    have pos : 0 < v.significand := by
      have := shaped.long (by omega)
      omega
    have packed : UnpackedFloat.pack Format.binary64 (v.signed sign) =
        packedInfinity Format.binary64 sign := by
      rw [v.signed_of_pos pos]
      unfold UnpackedFloat.pack
      simp only
      exact if_pos (by show 2 ^ 11 ≤ (v.exponent + 1023 + 52).toNat + 1; omega)
    show UnpackedFloat.unpack Format.binary64 (UnpackedFloat.pack Format.binary64 _) = _
    rw [packed]
    cases sign <;> rfl

theorem overflow_eq : overflow = (2 ^ 53 - 1 / 2) * 2 ^ (971 : ℤ) := by
  have first : (2 : ℚ) ^ 1024 = 2 ^ 53 * 2 ^ 971 := pow_add 2 53 971
  have second : (2 : ℚ) ^ 971 = 2 ^ 970 * 2 := pow_succ 2 970
  have whole : (2 : ℚ) ^ (971 : ℤ) = 2 ^ 971 := zpow_natCast 2 971
  rw [overflow, whole, first, second]
  generalize (2 : ℚ) ^ 970 = unit
  ring

theorem Magnitude.Attracts.exponent_le_iff (attracts : v.Attracts r) (shaped : v.Shaped) :
    v.exponent ≤ 971 ↔ r < overflow := by
  rw [overflow_eq]
  have short : (v.significand : ℚ) + 1 ≤ 2 ^ 53 := by exact_mod_cast shaped.short
  constructor
  · intro most
    have below : (v.significand + 1 / 2 : ℚ) * 2 ^ v.exponent ≤ (2 ^ 53 - 1 / 2) * 2 ^ (971 : ℤ) :=
      mul_le_mul (by linarith) (zpow_le_zpow_right₀ one_le_two most) (by positivity) (by norm_num)
    refine lt_of_le_of_ne (attracts.high.trans below) fun ends => ?_
    -- The limit is the upper end of the greatest magnitude, which is odd.
    have high : r = (v.significand + 1 / 2) * 2 ^ v.exponent :=
      le_antisymm attracts.high (ends ▸ below)
    have even := attracts.tie (.inr high)
    have less : (v.significand : ℚ) + 2 ≤ 2 ^ 53 := by
      have : v.significand + 2 ≤ 2 ^ 53 := by
        have := shaped.short
        omega
      exact_mod_cast this
    have unit : (0 : ℚ) < 2 ^ (971 : ℤ) := by positivity
    have strict : (v.significand + 1 / 2 : ℚ) * 2 ^ v.exponent < (2 ^ 53 - 1 / 2) * 2 ^ (971 : ℤ) :=
      mul_lt_mul (by linarith) (zpow_le_zpow_right₀ one_le_two most) (by positivity) (by norm_num)
    linarith
  · intro less
    by_contra beyond
    have low := shaped.low (by omega)
    have next : (2 : ℚ) ^ (972 : ℤ) = 2 * 2 ^ (971 : ℤ) := by
      rw [show (972 : ℤ) = 1 + 971 by norm_num, zpow_add₀ two_ne_zero, zpow_one]
    have above : (2 ^ 52 - 1 / 4 : ℚ) * 2 ^ (972 : ℤ) ≤ (v.significand - v.gap) * 2 ^ v.exponent :=
      mul_le_mul low (zpow_le_zpow_right₀ one_le_two (by omega)) (by positivity)
        (le_trans (by norm_num) low)
    have reached := above.trans attracts.low
    rw [next] at reached
    linarith

namespace Rounds

theorem isFinite_iff (rounds : Rounds r x) : x.isFinite = true ↔ |r| < overflow := by
  obtain ⟨v, sign, shaped, attracts, -, rfl⟩ := rounds
  rw [← attracts.exponent_le_iff shaped]
  show (Float.Model.pack (v.signed sign)).unpack.isFinite = true ↔ _
  rw [unpack_pack_of_shaped shaped]
  split
  · rename_i most
    exact iff_of_true (v.isFinite_signed sign) most
  · rename_i beyond
    exact iff_of_false Bool.false_ne_true beyond

theorem isInf (rounds : Rounds r x) (infinite : x.isFinite = false) : x.isInf = true := by
  obtain ⟨v, sign, shaped, -, -, rfl⟩ := rounds
  exact isInf_pack (v.isFinite_signed sign) infinite

theorem eq (rounds : Rounds r x) (rounds' : Rounds r y) (nonzero : r ≠ 0) : x = y := by
  obtain ⟨v, sign, shaped, attracts, same, rfl⟩ := rounds
  obtain ⟨w, sign', shaped', attracts', same', rfl⟩ := rounds'
  obtain rfl := attracts.unique attracts' shaped shaped'
  have apart : -|r| ≠ |r| := fun equal => by
    have := abs_pos.mpr nonzero
    linarith
  have : sign = sign' := by
    cases sign <;> cases sign'
    · rfl
    · exact absurd (same.symm.trans same') apart
    · exact absurd (same'.symm.trans same) apart
    · rfl
  rw [this]

theorem pos_iff (rounds : Rounds r x) (large : r = 0 ∨ 2 ^ (-1074 : ℤ) ≤ |r|) :
    0 < x ↔ 0 < r := by
  obtain ⟨v, sign, shaped, attracts, same, rfl⟩ := rounds
  show decide (UnpackedFloat.lt (.zero .positive)
    (Float.Model.pack (v.signed sign)).unpack = true) = true ↔ _
  rw [decide_eq_true_iff, unpack_pack_of_shaped shaped]
  have unit : (0 : ℚ) < 2 ^ v.exponent := by positivity
  rcases Nat.eq_zero_or_pos v.significand with zero | pos
  · have high := attracts.high
    have lowest := shaped.lowest zero
    rw [zero, Nat.cast_zero, zero_add, lowest] at high
    rw [lowest] at unit
    have none : r = 0 := by
      refine large.resolve_right fun large => ?_
      linarith
    rw [if_pos (by rw [lowest]; norm_num), Magnitude.signed, dif_pos zero, none]
    cases sign <;> decide
  · have positive : 0 < |r| := by
      have gap := v.gap_le.2
      have whole : (1 : ℚ) ≤ v.significand := by exact_mod_cast pos
      exact (mul_pos (by linarith) unit).trans_le attracts.low
    rw [v.signed_of_pos pos, same]
    cases sign with
    | positive =>
        refine iff_of_true ?_ positive
        split <;> rfl
    | negative =>
        refine iff_of_false ?_ (by show ¬0 < -|r|; linarith)
        split <;> exact Bool.false_ne_true

end Rounds

end PlotMarkup.Number
