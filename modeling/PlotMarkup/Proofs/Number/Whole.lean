import PlotMarkup.Proofs.Number.Reading

namespace PlotMarkup.Number

open Float.Model hiding pack unpack
open Float.Model.UnpackedFloat

variable {v : Magnitude} {r : ℚ} {x y : Float}

theorem quantity_ofNat {n : Nat} (short : n < 2 ^ 53) : quantity (Float.ofNat n) = n := by
  have rounds := rounds_ofScientific n false 0
  rw [if_neg Bool.false_ne_true, Nat.cast_zero, zpow_zero, mul_one] at rounds
  exact (rounds.exact_nat short).2

theorem abs_signed_sub_signed (sign : Sign) (r s : ℚ) :
    |signed sign r - signed sign s| = |r - s| := by
  cases sign with
  | positive => rfl
  | negative =>
      show |-r - -s| = |r - s|
      rw [neg_sub_neg, abs_sub_comm]

theorem exists_signed (sign : Sign) (n : Nat) : ∃ k : ℤ, signed sign n = k := by
  cases sign with
  | positive => exact ⟨n, (Int.cast_natCast n).symm⟩
  | negative => exact ⟨-n, by rw [Int.cast_neg, Int.cast_natCast]; rfl⟩

theorem quantity_of_whole (whole : 0 ≤ (magnitude x).exponent) : ∃ k : ℤ, quantity x = k := by
  have value : (magnitude x).quantity =
      ((magnitude x).significand * 2 ^ (magnitude x).exponent.toNat : Nat) := by
    rw [Magnitude.quantity, ← Int.toNat_of_nonneg whole, zpow_natCast]
    push_cast
    rw [Int.toNat_natCast]
  rw [quantity, value]
  exact exists_signed _ _

theorem abs_div_sub_le (n : Nat) {unit : Nat} (pos : 0 < unit) :
    |(n / unit : ℚ) - ((2 * n + unit) / (2 * unit) : Nat)| ≤ 1 / 2 := by
  have low : (2 * n + unit) / (2 * unit) * (2 * unit) ≤ 2 * n + unit := Nat.div_mul_le_self _ _
  have high : 2 * n + unit < ((2 * n + unit) / (2 * unit) + 1) * (2 * unit) :=
    Nat.lt_mul_of_div_lt (Nat.lt_succ_self _) (by omega)
  generalize (2 * n + unit) / (2 * unit) = whole at low high ⊢
  have low : (whole * (2 * unit) : ℚ) ≤ 2 * n + unit := by exact_mod_cast low
  have high : (2 * n + unit : ℚ) < (whole + 1) * (2 * unit) := by exact_mod_cast high
  have pos : (0 : ℚ) < unit := by exact_mod_cast pos
  rw [abs_le, le_sub_iff_add_le, sub_le_iff_le_add, le_div_iff₀ pos, div_le_iff₀ pos]
  constructor <;> linarith

theorem quantity_roundHalfAway (finite : x.isFinite = true) :
    ∃ k : ℤ, quantity (roundHalfAway x) = k ∧ |quantity x - k| ≤ 1 / 2 := by
  have short := (canonical_magnitude finite).short
  unfold roundHalfAway
  rw [if_pos finite]
  dsimp only
  split
  · rename_i whole
    obtain ⟨k, value⟩ := quantity_of_whole whole
    exact ⟨k, value, by norm_num [value]⟩
  · rename_i fraction
    have pos : 0 < Nat.pow 2 (-(magnitude x).exponent).toNat := Nat.pow_pos (by decide)
    have value : (magnitude x).quantity =
        (magnitude x).significand / (Nat.pow 2 (-(magnitude x).exponent).toNat : Nat) := by
      have places : (magnitude x).exponent = -((-(magnitude x).exponent).toNat : ℤ) := by omega
      conv_lhs => rw [Magnitude.quantity, places, zpow_neg, zpow_natCast, ← div_eq_mul_inv]
      rw [Nat.pow_eq, Nat.cast_pow, Nat.cast_ofNat]
    have near := abs_div_sub_le (magnitude x).significand pos
    rw [← value] at near
    generalize Nat.pow 2 (-(magnitude x).exponent).toNat = unit at pos near ⊢
    have less : (2 * (magnitude x).significand + unit) / (2 * unit) < 2 ^ 53 := by
      rw [Nat.div_lt_iff_lt_mul (by omega)]
      omega
    generalize (2 * (magnitude x).significand + unit) / (2 * unit) = whole at near less ⊢
    have rounded : quantity (if isNegative x then -Float.ofNat whole else Float.ofNat whole) =
        signed (signOf x) whole := by
      unfold signOf
      split
      · rw [quantity_neg (isFinite_ofNat (by omega)), quantity_ofNat less]
        rfl
      · exact quantity_ofNat less
    obtain ⟨k, same⟩ := exists_signed (signOf x) whole
    refine ⟨k, rounded.trans same, ?_⟩
    rwa [← same, quantity, abs_signed_sub_signed]

theorem quantity_abs (finite : x.isFinite = true) :
    x.abs.isFinite = true ∧ quantity x.abs = |quantity x| := by
  have canonical := canonical_magnitude finite
  have absolute : ((magnitude x).signed (signOf x)).abs = (magnitude x).signed .positive := by
    unfold Magnitude.signed
    split <;> rfl
  have same : x.abs = ⟨Float.Model.pack ((magnitude x).signed .positive)⟩ := by
    show (⟨Float.Model.pack x.toModel.unpack.abs⟩ : Float) = _
    rw [unpack_toModel finite, absolute]
  rw [same, abs_quantity]
  exact ⟨isFinite_pack_signed canonical .positive, quantity_pack canonical .positive⟩

structure Multiple (places : Nat) (n : ℤ) (x : Float) : Prop where
  finite : x.isFinite = true
  value : quantity x = n * 2 ^ (-places : ℤ)

namespace Multiple

variable {places : Nat} {m n : ℤ}

theorem units (places : Nat) (k : ℤ) :
    ((k * 2 ^ places : ℤ) : ℚ) * 2 ^ (-places : ℤ) = k := by
  rw [zpow_neg, zpow_natCast]
  push_cast
  rw [mul_inv_cancel_right₀ (by positivity)]

protected theorem one (places : Nat) : Multiple places (2 ^ places) 1 := by
  refine ⟨by decide, ?_⟩
  have same := units places 1
  rw [one_mul, Int.cast_one] at same
  rw [quantity_one, same]

protected theorem sub (first : Multiple places m x) (second : Multiple places n y)
    (short : |m - n| < 2 ^ 53) (deep : places ≤ 1074) : Multiple places (m - n) (x - y) := by
  have rounds := rounds_sub first.finite second.finite
  rw [first.value, second.value, ← sub_mul, ← Int.cast_sub] at rounds
  obtain ⟨finite, value⟩ := rounds.exact short (by omega) (by omega)
  exact ⟨finite, value⟩

protected theorem div_one (multiple : Multiple places n x) : Multiple places n (x / 1) := by
  have rounds := rounds_div multiple.finite (Multiple.one 0).finite (by rw [quantity_one]; norm_num)
  rw [quantity_one, div_one] at rounds
  obtain ⟨finite, value⟩ := rounds.eq_quantity multiple.finite
  exact ⟨finite, value.trans multiple.value⟩

protected theorem abs (multiple : Multiple places n x) : Multiple places |n| x.abs := by
  obtain ⟨finite, value⟩ := quantity_abs multiple.finite
  refine ⟨finite, ?_⟩
  rw [value, multiple.value, abs_mul, Int.cast_abs]
  congr 1
  exact abs_of_pos (by positivity)

theorem abs_sub_whole (multiple : Multiple places n x) (k : ℤ) :
    |quantity x - k| = (|n - k * 2 ^ places| : ℤ) * 2 ^ (-places : ℤ) := by
  have positive : (0 : ℚ) < 2 ^ (-places : ℤ) := by positivity
  rw [multiple.value, ← units places k, ← sub_mul, abs_mul, abs_of_pos positive, ← Int.cast_sub,
    Int.cast_abs]

theorem half_iff (multiple : Multiple places n x) (k : ℤ) :
    |quantity x - k| ≤ 1 / 2 ↔ 2 * |n - k * 2 ^ places| ≤ 2 ^ places := by
  have positive : (0 : ℚ) < 2 ^ places := by positivity
  rw [multiple.abs_sub_whole, zpow_neg, zpow_natCast, ← div_eq_mul_inv, div_le_iff₀ positive,
    ← Int.cast_le (R := ℚ)]
  generalize |n - k * 2 ^ places| = distance
  push_cast
  constructor <;> intro near <;> linarith

theorem roundHalfAway (multiple : Multiple places n x) :
    ∃ k : ℤ, Multiple places (k * 2 ^ places) (roundHalfAway x) ∧
      2 * |n - k * 2 ^ places| ≤ 2 ^ places := by
  obtain ⟨k, value, close⟩ := quantity_roundHalfAway multiple.finite
  exact ⟨k, ⟨isFinite_roundHalfAway multiple.finite, by rw [value, units]⟩,
    (multiple.half_iff k).mp close⟩

end Multiple

end PlotMarkup.Number
