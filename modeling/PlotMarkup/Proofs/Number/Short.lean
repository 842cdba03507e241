import PlotMarkup.Proofs.Number.Order

namespace PlotMarkup.Number

variable {x y : Float}

theorem log2_lt_of_small {n : Nat} (small : n < 2 ^ 53) : n.log2 < 53 := by
  rcases Nat.eq_zero_or_pos n with rfl | pos
  · decide
  · exact (Nat.log2_lt pos.ne').mpr small

theorem exists_magnitude {n : Nat} {place : Int} (short : n < 2 ^ 53) (least : -1074 ≤ place)
    (most : place ≤ 971) : ∃ v : Magnitude, v.Canonical ∧ v.quantity = n * 2 ^ place := by
  rcases Nat.eq_zero_or_pos n with rfl | pos
  · refine ⟨⟨0, -1074⟩, ⟨by decide, by decide, by decide, fun other => absurd rfl other⟩, ?_⟩
    rw [Magnitude.quantity_eq_zero rfl, Nat.cast_zero, zero_mul]
  · have bits := log2_lt_of_small short
    -- The significand is shifted to its full length, or down to the least exponent.
    let shift := min (52 - n.log2) (place + 1074).toNat
    refine ⟨⟨n * 2 ^ shift, place - shift⟩, ⟨?_, ?_, ?_, ?_⟩, ?_⟩
    · calc n * 2 ^ shift < 2 ^ (n.log2 + 1) * 2 ^ shift :=
            Nat.mul_lt_mul_of_pos_right Nat.lt_log2_self (by positivity)
        _ = 2 ^ (n.log2 + 1 + shift) := (Nat.pow_add ..).symm
        _ ≤ 2 ^ 53 := Nat.pow_le_pow_right (by decide) (by omega)
    · simp only
      omega
    · simp only
      omega
    · intro normal
      have full : shift = 52 - n.log2 := by
        simp only at normal
        omega
      calc 2 ^ 52 = 2 ^ n.log2 * 2 ^ shift := by rw [← Nat.pow_add]; congr 1; omega
        _ ≤ n * 2 ^ shift := Nat.mul_le_mul_right _ (Nat.log2_self_le pos.ne')
    · rw [Magnitude.quantity, zpow_sub₀ two_ne_zero, zpow_natCast]
      push_cast
      field_simp

theorem Rounds.eq_quantity (rounds : Rounds (quantity y) x) (finite : y.isFinite = true) :
    x.isFinite = true ∧ quantity x = quantity y := by
  have own := rounds_quantity finite
  have finite' := rounds.isFinite_iff.mpr (own.isFinite_iff.mp finite)
  exact ⟨finite', (rounds.quantity_le own finite' finite le_rfl).antisymm
    (own.quantity_le rounds finite finite' le_rfl)⟩

theorem exists_double {n place : Int} (short : |n| < 2 ^ 53) (least : -1074 ≤ place)
    (most : place ≤ 971) : ∃ y : Float, y.isFinite = true ∧ quantity y = n * 2 ^ place := by
  obtain ⟨v, canonical, value⟩ := exists_magnitude (n := n.natAbs)
    (by rwa [Int.abs_eq_natAbs, ← Nat.cast_ofNat, ← Nat.cast_pow, Nat.cast_lt] at short) least most
  have absolute : ((n.natAbs : ℕ) : ℚ) = |(n : ℚ)| := by
    rw [Nat.cast_natAbs, Int.cast_abs]
  rcases le_total 0 n with above | below
  · refine ⟨_, isFinite_pack_signed canonical .positive, ?_⟩
    rw [quantity_pack canonical, value, absolute, abs_of_nonneg (by exact_mod_cast above)]
    rfl
  · refine ⟨_, isFinite_pack_signed canonical .negative, ?_⟩
    rw [quantity_pack canonical, value, absolute, abs_of_nonpos (by exact_mod_cast below), signed,
      neg_mul, neg_neg]

theorem Rounds.exact {n place : Int} (rounds : Rounds (n * 2 ^ place) x) (short : |n| < 2 ^ 53)
    (least : -1074 ≤ place) (most : place ≤ 971) :
    x.isFinite = true ∧ quantity x = n * 2 ^ place := by
  obtain ⟨y, finite, value⟩ := exists_double short least most
  rw [← value] at rounds ⊢
  exact rounds.eq_quantity finite

theorem Rounds.exact_nat {n : Nat} (rounds : Rounds n x) (short : n < 2 ^ 53) :
    x.isFinite = true ∧ quantity x = n := by
  have units : (n : ℚ) = (n : ℤ) * 2 ^ (0 : ℤ) := by simp
  have small : |(n : ℤ)| < 2 ^ 53 := by
    rw [Nat.abs_cast]
    exact_mod_cast short
  rw [units] at rounds ⊢
  exact rounds.exact small (by decide) (by decide)

end PlotMarkup.Number
