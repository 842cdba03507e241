import PlotMarkup.Number.Rounding
import PlotMarkup.Proofs.Number.Arithmetic

namespace PlotMarkup.Number

open Float.Model hiding pack unpack
open Float.Model.UnpackedFloat

variable {x y : Float}

theorem exists_infinity (infinite : x.isInf = true) :
    ∃ sign, x.toModel.unpack = .infinity sign := by
  have infinite : x.toModel.unpack.isInf = true := infinite
  cases shape : x.toModel.unpack with
  | infinity sign => exact ⟨sign, rfl⟩
  | notANumber => rw [shape] at infinite; cases infinite
  | zero sign => rw [shape] at infinite; cases infinite
  | finite sign m e pos => rw [shape] at infinite; cases infinite

theorem isInf_pack_infinity (sign : Sign) :
    (⟨Float.Model.pack (.infinity sign)⟩ : Float).isInf = true := by
  cases sign <;> decide

theorem not_isFinite_of_isInf (infinite : x.isInf = true) : x.isFinite = false := by
  obtain ⟨sign, shape⟩ := exists_infinity infinite
  show x.toModel.unpack.isFinite = false
  rw [shape]
  rfl

theorem add_of_infinite (infinite : x.isFinite = false) (finite : y.isFinite = true) :
    x + y = x := by
  have kept : add Format.binary64 x.toModel.unpack y.toModel.unpack = x.toModel.unpack := by
    rcases infinite_cases (u := x.toModel.unpack) infinite with shape | ⟨sign, shape⟩ <;>
      rcases finite_cases (u := y.toModel.unpack) finite with
        ⟨sign', shape'⟩ | ⟨sign', m, e, pos, shape'⟩ <;>
      rw [shape, shape'] <;> rfl
  show (⟨Float.Model.pack (add _ x.toModel.unpack y.toModel.unpack)⟩ : Float) = x
  rw [kept, pack_toModel_unpack]

theorem isInf_sub (finite : x.isFinite = true) (infinite : y.isInf = true) :
    (x - y).isInf = true := by
  obtain ⟨sign, shape⟩ := exists_infinity infinite
  show (⟨Float.Model.pack (sub _ x.toModel.unpack y.toModel.unpack)⟩ : Float).isInf = true
  rcases finite_cases (u := x.toModel.unpack) finite with
    ⟨sign', shape'⟩ | ⟨sign', m, e, pos, shape'⟩ <;> rw [shape, shape']
  · exact isInf_pack_infinity (-sign)
  · exact isInf_pack_infinity (-sign)

theorem sub_self_of_finite (finite : x.isFinite = true) : x - x = 0 := by
  show (⟨Float.Model.pack (sub _ x.toModel.unpack x.toModel.unpack)⟩ : Float) = 0
  rcases finite_cases (u := x.toModel.unpack) finite with ⟨sign, shape⟩ | ⟨sign, m, e, pos, shape⟩
  · rw [shape]
    cases sign <;> rfl
  · rw [shape]
    unfold UnpackedFloat.sub
    dsimp only
    rw [Int.sub_self]
    rfl

theorem isFinite_of_sub_self (finite : ((x - x) / y).isFinite = true) : x.isFinite = true := by
  by_contra infinite
  have missing : x - x = ⟨Float.Model.pack .notANumber⟩ := by
    show (⟨Float.Model.pack (sub _ x.toModel.unpack x.toModel.unpack)⟩ : Float) = _
    rcases infinite_cases (u := x.toModel.unpack) (Bool.eq_false_iff.mpr infinite) with
      shape | ⟨sign, shape⟩ <;> rw [shape]
    · rfl
    · cases sign <;> rfl
  have quotient : (x - x) / y = ⟨Float.Model.pack .notANumber⟩ := by
    rw [missing]
    rfl
  rw [quotient] at finite
  exact absurd finite (by decide)

theorem exists_signed_add (sign : Sign) (r s : ℚ) :
    ∃ t, |t| = |s| ∧ signed sign r + s = signed sign (r + t) := by
  cases sign with
  | positive => exact ⟨s, rfl, rfl⟩
  | negative => exact ⟨-s, abs_neg s, by rw [signed, signed, neg_add, neg_neg]⟩

theorem add_of_small (finite : x.isFinite = true) (finite' : y.isFinite = true)
    (pos : 0 < (magnitude x).significand)
    (small : |quantity y| < 2 ^ (magnitude x).exponent / 4) : x + y = x := by
  obtain ⟨rest, same, sum⟩ := exists_signed_add (signOf x) (magnitude x).quantity (quantity y)
  have rounds := rounds_add finite finite'
  rw [quantity, sum] at rounds
  rw [← same] at small
  obtain ⟨below, above⟩ := abs_lt.mp small
  have unit : (0 : ℚ) < 2 ^ (magnitude x).exponent := by positivity
  have least : (2 : ℚ) ^ (magnitude x).exponent ≤ (magnitude x).quantity :=
    le_mul_of_one_le_left unit.le (by exact_mod_cast pos)
  have gap := mul_le_mul_of_nonneg_right (magnitude x).gap_le.1 unit.le
  have low : ((magnitude x).significand - (magnitude x).gap) * 2 ^ (magnitude x).exponent <
      (magnitude x).quantity + rest := by
    unfold Magnitude.quantity
    linarith
  have high : (magnitude x).quantity + rest <
      ((magnitude x).significand + 1 / 2) * 2 ^ (magnitude x).exponent := by
    unfold Magnitude.quantity
    linarith
  have positive : 0 < (magnitude x).quantity + rest := by linarith
  have absolute := abs_signed (signOf x) positive.le
  have itself : Rounds (signed (signOf x) ((magnitude x).quantity + rest)) x := by
    refine ⟨magnitude x, signOf x, (canonical_magnitude finite).shaped, ?_, ?_, eq_pack finite⟩
    · rw [absolute]
      exact ⟨low.le, high.le, fun ends => by rcases ends with ends | ends <;> linarith⟩
    · rw [absolute]
  exact rounds.eq itself (abs_pos.mp (by rwa [absolute]))

theorem abs_quantity_lt (finite : x.isFinite = true) : |quantity x| + 1 < overflow := by
  have canonical := canonical_magnitude finite
  have short : ((magnitude x).significand : ℚ) ≤ 2 ^ 53 - 1 := by
    rw [le_sub_iff_add_le]
    exact_mod_cast canonical.short
  have greatest : (magnitude x).quantity ≤ (2 ^ 53 - 1) * 2 ^ (971 : ℤ) :=
    mul_le_mul short (zpow_le_zpow_right₀ one_le_two canonical.most) (by positivity) (by norm_num)
  have unit : (2 : ℚ) ^ (2 : ℤ) ≤ 2 ^ (971 : ℤ) := zpow_le_zpow_right₀ one_le_two (by norm_num)
  rw [abs_quantity, overflow_eq]
  generalize (2 : ℚ) ^ (971 : ℤ) = unit' at *
  norm_num at unit greatest ⊢
  linarith

theorem isFinite_add_of_small (finite : y.isFinite = true) (small : |quantity y| ≤ 1) :
    (x + y).isFinite = x.isFinite := by
  cases bounded : x.isFinite with
  | true =>
      rw [(rounds_add bounded finite).isFinite_iff]
      have := abs_add_le (quantity x) (quantity y)
      have := abs_quantity_lt bounded
      linarith
  | false => rw [add_of_infinite bounded finite, bounded]

theorem isFinite_roundHalfAway (finite : x.isFinite = true) :
    (roundHalfAway x).isFinite = true := by
  have short := (canonical_magnitude finite).short
  unfold roundHalfAway
  rw [if_pos finite]
  dsimp only
  split
  · exact finite
  · rename_i fraction
    have unit : 0 < Nat.pow 2 (-(magnitude x).exponent).toNat := Nat.pow_pos (by decide)
    have less : (2 * (magnitude x).significand + Nat.pow 2 (-(magnitude x).exponent).toNat) /
        (2 * Nat.pow 2 (-(magnitude x).exponent).toNat) < 2 ^ 64 := by
      rw [Nat.div_lt_iff_lt_mul (by omega)]
      omega
    split
    · exact isFinite_neg (isFinite_ofNat less)
    · exact isFinite_ofNat less

theorem isInf_div (infinite : x.isInf = true) (large : atLeastTwo y.toModel.unpack = true) :
    (x / y).isInf = true := by
  obtain ⟨sign, shape⟩ := exists_infinity infinite
  show (⟨Float.Model.pack (div _ x.toModel.unpack y.toModel.unpack)⟩ : Float).isInf = true
  rw [shape]
  cases shape' : y.toModel.unpack with
  | finite sign' m e pos => exact isInf_pack_infinity (sign / sign')
  | notANumber => rw [shape'] at large; cases large
  | infinity _ => rw [shape'] at large; cases large
  | zero _ => rw [shape'] at large; cases large

variable {places : Int} (finite : x.isFinite = true)
variable (large : atLeastTwo (tenPower places).toModel.unpack = true)
include finite large

theorem roundTo_cases :
    ((x * tenPower places).isFinite = true ∧ (roundTo x places).isFinite = true) ∨
      ((x * tenPower places).isFinite = false ∧ (roundTo x places).isInf = true) := by
  unfold roundTo
  dsimp only
  cases scaled : (x * tenPower places).isFinite with
  | true =>
      left
      have quotient := isFinite_div (isFinite_roundHalfAway scaled) large
      split
      · decide
      · exact ⟨rfl, quotient⟩
  | false =>
      right
      have infinite := (rounds_mul finite (isFinite_of_atLeastTwo large)).isInf scaled
      have kept : roundHalfAway (x * tenPower places) = x * tenPower places := by
        unfold roundHalfAway
        rw [scaled]
        rfl
      have quotient := isInf_div infinite large
      obtain ⟨sign, shape⟩ := exists_infinity quotient
      have nonzero : (x * tenPower places / tenPower places == 0) = false := by
        show UnpackedFloat.beq (x * tenPower places / tenPower places).toModel.unpack _ = false
        rw [shape]
        cases sign <;> decide
      rw [kept, nonzero]
      exact ⟨rfl, quotient⟩

theorem isFinite_roundTo :
    (roundTo x places).isFinite = true ↔ |quantity x * quantity (tenPower places)| < overflow := by
  rw [← (rounds_mul finite (isFinite_of_atLeastTwo large)).isFinite_iff]
  rcases roundTo_cases finite large with ⟨scaled, rounded⟩ | ⟨scaled, rounded⟩
  · rw [scaled, rounded]
  · rw [scaled, not_isFinite_of_isInf rounded]

theorem isInf_roundTo (infinite : (roundTo x places).isFinite = false) :
    (roundTo x places).isInf = true := by
  rcases roundTo_cases finite large with ⟨-, rounded⟩ | ⟨-, rounded⟩
  · rw [rounded] at infinite
    cases infinite
  · exact rounded

end PlotMarkup.Number
