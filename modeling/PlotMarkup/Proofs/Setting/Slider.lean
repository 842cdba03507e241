import PlotMarkup.Proofs.Number.Whole
import PlotMarkup.Proofs.Setting.Check

namespace PlotMarkup

namespace Number

variable {x : Float}

/-- A double from one to `top` that is less than a billionth away from a whole number. -/
structure NearWhole (top : Nat) (x : Float) : Prop where
  finite : x.isFinite = true
  low : 1 ≤ quantity x
  high : quantity x ≤ top
  near : ∃ n : Nat, 1 ≤ n ∧ n ≤ top ∧ |quantity x - n| < 1 / 10 ^ 9

theorem nearWhole_ofNat {n top : Nat} (positive : 1 ≤ n) (inside : n ≤ top)
    (short : top ≤ 2 ^ 52) : NearWhole top (Float.ofNat n) := by
  have small : n < 2 ^ 53 := by omega
  have value := quantity_ofNat small
  refine ⟨isFinite_ofNat (by omega), ?_, ?_, n, positive, inside, ?_⟩
  · rw [value]
    exact_mod_cast positive
  · rw [value]
    exact_mod_cast inside
  · rw [value, sub_self, abs_zero]
    positivity

theorem lt_billionth_iff (count : Nat) :
    (count * 2 ^ (-52 : ℤ) : ℚ) < quantity 1e-9 ↔ (count * 2 ^ (-52 : ℤ) : ℚ) < 1 / 10 ^ 9 := by
  have bits : magnitude 1e-9 = ⟨4835703278458517, -82⟩ := by decide +kernel
  have value : quantity 1e-9 = 4835703278458517 * 2 ^ (-82 : ℤ) := by
    rw [quantity_eq bits (by decide +kernel)]
    rfl
  have less : (count * 2 ^ (-52 : ℤ) : ℚ) < 4835703278458517 * 2 ^ (-82 : ℤ) ↔
      count * 2 ^ 30 < 4835703278458517 := by
    rw [← Nat.cast_lt (α := ℚ), ← mul_lt_mul_iff_left₀ (show (0 : ℚ) < 2 ^ (82 : ℤ) by positivity)]
    norm_num [mul_assoc]
  have less' : (count * 2 ^ (-52 : ℤ) : ℚ) < 1 / 10 ^ 9 ↔ count * 10 ^ 9 < 2 ^ 52 := by
    rw [← Nat.cast_lt (α := ℚ), lt_div_iff₀ (by positivity), zpow_neg, ← div_eq_mul_inv,
      div_mul_eq_mul_div, div_lt_iff₀ (by positivity)]
    norm_num
  rw [value, less, less']
  omega

theorem exists_multiple_of_le (finite : x.isFinite = true) (low : 1 ≤ quantity x)
    (high : quantity x ≤ 2 ^ 52) :
    ∃ places n : ℕ, places ≤ 52 ∧ n < 2 ^ 53 ∧ Multiple places n x := by
  have canonical := canonical_magnitude finite
  have value : (magnitude x).quantity = quantity x := by
    rw [← abs_quantity, abs_of_nonneg (zero_le_one.trans low)]
  have one : Magnitude.Canonical ⟨2 ^ 52, -52⟩ :=
    ⟨by decide, by decide, by decide, fun _ => le_rfl⟩
  have large : Magnitude.Canonical ⟨2 ^ 52, 0⟩ :=
    ⟨by decide, by decide, by decide, fun _ => le_rfl⟩
  have fine : -52 ≤ (magnitude x).exponent := by
    by_contra finer
    have less := canonical.lt_of_exponent_lt one (not_le.mp finer)
    rw [value] at less
    norm_num [Magnitude.quantity] at less
    linarith
  have coarse : (magnitude x).exponent ≤ 0 := by
    by_contra coarser
    have less := large.lt_of_exponent_lt canonical (not_le.mp coarser)
    rw [value] at less
    norm_num [Magnitude.quantity] at less
    linarith
  refine ⟨(-(magnitude x).exponent).toNat, (magnitude x).significand, by omega, canonical.short,
    finite, ?_⟩
  rw [← value, Magnitude.quantity, Int.toNat_of_nonneg (by omega), neg_neg, Int.cast_natCast]

theorem Multiple.lt_billionth {places n : ℕ} (multiple : Multiple places n x)
    (deep : places ≤ 52) : x < 1e-9 ↔ quantity x < 1 / 10 ^ 9 := by
  have finest : quantity x = (n * 2 ^ (52 - places) : ℕ) * 2 ^ (-52 : ℤ) := by
    rw [multiple.value, Int.cast_natCast, Nat.cast_mul, mul_assoc, Nat.cast_pow, Nat.cast_ofNat,
      ← zpow_natCast, ← zpow_add₀ two_ne_zero]
    congr 2
    omega
  rw [lt_iff multiple.finite (by decide +kernel), finest]
  exact lt_billionth_iff _

theorem lt_billionth_of_nearest {q : ℚ} {nearest : ℤ} (near : |q - nearest| ≤ 1 / 2)
    (above : 1 ≤ q) :
    |q - nearest| < 1 / 10 ^ 9 ↔ ∃ n : ℕ, |q - n| < 1 / 10 ^ 9 := by
  have bounds := abs_le.mp near
  constructor
  · intro close
    have positive : (0 : ℚ) < nearest := by linarith
    refine ⟨nearest.toNat, ?_⟩
    rwa [← Int.cast_natCast, Int.toNat_of_nonneg (by exact_mod_cast positive.le)]
  · rintro ⟨n, close⟩
    have bounds' := abs_lt.mp close
    have least : nearest < (n : ℤ) + 1 := by
      have less : (nearest : ℚ) < n + 1 := by linarith
      exact_mod_cast less
    have most : (n : ℤ) < nearest + 1 := by
      have less : (n : ℚ) < nearest + 1 := by linarith
      exact_mod_cast less
    have same : nearest = n := by omega
    rwa [same, Int.cast_natCast]

end Number

namespace Setting

open Number (NearWhole quantity lt_billionth_of_nearest)

variable {slider : Slider} {x : Float}

theorem Slider.allows_iff (low : slider.low = 1) (step : slider.step = 1)
    (finite : x.isFinite = true) (above : 1 ≤ quantity x) (below : quantity x ≤ 2 ^ 52) :
    slider.allows x = true ↔ ∃ n : ℕ, |quantity x - n| < 1 / 10 ^ 9 := by
  obtain ⟨places, n, deep, short, multiple⟩ := Number.exists_multiple_of_le finite above below
  have whole : (2 ^ places : ℤ) ≤ 2 ^ 52 := pow_le_pow_right₀ (by norm_num) deep
  have positive : (0 : ℤ) < 2 ^ places := by positivity
  have steps := (multiple.sub (.one places) (by rw [abs_lt]; omega) (by omega)).div_one
  obtain ⟨k, rounded, close⟩ := steps.roundHalfAway
  have distance := (steps.sub rounded (by omega) (by omega)).abs
  have same : n - 2 ^ places - k * 2 ^ places = n - (k + 1) * 2 ^ places := by ring
  rw [same] at close distance
  have near := (multiple.half_iff (k + 1)).mpr close
  have value := distance.value
  rw [← multiple.abs_sub_whole] at value
  rw [Int.abs_eq_natAbs] at distance
  have allowed : slider.allows x = true ↔ |quantity x - (k + 1 : ℤ)| < 1 / 10 ^ 9 := by
    unfold Slider.allows
    rw [low, step, if_neg (by decide), decide_eq_true_iff, distance.lt_billionth deep, value]
  rw [allowed]
  exact lt_billionth_of_nearest near above

theorem checkNumber_eq_ok {s : Setting} : s.checkNumber slider x = .ok () ↔
    x.isFinite = true ∧ ¬x < slider.low ∧ ¬slider.high < x ∧ slider.allows x = true := by
  unfold checkNumber
  split
  · rename_i infinite
    simp_all
  · split
    · rename_i outside
      simp only [reduceCtorEq, false_iff]
      rintro ⟨-, above, below, -⟩
      exact outside.elim above below
    · split <;> simp_all

structure Steps (s : Setting) (first top : Nat) : Prop where
  initial : s.initial = .number (Float.ofNat first)
  slider : s.slider = some ⟨1, Float.ofNat top, 1⟩
  positive : 1 ≤ first
  inside : first ≤ top
  short : top ≤ 2 ^ 52

namespace Steps

variable {s : Setting} {first top : Nat} {value : Value}

theorem check_eq_ok_iff (steps : s.Steps first top) (x : Float) :
    s.check (.number x) = .ok () ↔ NearWhole top x := by
  have small : top < 2 ^ 53 := Nat.lt_of_le_of_lt steps.short (by decide)
  have limit : (top : ℚ) ≤ 2 ^ 52 := by exact_mod_cast steps.short
  have finite_top := Number.isFinite_ofNat (Nat.lt_trans small (by decide))
  have same : s.check (.number x) = s.checkNumber ⟨1, Float.ofNat top, 1⟩ x := by
    simp only [check, steps.initial, steps.slider, Value.sameVariant, if_true]
  have least (finite : x.isFinite = true) : ¬x < 1 ↔ 1 ≤ quantity x := by
    rw [Number.lt_iff finite (by decide), Number.quantity_one, not_lt]
  have most (finite : x.isFinite = true) : ¬Float.ofNat top < x ↔ quantity x ≤ top := by
    rw [Number.lt_iff finite_top finite, Number.quantity_ofNat small, not_lt]
  rw [same, checkNumber_eq_ok]
  constructor
  · rintro ⟨finite, above, below, allowed⟩
    rw [least finite] at above
    rw [most finite] at below
    obtain ⟨n, near⟩ :=
      (Slider.allows_iff rfl rfl finite above (below.trans limit)).mp allowed
    have bounds := abs_lt.mp near
    refine ⟨finite, above, below, n, ?_, ?_, near⟩
    · have positive : (0 : ℚ) < n := by linarith
      exact_mod_cast positive
    · have less : (n : ℚ) < top + 1 := by linarith
      exact Nat.lt_succ_iff.mp (by exact_mod_cast less)
  · intro whole
    obtain ⟨n, -, -, near⟩ := whole.near
    refine ⟨whole.finite, (least whole.finite).mpr whole.low, (most whole.finite).mpr whole.high, ?_⟩
    exact (Slider.allows_iff rfl rfl whole.finite whole.low (whole.high.trans limit)).mpr ⟨n, near⟩

theorem exists_of_fits (steps : s.Steps first top) (fits : s.Fits value) :
    ∃ x, value = .number x ∧ NearWhole top x := by
  have variant := fits.variant
  rw [steps.initial, Value.sameVariant_number] at variant
  obtain ⟨x, rfl⟩ := variant
  refine ⟨x, rfl, ?_⟩
  rcases fits.valid with start | accepted
  · rw [steps.initial, Value.number.injEq] at start
    rw [start]
    exact Number.nearWhole_ofNat steps.positive steps.inside steps.short
  · exact (steps.check_eq_ok_iff x).mp accepted

end Steps

end Setting

end PlotMarkup
