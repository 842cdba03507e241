import Mathlib.Tactic.Ring
import PlotMarkup.Number.Text

namespace PlotMarkup.Number

structure Magnitude.Positive (v : Magnitude) : Prop where
  significand_pos : 0 < v.significand
  significand_lt : v.significand < 2 ^ 53
  le_exponent : -1074 ≤ v.exponent
  exponent_le : v.exponent ≤ 972

theorem positive_magnitude {x : Float} (nonzero : (magnitude x).significand ≠ 0) :
    (magnitude x).Positive := by
  have fraction_lt : x.toBits.toNat % Nat.pow 2 52 < 2 ^ 52 := Nat.mod_lt _ (by decide)
  have biased_lt : x.toBits.toNat / Nat.pow 2 52 % Nat.pow 2 11 < 2 ^ 11 :=
    Nat.mod_lt _ (by decide)
  unfold magnitude at nonzero ⊢
  dsimp only at nonzero ⊢
  generalize x.toBits.toNat % Nat.pow 2 52 = fraction at *
  generalize x.toBits.toNat / Nat.pow 2 52 % Nat.pow 2 11 = biased at *
  by_cases subnormal : biased = 0
  · rw [if_pos subnormal] at nonzero ⊢
    dsimp only at nonzero
    constructor <;> dsimp only <;> omega
  · rw [if_neg subnormal]
    have leading : Nat.pow 2 52 = 2 ^ 52 := rfl
    constructor <;> dsimp only <;> omega

theorem Magnitude.absorbs_zero {v : Magnitude} (pos : 0 < v.significand) (scale : Int) :
    v.absorbs scale 0 = false := by
  have numerator_pos : 0 < (v.scaled scale).1 :=
    Nat.mul_pos (Nat.pow_pos (by decide)) (Nat.pow_pos (by decide))
  have lower_pos (gap : Nat) (small : gap ≤ 2) :
      0 < (4 * v.significand - gap) * (v.scaled scale).1 :=
    Nat.mul_pos (by omega) numerator_pos
  unfold absorbs
  dsimp only
  have below := lower_pos (if v.significand = Nat.pow 2 52 ∧ v.exponent ≠ -1074 then 1 else 2)
    (by split <;> decide)
  generalize (4 * v.significand - _) * (v.scaled scale).1 = lower at below
  split <;> simp only [Nat.mul_zero, Nat.zero_mul, Bool.and_eq_false_iff, decide_eq_false_iff_not]
    <;> omega

theorem Magnitude.absorbs_gridPoint? {tie : Tie} {v : Magnitude} {scale : Int} {digits : Nat}
    (found : v.gridPoint? tie scale = some digits) : v.absorbs scale digits = true := by
  have either (first second : Nat)
      (tried : (if v.absorbs scale first then some first
        else if v.absorbs scale second then some second else none) = some digits) :
      v.absorbs scale digits = true := by
    split at tried
    · cases tried
      assumption
    · split at tried
      · cases tried
        assumption
      · cases tried
  exact either _ _ found

theorem Magnitude.absorbs_of_near {v : Magnitude} {scale : Int} {candidate : Nat}
    (pos : 0 < v.significand)
    (below : 4 * v.significand * (v.scaled scale).1 <
      4 * candidate * (v.scaled scale).2 + (v.scaled scale).1)
    (above : 4 * candidate * (v.scaled scale).2 <
      4 * v.significand * (v.scaled scale).1 + (v.scaled scale).1) :
    v.absorbs scale candidate = true := by
  have lower (gap : Nat) (some : 1 ≤ gap) : (4 * v.significand - gap) * (v.scaled scale).1 <
      4 * candidate * (v.scaled scale).2 := by
    rw [Nat.sub_mul]
    have := Nat.mul_le_mul_right (v.scaled scale).1 some
    have := Nat.mul_le_mul_right (v.scaled scale).1 (show 4 ≤ 4 * v.significand by omega)
    omega
  have upper :
      4 * candidate * (v.scaled scale).2 < (4 * v.significand + 2) * (v.scaled scale).1 := by
    rw [Nat.add_mul]
    omega
  have low := lower (if v.significand = Nat.pow 2 52 ∧ v.exponent ≠ -1074 then 1 else 2)
    (by split <;> decide)
  unfold absorbs
  dsimp only
  split <;> simp [low, upper, low.le, upper.le]

theorem Magnitude.absorbs_nearest {v : Magnitude} {scale : Int} {point rest : Nat}
    (pos : 0 < v.significand) (fine : 2 * (v.scaled scale).2 < (v.scaled scale).1)
    (parts : (v.scaled scale).2 * point + rest = v.significand * (v.scaled scale).1)
    (less : rest < (v.scaled scale).2) (upper : Bool)
    (above : upper = true → (v.scaled scale).2 ≤ 2 * rest)
    (below : upper = false → 2 * rest ≤ (v.scaled scale).2) :
    v.absorbs scale (if upper then point + 1 else point) = true := by
  have value : 4 * v.significand * (v.scaled scale).1 =
      4 * ((v.scaled scale).2 * point) + 4 * rest := by
    rw [Nat.mul_assoc, ← parts, Nat.mul_add]
  have lower : 4 * point * (v.scaled scale).2 = 4 * ((v.scaled scale).2 * point) := by ring
  have next : 4 * (point + 1) * (v.scaled scale).2 =
      4 * ((v.scaled scale).2 * point) + 4 * (v.scaled scale).2 := by ring
  cases upper with
  | true =>
      have half := above rfl
      exact absorbs_of_near pos (by rw [if_pos rfl]; omega) (by rw [if_pos rfl]; omega)
  | false =>
      have half := below rfl
      refine absorbs_of_near pos ?_ ?_ <;> simp only [Bool.false_eq_true, if_false] <;> omega

theorem Magnitude.exists_gridPoint? (tie : Tie) {v : Magnitude} {scale : Int}
    (pos : 0 < v.significand) (fine : 2 * (v.scaled scale).2 < (v.scaled scale).1) :
    ∃ digits, v.gridPoint? tie scale = some digits := by
  have parts := Nat.div_add_mod (v.significand * (v.scaled scale).1) (v.scaled scale).2
  have less : v.significand * (v.scaled scale).1 % (v.scaled scale).2 < (v.scaled scale).2 :=
    Nat.mod_lt _ (Nat.mul_pos (Nat.pow_pos (by decide)) (Nat.pow_pos (by decide)))
  have nearest := absorbs_nearest pos fine parts less
  unfold gridPoint?
  dsimp only
  generalize v.significand * (v.scaled scale).1 / (v.scaled scale).2 = point at nearest ⊢
  generalize v.significand * (v.scaled scale).1 % (v.scaled scale).2 = rest at nearest ⊢
  have first (upper : Bool)
      (absorbed : v.absorbs scale (if upper then point + 1 else point) = true) :
      ∃ digits,
        (if v.absorbs scale (if upper then (point + 1, point) else (point, point + 1)).1 then
          some (if upper then (point + 1, point) else (point, point + 1)).1
        else if v.absorbs scale (if upper then (point + 1, point) else (point, point + 1)).2 then
          some (if upper then (point + 1, point) else (point, point + 1)).2
        else none) = some digits := by
    cases upper <;> exact ⟨_, if_pos absorbed⟩
  refine first _ (nearest _ ?_ ?_)
  · intro chosen
    simp only [Bool.or_eq_true, Bool.and_eq_true, decide_eq_true_eq, beq_iff_eq] at chosen
    omega
  · intro chosen
    simp only [Bool.or_eq_false_iff, decide_eq_false_iff_not] at chosen
    omega

theorem Magnitude.refine_absorbs {tie : Tie} {v : Magnitude} (pos : 0 < v.significand)
    (places : Nat) (scale : Int)
    (fine : 2 * (v.scaled (scale - places)).2 < (v.scaled (scale - places)).1) :
    v.absorbs (v.refine tie (places + 1) scale).exponent
      (v.refine tie (places + 1) scale).digits = true := by
  induction places generalizing scale with
  | zero =>
      rw [Int.natCast_zero, Int.sub_zero] at fine
      obtain ⟨digits, found⟩ := v.exists_gridPoint? tie pos fine
      rw [refine, found]
      exact v.absorbs_gridPoint? found
  | succ places step =>
      rw [refine]
      split
      · rename_i digits found
        exact v.absorbs_gridPoint? found
      · apply step
        rwa [show scale - 1 - (places : Int) = scale - ((places + 1 : Nat) : Int) by omega]

theorem Magnitude.scaled_lt {v : Magnitude} (positive : v.Positive) :
    2 * (v.scaled (v.coarseScale - 23)).2 < (v.scaled (v.coarseScale - 23)).1 := by
  obtain ⟨pos, lt, low, high⟩ := positive
  have length_le : v.significand.log2 < 53 := (Nat.log2_lt (by omega)).mpr lt
  have scale_eq : v.coarseScale - 23 =
      ((v.significand.log2 + 1 + v.exponent) * 30103) / 100000 - 22 := by
    unfold coarseScale
    rw [Int.fdiv_eq_ediv_of_nonneg _ (by decide)]
    ring
  generalize v.coarseScale - 23 = scale at scale_eq
  generalize v.significand.log2 = length at length_le scale_eq
  unfold scaled
  show 2 * (2 ^ (-v.exponent).toNat * 10 ^ scale.toNat) <
    2 ^ v.exponent.toNat * 10 ^ (-scale).toNat
  rw [← Nat.mul_assoc, ← Nat.pow_succ']
  rcases Int.le_total 0 scale with nonneg | nonpos
  · have none : (-scale).toNat = 0 := by omega
    rw [none, Nat.pow_zero, Nat.mul_one]
    refine (Nat.pow_lt_pow_iff_left (n := 3) (by decide)).mp ?_
    calc (2 ^ ((-v.exponent).toNat + 1) * 10 ^ scale.toNat) ^ 3
        = 2 ^ (3 * ((-v.exponent).toNat + 1)) * 1000 ^ scale.toNat := by
          rw [Nat.mul_pow, ← Nat.pow_mul, ← Nat.pow_mul, Nat.mul_comm scale.toNat, Nat.pow_mul 10,
            Nat.mul_comm 3]
      _ ≤ 2 ^ (3 * ((-v.exponent).toNat + 1)) * 1024 ^ scale.toNat :=
          Nat.mul_le_mul_left _ (Nat.pow_le_pow_left (by decide) _)
      _ = 2 ^ (3 * ((-v.exponent).toNat + 1) + 10 * scale.toNat) := by
          rw [show (1024 : Nat) = 2 ^ 10 by decide, ← Nat.pow_mul, ← Nat.pow_add]
      _ < 2 ^ (3 * v.exponent.toNat) := Nat.pow_lt_pow_right (by decide) (by omega)
      _ = (2 ^ v.exponent.toNat) ^ 3 := by rw [← Nat.pow_mul, Nat.mul_comm]
  · have none : scale.toNat = 0 := by omega
    rw [none, Nat.pow_zero, Nat.mul_one]
    refine (Nat.pow_lt_pow_iff_left (n := 10) (by decide)).mp ?_
    calc (2 ^ ((-v.exponent).toNat + 1)) ^ 10
        = 2 ^ (10 * ((-v.exponent).toNat + 1)) := by rw [← Nat.pow_mul, Nat.mul_comm]
      _ < 2 ^ (10 * v.exponent.toNat + 33 * (-scale).toNat) :=
          Nat.pow_lt_pow_right (by decide) (by omega)
      _ = 2 ^ (10 * v.exponent.toNat) * (2 ^ 33) ^ (-scale).toNat := by
          rw [← Nat.pow_mul, ← Nat.pow_add]
      _ ≤ 2 ^ (10 * v.exponent.toNat) * (10 ^ 10) ^ (-scale).toNat :=
          Nat.mul_le_mul_left _ (Nat.pow_le_pow_left (by decide) _)
      _ = (2 ^ v.exponent.toNat * 10 ^ (-scale).toNat) ^ 10 := by
          rw [Nat.mul_pow, ← Nat.pow_mul, ← Nat.pow_mul, ← Nat.pow_mul, Nat.mul_comm (-scale).toNat,
            Nat.mul_comm 10]

theorem Magnitude.shortest_absorbs (tie : Tie) {v : Magnitude} (positive : v.Positive) :
    v.absorbs (v.shortest tie).exponent (v.shortest tie).digits = true :=
  v.refine_absorbs positive.significand_pos 23 v.coarseScale (v.scaled_lt positive)

theorem Magnitude.shortest_pos (tie : Tie) {v : Magnitude} (positive : v.Positive) :
    0 < (v.shortest tie).digits := by
  have absorbed := v.shortest_absorbs tie positive
  rcases Nat.eq_zero_or_pos (v.shortest tie).digits with zero | digits_pos
  · rw [zero, v.absorbs_zero positive.significand_pos] at absorbed
    contradiction
  · exact digits_pos

end PlotMarkup.Number
