import PlotMarkup.Proofs.Number.Alike
import PlotMarkup.Proofs.Number.Numeral
import PlotMarkup.Proofs.Number.Reading
import PlotMarkup.Proofs.Number.Shortest

/-!
# Numbers read back

The shortest decimal of a magnitude is attracted by it (`Magnitude.attracts_of_absorbs`).  Hence the
text of a finite number is read as this number, but for the sign of a zero (`exists_spelling`).
-/

namespace PlotMarkup.Number

open Float.Model hiding pack unpack
open Float.Model.UnpackedFloat

variable {v : Magnitude} {scale : Int}

/-! ## The grid and the rational numbers -/

theorem zpow_eq_div {base : ℚ} (nonzero : base ≠ 0) (exponent : Int) :
    base ^ exponent = base ^ exponent.toNat / base ^ (-exponent).toNat := by
  rw [← zpow_natCast, ← zpow_natCast, ← zpow_sub₀ nonzero]
  congr 1
  omega

theorem Magnitude.scaled_ratio (v : Magnitude) (scale : Int) :
    ((v.scaled scale).1 : ℚ) * 10 ^ scale = 2 ^ v.exponent * (v.scaled scale).2 := by
  have numerator : ((v.scaled scale).1 : ℚ) = 2 ^ v.exponent.toNat * 10 ^ (-scale).toNat := by
    have power : (v.scaled scale).1 = 2 ^ v.exponent.toNat * 10 ^ (-scale).toNat := rfl
    exact_mod_cast power
  have denominator : ((v.scaled scale).2 : ℚ) = 2 ^ (-v.exponent).toNat * 10 ^ scale.toNat := by
    have power : (v.scaled scale).2 = 2 ^ (-v.exponent).toNat * 10 ^ scale.toNat := rfl
    exact_mod_cast power
  rw [numerator, denominator, zpow_eq_div (by norm_num) scale, zpow_eq_div two_ne_zero v.exponent]
  field_simp

theorem Magnitude.scaled_pos (v : Magnitude) (scale : Int) : 0 < (v.scaled scale).2 :=
  Nat.mul_pos (Nat.pow_pos (by decide)) (Nat.pow_pos (by decide))

theorem Magnitude.exists_unit (v : Magnitude) (scale : Int) :
    ∃ unit : ℚ, 0 < unit ∧
      (∀ quarters : Nat, ((quarters * (v.scaled scale).1 : Nat) : ℚ) =
        quarters / 4 * 2 ^ v.exponent * unit) ∧
      ∀ candidate : Nat, ((4 * candidate * (v.scaled scale).2 : Nat) : ℚ) =
        candidate * 10 ^ scale * unit := by
  have positive : (0 : ℚ) < (v.scaled scale).2 := by exact_mod_cast v.scaled_pos scale
  have step : (0 : ℚ) < 10 ^ scale := by positivity
  have ratio := v.scaled_ratio scale
  refine ⟨4 * (v.scaled scale).2 / 10 ^ scale, by positivity, fun quarters => ?_,
    fun candidate => ?_⟩
  · have numerator : ((v.scaled scale).1 : ℚ) = 2 ^ v.exponent * (v.scaled scale).2 / 10 ^ scale :=
      (eq_div_iff step.ne').mpr ratio
    rw [Nat.cast_mul, numerator]
    ring
  · push_cast
    field_simp

theorem Magnitude.attracts_of_absorbs {candidate : Nat} (pos : 0 < v.significand)
    (absorbed : v.absorbs scale candidate = true) : v.Attracts (candidate * 10 ^ scale) := by
  obtain ⟨unit, unit_pos, on_left, on_right⟩ := v.exists_unit scale
  have le_iff (quarters : Nat) :
      quarters * (v.scaled scale).1 ≤ 4 * candidate * (v.scaled scale).2 ↔
        (quarters / 4 : ℚ) * 2 ^ v.exponent ≤ candidate * 10 ^ scale := by
    rw [← Nat.cast_le (α := ℚ), on_left, on_right, mul_le_mul_iff_left₀ unit_pos]
  have ge_iff (quarters : Nat) :
      4 * candidate * (v.scaled scale).2 ≤ quarters * (v.scaled scale).1 ↔
        (candidate * 10 ^ scale : ℚ) ≤ (quarters / 4 : ℚ) * 2 ^ v.exponent := by
    rw [← Nat.cast_le (α := ℚ), on_left, on_right, mul_le_mul_iff_left₀ unit_pos]
  have upper : ((4 * v.significand + 2 : Nat) : ℚ) / 4 = v.significand + 1 / 2 := by
    push_cast
    ring
  have lower : ((4 * v.significand -
      (if v.significand = Nat.pow 2 52 ∧ v.exponent ≠ -1074 then 1 else 2) : Nat) : ℚ) / 4 =
        v.significand - v.gap := by
    rw [Nat.cast_sub (by split <;> omega)]
    unfold gap
    show _ = _ - (if v.significand = Nat.pow 2 52 ∧ v.exponent ≠ -1074 then _ else _)
    split <;> push_cast <;> ring
  unfold absorbs at absorbed
  dsimp only at absorbed
  split at absorbed
  · rename_i even
    simp only [Bool.and_eq_true, decide_eq_true_eq, le_iff, ge_iff, lower, upper] at absorbed
    exact ⟨absorbed.1, absorbed.2, fun _ => even⟩
  · simp only [Bool.and_eq_true, decide_eq_true_eq, ← not_le, le_iff, ge_iff, lower,
      upper] at absorbed
    rw [not_le, not_le] at absorbed
    obtain ⟨low, high⟩ := absorbed
    refine ⟨low.le, high.le, fun ends => ?_⟩
    rcases ends with ends | ends
    · exact absurd ends low.ne'
    · exact absurd ends high.ne

/-! ## Reading the shortest decimal -/

theorem Magnitude.Canonical.positive (canonical : v.Canonical) (pos : 0 < v.significand) :
    v.Positive :=
  ⟨pos, canonical.short, canonical.least, by have := canonical.most; omega⟩

theorem toModel_reading {tie : Tie} {n : Numeral} (canonical : v.Canonical)
    (pos : 0 < v.significand)
    (value : n.quantity = (v.shortest tie).digits * 10 ^ (v.shortest tie).exponent) :
    n.reading.toModel = Float.Model.pack (v.signed .positive) := by
  have positive := canonical.positive pos
  have attracts : v.Attracts n.quantity := by
    rw [value]
    exact v.attracts_of_absorbs pos (v.shortest_absorbs tie positive)
  have nonzero : 0 < n.coefficient := by
    refine Nat.pos_of_ne_zero fun zero => ?_
    have digits : (0 : ℚ) < (v.shortest tie).digits := by
      exact_mod_cast v.shortest_pos tie positive
    have quantity_pos : 0 < n.quantity := by
      rw [value]
      positivity
    simp [Numeral.quantity, zero] at quantity_pos
  exact toModel_ofDecimal canonical nonzero attracts

variable {x : Float}

def Numeral.signed (n : Numeral) (negative : Bool) : Float :=
  if negative then -n.reading else n.reading

theorem signed_reading {tie : Tie} {n : Numeral} (finite : x.isFinite = true)
    (nonzero : (magnitude x).significand ≠ 0)
    (value : n.quantity =
      ((magnitude x).shortest tie).digits * 10 ^ ((magnitude x).shortest tie).exponent) :
    n.reading.isFinite = true ∧ n.signed (isNegative x) = x := by
  have canonical := canonical_magnitude finite
  have pos := Nat.pos_of_ne_zero nonzero
  have reading : n.reading = ⟨Float.Model.pack ((magnitude x).signed .positive)⟩ :=
    congrArg Float.ofModel (toModel_reading canonical pos value)
  have same : (⟨Float.Model.pack ((magnitude x).signed (signOf x))⟩ : Float) = x :=
    congrArg Float.ofModel (pack_signed_magnitude finite)
  rw [reading]
  refine ⟨isFinite_pack_signed canonical .positive, ?_⟩
  unfold signOf at same
  unfold Numeral.signed
  rw [reading]
  cases negative : isNegative x with
  | true =>
      rw [negative] at same
      exact (neg_pack canonical .positive).trans same
  | false =>
      rw [negative] at same
      exact same

theorem isZero_of_magnitude (finite : x.isFinite = true) (zero : (magnitude x).significand = 0) :
    IsZero x := by
  refine ⟨signOf x, ?_⟩
  rw [unpack_toModel finite]
  exact dif_pos zero

theorem exists_spelling (finite : x.isFinite = true) :
    ∃ (negative : Bool) (n : Numeral),
      finiteText .markup x = (if negative then ['-'] else []) ++ n.chars ∧
        n.reading.isFinite = true ∧ Alike (n.signed negative) x := by
  unfold finiteText
  dsimp only
  split
  · rename_i zero
    have plain : (isNegative x && Style.markup.signedZero) = false := Bool.and_false _
    refine ⟨false, .ofFraction [] (fun c member => absurd member List.not_mem_nil), ?_, ?_,
      .inr ⟨⟨.positive, ?_⟩, isZero_of_magnitude finite zero⟩⟩
    · rw [plain]
      rfl
    · decide
    · rfl
  · rename_i nonzero
    obtain ⟨n, spelled, value, -⟩ := exists_decimal .markup 0 rfl
      (Magnitude.shortest_pos Style.markup.tie (positive_magnitude nonzero))
    obtain ⟨bounded, same⟩ := signed_reading finite nonzero value
    exact ⟨isNegative x, n, by rw [spelled], bounded, .inl same⟩

end PlotMarkup.Number
