import PlotMarkup.Proofs.Number.Range
import PlotMarkup.Proofs.Number.Stored

namespace PlotMarkup.Number

open Float.Model hiding pack unpack
open Float.Model.UnpackedFloat

/-- What the residual bits tell of a number: where it lies above the mantissa. -/
def Tells (em : ExtendedMantissa) (q : ℚ) : Prop :=
  match em.roundBit, em.stickyBit with
  | false, false => q = em.mantissa
  | false, true => em.mantissa < q ∧ q < em.mantissa + 1 / 2
  | true, false => q = em.mantissa + 1 / 2
  | true, true => em.mantissa + 1 / 2 < q ∧ q < em.mantissa + 1

variable {em : ExtendedMantissa} {q : ℚ}

theorem Tells.floor (tells : Tells em q) : (em.mantissa : ℚ) ≤ q ∧ q < em.mantissa + 1 := by
  obtain ⟨mantissa, roundBit, stickyBit⟩ := em
  cases roundBit <;> cases stickyBit <;> simp only [Tells] at tells ⊢ <;>
    constructor <;> linarith

theorem Tells.shiftRightOne (tells : Tells em q) : Tells em.shiftRightOne (q / 2) := by
  obtain ⟨mantissa, roundBit, stickyBit⟩ := em
  obtain ⟨half, rfl | rfl⟩ := Nat.even_or_odd' mantissa
  · have halved : 2 * half / 2 = half := by omega
    cases roundBit <;> cases stickyBit <;>
      simp [Tells, ExtendedMantissa.shiftRightOne] at tells ⊢ <;>
      first | linarith | (constructor <;> linarith)
  · have halved : (2 * half + 1) / 2 = half := by omega
    cases roundBit <;> cases stickyBit <;>
      simp [Tells, ExtendedMantissa.shiftRightOne, halved] at tells ⊢ <;>
      first | linarith | (constructor <;> linarith)

theorem Tells.shiftRight (tells : Tells em q) (count : Nat) :
    Tells (em >>> count) (q / 2 ^ count) := by
  induction count with
  | zero =>
      rw [pow_zero, div_one]
      exact tells
  | succ count step =>
      rw [pow_succ, ← div_div]
      exact step.shiftRightOne

theorem Tells.roundedMantissa_near {q : ℚ} (tells : Tells em q) :
    (em.roundedMantissa : ℚ) - 1 / 2 ≤ q ∧ q ≤ em.roundedMantissa + 1 / 2 ∧
      (q = em.roundedMantissa - 1 / 2 ∨ q = em.roundedMantissa + 1 / 2 →
        em.roundedMantissa % 2 = 0) := by
  obtain ⟨mantissa, roundBit, stickyBit⟩ := em
  cases roundBit <;> cases stickyBit <;> simp only [Tells] at tells
  · have down : ExtendedMantissa.roundedMantissa ⟨mantissa, false, false⟩ = mantissa := rfl
    rw [down]
    exact ⟨by linarith, by linarith, fun half => by rcases half with half | half <;> linarith⟩
  · have down : ExtendedMantissa.roundedMantissa ⟨mantissa, false, true⟩ = mantissa := rfl
    rw [down]
    exact ⟨by linarith, by linarith, fun half => by rcases half with half | half <;> linarith⟩
  · have even : ExtendedMantissa.roundedMantissa ⟨mantissa, true, false⟩ =
      mantissa + mantissa % 2 := rfl
    have bit : ((mantissa % 2 : Nat) : ℚ) ≤ 1 := by exact_mod_cast (by omega : mantissa % 2 ≤ 1)
    have bit' : (0 : ℚ) ≤ (mantissa % 2 : Nat) := Nat.cast_nonneg _
    rw [even, Nat.cast_add]
    exact ⟨by linarith, by linarith, fun _ => by omega⟩
  · have up : ExtendedMantissa.roundedMantissa ⟨mantissa, true, true⟩ = mantissa + 1 := rfl
    rw [up, Nat.cast_add, Nat.cast_one]
    exact ⟨by linarith, by linarith, fun half => by rcases half with half | half <;> linarith⟩

def Magnitude.gap (v : Magnitude) : ℚ :=
  if v.significand = 2 ^ 52 ∧ v.exponent ≠ -1074 then 1 / 4 else 1 / 2

theorem Magnitude.gap_le (v : Magnitude) : 1 / 4 ≤ v.gap ∧ v.gap ≤ 1 / 2 := by
  unfold gap
  split <;> norm_num

structure Magnitude.Shaped (v : Magnitude) : Prop where
  short : v.significand < 2 ^ 53
  least : -1074 ≤ v.exponent
  long : v.exponent ≠ -1074 → 2 ^ 52 ≤ v.significand

/-- The number lies between the two midpoints around the magnitude, and on one of them only if the
significand is even. -/
structure Magnitude.Attracts (v : Magnitude) (r : ℚ) : Prop where
  low : (v.significand - v.gap) * 2 ^ v.exponent ≤ r
  high : r ≤ (v.significand + 1 / 2) * 2 ^ v.exponent
  tie : r = (v.significand - v.gap) * 2 ^ v.exponent ∨
    r = (v.significand + 1 / 2) * 2 ^ v.exponent → v.significand % 2 = 0

variable {v w : Magnitude} {r : ℚ}

theorem Magnitude.Canonical.shaped (canonical : v.Canonical) : v.Shaped :=
  ⟨canonical.short, canonical.least, canonical.long⟩

theorem Magnitude.Shaped.canonical (shaped : v.Shaped) (most : v.exponent ≤ 971) : v.Canonical :=
  ⟨shaped.short, shaped.least, most, shaped.long⟩

theorem Magnitude.Shaped.lowest (shaped : v.Shaped) (zero : v.significand = 0) :
    v.exponent = -1074 := by
  by_contra other
  have := shaped.long other
  omega

theorem Magnitude.Shaped.low (shaped : v.Shaped) (normal : v.exponent ≠ -1074) :
    (2 : ℚ) ^ 52 - 1 / 4 ≤ v.significand - v.gap := by
  by_cases leading : v.significand = 2 ^ 52 ∧ v.exponent ≠ -1074
  · have gap : v.gap = 1 / 4 := if_pos leading
    rw [gap, leading.1]
    push_cast
    exact le_refl _
  · have gap : v.gap = 1 / 2 := if_neg leading
    have long : 2 ^ 52 + 1 ≤ v.significand := by
      have := shaped.long normal
      have : v.significand ≠ 2 ^ 52 := fun same => leading ⟨same, normal⟩
      omega
    have long : ((2 ^ 52 + 1 : Nat) : ℚ) ≤ v.significand := by exact_mod_cast long
    rw [gap]
    push_cast at long
    linarith

theorem Magnitude.Attracts.exponent_le (attracts : v.Attracts r) (attracts' : w.Attracts r)
    (shaped : v.Shaped) (shaped' : w.Shaped) : w.exponent ≤ v.exponent := by
  by_contra lower
  have low := shaped'.low (by have := shaped.least; omega)
  have short : (v.significand : ℚ) + 1 ≤ 2 ^ 53 := by exact_mod_cast shaped.short
  have unit : (0 : ℚ) < 2 ^ v.exponent := by positivity
  have next : 2 * (2 : ℚ) ^ v.exponent ≤ 2 ^ w.exponent := by
    have step : (2 : ℚ) ^ (1 + v.exponent) = 2 * 2 ^ v.exponent := by
      rw [zpow_add₀ two_ne_zero, zpow_one]
    rw [← step]
    exact zpow_le_zpow_right₀ one_le_two (by omega)
  have above : (2 ^ 52 - 1 / 4 : ℚ) * (2 * 2 ^ v.exponent) ≤ r :=
    (mul_le_mul low next (by positivity) (le_trans (by norm_num) low)).trans attracts'.low
  have high := attracts.high
  -- Only the last magnitude of its binade reaches that far, and it is odd.
  have last : v.significand + 1 = 2 ^ 53 := by
    have : (2 : ℚ) ^ 53 ≤ v.significand + 1 := by
      refine le_of_mul_le_mul_right ?_ unit
      linarith
    have : 2 ^ 53 ≤ v.significand + 1 := by exact_mod_cast this
    have := shaped.short
    omega
  have last' : (v.significand : ℚ) = 2 ^ 53 - 1 := by
    rw [eq_sub_iff_add_eq]
    exact_mod_cast last
  have ends : r = (v.significand + 1 / 2) * 2 ^ v.exponent := by
    refine le_antisymm high ?_
    rw [last']
    linarith
  have even := attracts.tie (.inr ends)
  omega

theorem Magnitude.Attracts.significand_le (attracts : v.Attracts r) (attracts' : w.Attracts r)
    (same : v.exponent = w.exponent) : w.significand ≤ v.significand := by
  by_contra less
  have unit : (0 : ℚ) < 2 ^ w.exponent := by positivity
  have high := attracts.high
  have low := attracts'.low
  rw [same] at high
  have gap := w.gap_le.2
  have within : (w.significand : ℚ) - w.gap ≤ v.significand + 1 / 2 :=
    le_of_mul_le_mul_right (low.trans high) unit
  have next : w.significand = v.significand + 1 := by
    have : (w.significand : ℚ) ≤ v.significand + 1 := by linarith
    have : w.significand ≤ v.significand + 1 := by exact_mod_cast this
    omega
  have next' : (w.significand : ℚ) = v.significand + 1 := by exact_mod_cast next
  have ends : r = (v.significand + 1 / 2) * 2 ^ w.exponent := by
    refine le_antisymm high (le_trans ?_ low)
    exact mul_le_mul_of_nonneg_right (by linarith) unit.le
  have ends' : r = (w.significand - w.gap) * 2 ^ w.exponent := by
    refine le_antisymm (high.trans ?_) low
    exact mul_le_mul_of_nonneg_right (by linarith) unit.le
  have even := attracts.tie (.inr (same ▸ ends))
  have even' := attracts'.tie (.inl ends')
  omega

theorem Magnitude.Attracts.unique (attracts : v.Attracts r) (attracts' : w.Attracts r)
    (shaped : v.Shaped) (shaped' : w.Shaped) : v = w := by
  have exponent := le_antisymm (attracts'.exponent_le attracts shaped' shaped)
    (attracts.exponent_le attracts' shaped shaped')
  have significand := le_antisymm (attracts'.significand_le attracts exponent.symm)
    (attracts.significand_le attracts' exponent)
  obtain ⟨_, _⟩ := v
  obtain ⟨_, _⟩ := w
  exact Magnitude.mk.injEq _ _ _ _ |>.mpr ⟨significand, exponent⟩

theorem attracts_of_near {rounded : Nat} {place : Int} (low : (rounded : ℚ) - 1 / 2 ≤ q)
    (high : q ≤ rounded + 1 / 2)
    (tie : q = rounded - 1 / 2 ∨ q = rounded + 1 / 2 → rounded % 2 = 0)
    (normal : place ≠ -1074 → 2 ^ 52 ≤ q) :
    Magnitude.Attracts ⟨rounded, place⟩ (q * 2 ^ place) := by
  have unit : (0 : ℚ) < 2 ^ place := by positivity
  -- Below a power of two only half of the interval is left, and the number does not lie there.
  by_cases leading : rounded = 2 ^ 52 ∧ place ≠ -1074
  · have gap : Magnitude.gap ⟨rounded, place⟩ = 1 / 4 := if_pos leading
    obtain ⟨rfl, above⟩ := leading
    have start := normal above
    refine ⟨mul_le_mul_of_nonneg_right ?_ unit.le, mul_le_mul_of_nonneg_right high unit.le,
      fun _ => by norm_num⟩
    rw [gap]
    push_cast
    linarith
  · have gap : Magnitude.gap ⟨rounded, place⟩ = 1 / 2 := if_neg leading
    refine ⟨mul_le_mul_of_nonneg_right (gap ▸ low) unit.le,
      mul_le_mul_of_nonneg_right high unit.le, fun ends => tie ?_⟩
    rw [gap] at ends
    exact ends.imp (mul_right_cancel₀ unit.ne') (mul_right_cancel₀ unit.ne')

theorem attracts_of_carry {place : Int} (least : -1074 ≤ place) (low : 2 ^ 53 - 1 / 2 ≤ q)
    (high : q < 2 ^ 53) : Magnitude.Attracts ⟨2 ^ 52, place + 1⟩ (q * 2 ^ place) := by
  have unit : (0 : ℚ) < 2 ^ place := by positivity
  have next : (2 : ℚ) ^ (place + 1) = 2 * 2 ^ place := by
    rw [zpow_add₀ two_ne_zero, zpow_one, mul_comm]
  have gap : Magnitude.gap ⟨2 ^ 52, place + 1⟩ = 1 / 4 := if_pos ⟨rfl, by dsimp only; omega⟩
  refine ⟨?_, ?_, fun _ => by norm_num⟩
  · rw [gap, next, ← mul_assoc]
    refine mul_le_mul_of_nonneg_right ?_ unit.le
    push_cast
    linarith
  · rw [next, ← mul_assoc]
    refine mul_le_mul_of_nonneg_right ?_ unit.le
    push_cast
    linarith

variable {mantissa : Nat} {exponent : Int} {accuracy : Accuracy}

section

variable (tells : Tells (.ofMantissaAndAccuracy mantissa accuracy) (r / 2 ^ exponent))
include tells

theorem lt_target : r < 2 ^ (target mantissa exponent + 53) := by
  have above := tells.floor.2
  rw [mantissa_ofMantissaAndAccuracy, div_lt_iff₀ (by positivity)] at above
  have short : (mantissa : ℚ) + 1 ≤ 2 ^ ((mantissa.log2 : ℤ) + 1) := by
    exact_mod_cast Nat.lt_log2_self (n := mantissa)
  calc r < (mantissa + 1) * 2 ^ exponent := above
    _ ≤ 2 ^ ((mantissa.log2 : ℤ) + 1) * 2 ^ exponent := by gcongr
    _ = 2 ^ ((mantissa.log2 : ℤ) + 1 + exponent) := (zpow_add₀ two_ne_zero _ _).symm
    _ ≤ 2 ^ (target mantissa exponent + 53) := by
      apply zpow_le_zpow_right₀ one_le_two
      unfold target totalExponent
      omega

theorem target_le_of_normal (fine : exponent ≤ target mantissa exponent)
    (normal : target mantissa exponent ≠ -1074) : 2 ^ (target mantissa exponent + 52) ≤ r := by
  have below := tells.floor.1
  rw [mantissa_ofMantissaAndAccuracy, le_div_iff₀ (by positivity)] at below
  have place : target mantissa exponent + 52 = mantissa.log2 + exponent := by
    unfold target totalExponent at *
    omega
  have nonzero : mantissa ≠ 0 := by
    rintro rfl
    simp at place
    omega
  have long : (2 : ℚ) ^ (mantissa.log2 : ℤ) ≤ mantissa := by
    exact_mod_cast Nat.log2_self_le nonzero
  calc (2 : ℚ) ^ (target mantissa exponent + 52)
      = 2 ^ (mantissa.log2 : ℤ) * 2 ^ exponent := by rw [place, zpow_add₀ two_ne_zero]
    _ ≤ mantissa * 2 ^ exponent := by gcongr
    _ ≤ r := below

theorem tells_target (fine : exponent ≤ target mantissa exponent) :
    Tells (ExtendedMantissa.ofMantissaAndAccuracy mantissa accuracy >>>
      (target mantissa exponent - exponent).toNat) (r / 2 ^ target mantissa exponent) := by
  have shifted := tells.shiftRight (target mantissa exponent - exponent).toNat
  rwa [div_div, ← zpow_natCast, ← zpow_add₀ two_ne_zero, Int.toNat_of_nonneg (by omega),
    add_sub_cancel] at shifted

variable (fine : exponent ≤ target mantissa exponent)
include fine

theorem exists_attracts (sign : Sign) : ∃ v : Magnitude, v.Shaped ∧ v.Attracts r ∧
    roundWithAccuracy Format.binary64 sign mantissa exponent accuracy = v.signed sign := by
  obtain ⟨rounded, first, kept, le, same⟩ := exists_rounded sign mantissa exponent accuracy
  have told := tells_target tells fine
  obtain ⟨low, high, tie⟩ := told.roundedMantissa_near
  have below := told.floor.2
  rw [mantissa_shifted] at below
  rw [first] at low high tie
  have least : -1074 ≤ target mantissa exponent := le_max_right _ _
  have normal (above : target mantissa exponent ≠ -1074) :
      (2 : ℚ) ^ 52 ≤ r / 2 ^ target mantissa exponent := by
    rw [le_div_iff₀ (by positivity), ← zpow_natCast, ← zpow_add₀ two_ne_zero, add_comm]
    exact target_le_of_normal tells fine above
  have short : r / 2 ^ target mantissa exponent < 2 ^ 53 := by
    rw [div_lt_iff₀ (by positivity), ← zpow_natCast, ← zpow_add₀ two_ne_zero, add_comm]
    exact lt_target tells
  rw [max_eq_right fine] at same
  generalize target mantissa exponent = place at *
  have scaled : r / 2 ^ place * 2 ^ place = r := div_mul_cancel₀ r (by positivity)
  rcases Nat.lt_or_ge rounded (2 ^ 53) with small | carried
  · have long (above : place ≠ -1074) : 2 ^ 52 ≤ rounded := by
      have : ((2 ^ 52 : Nat) : ℚ) < (mantissa / 2 ^ (place - exponent).toNat : Nat) + 1 := by
        push_cast
        linarith [normal above]
      have : 2 ^ 52 < mantissa / 2 ^ (place - exponent).toNat + 1 := by exact_mod_cast this
      omega
    refine ⟨⟨rounded, place⟩, ⟨small, least, long⟩,
      scaled ▸ attracts_of_near low high tie normal, ?_⟩
    rw [same]
    simp only [small, if_true]
    rfl
  · obtain rfl : rounded = 2 ^ 53 := le_antisymm le carried
    push_cast at low
    refine ⟨⟨2 ^ 52, place + 1⟩, ⟨?_, ?_, fun _ => Nat.le_refl _⟩,
      scaled ▸ attracts_of_carry least low short, ?_⟩
    · exact Nat.pow_lt_pow_right (by decide) (by decide)
    · dsimp only
      omega
    · rw [same]
      rfl

end

theorem attracts_self (v : Magnitude) : v.Attracts (v.significand * 2 ^ v.exponent) := by
  have unit : (0 : ℚ) < 2 ^ v.exponent := by positivity
  obtain ⟨gap_ge, -⟩ := v.gap_le
  have below : (v.significand - v.gap) * 2 ^ v.exponent < v.significand * 2 ^ v.exponent :=
    mul_lt_mul_of_pos_right (by linarith) unit
  have above : (v.significand : ℚ) * 2 ^ v.exponent < (v.significand + 1 / 2) * 2 ^ v.exponent :=
    mul_lt_mul_of_pos_right (by linarith) unit
  exact ⟨below.le, above.le, fun half => by rcases half with low | high <;> linarith⟩

end PlotMarkup.Number
