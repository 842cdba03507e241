import Mathlib.Algebra.Order.Field.Rat
import PlotMarkup.Proofs.Number.Stored
import PlotMarkup.Proofs.Number.Nearest

namespace PlotMarkup.Number

open Float.Model hiding pack unpack
open Float.Model.UnpackedFloat

def Magnitude.quantity (v : Magnitude) : ℚ :=
  v.significand * 2 ^ v.exponent

def signed (sign : Sign) (r : ℚ) : ℚ :=
  match sign with
  | .positive => r
  | .negative => -r

/-- The number that a finite double is. -/
def quantity (x : Float) : ℚ :=
  signed (signOf x) (magnitude x).quantity

variable {v w : Magnitude} {sign sign' : Sign} {x y : Float}

theorem abs_signed (sign : Sign) {r : ℚ} (nonneg : 0 ≤ r) : |signed sign r| = r := by
  cases sign with
  | positive => exact abs_of_nonneg nonneg
  | negative => exact (abs_neg r).trans (abs_of_nonneg nonneg)

theorem signed_zero (sign : Sign) : signed sign 0 = 0 := by
  cases sign with
  | positive => rfl
  | negative => exact neg_zero

theorem signed_neg (sign : Sign) (r : ℚ) : signed (-sign) r = -signed sign r := by
  cases sign with
  | positive => rfl
  | negative => exact (neg_neg r).symm

theorem Magnitude.quantity_nonneg (v : Magnitude) : 0 ≤ v.quantity := by
  unfold quantity
  positivity

theorem Magnitude.quantity_pos_iff (v : Magnitude) : 0 < v.quantity ↔ 0 < v.significand := by
  unfold quantity
  rw [mul_pos_iff_of_pos_right (by positivity), Nat.cast_pos]

theorem Magnitude.quantity_eq_zero (zero : v.significand = 0) : v.quantity = 0 := by
  simp [quantity, zero]

theorem abs_quantity (x : Float) : |quantity x| = (magnitude x).quantity :=
  abs_signed _ (Magnitude.quantity_nonneg _)

theorem quantity_eq (bits : magnitude x = v) (plain : isNegative x = false) :
    quantity x = v.quantity := by
  rw [quantity, signOf, plain, bits]
  rfl

theorem signed_inj (canonical : v.Canonical) (canonical' : w.Canonical)
    (same : v.signed sign = w.signed sign') : v = w ∧ sign = sign' := by
  unfold Magnitude.signed at same
  split at same <;> split at same
  · rename_i zero zero'
    have exponent := (canonical.shaped.lowest zero).trans (canonical'.shaped.lowest zero').symm
    obtain ⟨significand, place⟩ := v
    obtain ⟨significand', place'⟩ := w
    dsimp only at *
    subst zero zero' exponent
    exact ⟨rfl, by simpa using same⟩
  · cases same
  · cases same
  · simp only [UnpackedFloat.finite.injEq] at same
    obtain ⟨rfl, significand, exponent⟩ := same
    obtain ⟨_, _⟩ := v
    obtain ⟨_, _⟩ := w
    dsimp only at *
    subst significand exponent
    exact ⟨rfl, rfl⟩

theorem magnitude_pack (canonical : v.Canonical) (sign : Sign) :
    magnitude ⟨Float.Model.pack (v.signed sign)⟩ = v ∧
      signOf ⟨Float.Model.pack (v.signed sign)⟩ = sign := by
  have finite := isFinite_pack_signed canonical sign
  have same := (unpack_toModel finite).symm.trans (unpack_pack canonical sign)
  exact signed_inj (canonical_magnitude finite) canonical same

theorem quantity_pack (canonical : v.Canonical) (sign : Sign) :
    quantity ⟨Float.Model.pack (v.signed sign)⟩ = signed sign v.quantity := by
  obtain ⟨same, same'⟩ := magnitude_pack canonical sign
  rw [quantity, same, same']

theorem eq_pack (finite : x.isFinite = true) :
    x = ⟨Float.Model.pack ((magnitude x).signed (signOf x))⟩ :=
  congrArg Float.ofModel (pack_signed_magnitude finite).symm

theorem quantity_neg (finite : x.isFinite = true) : quantity (-x) = -quantity x := by
  have canonical := canonical_magnitude finite
  conv_lhs => rw [eq_pack finite, neg_pack canonical, quantity_pack canonical, signed_neg]
  rfl

theorem neg_neg_of_finite (finite : x.isFinite = true) : - -x = x := by
  have canonical := canonical_magnitude finite
  conv_lhs => rw [eq_pack finite, neg_pack canonical, neg_pack canonical]
  conv_rhs => rw [eq_pack finite]
  cases signOf x <;> rfl

theorem exists_multiple (finite : x.isFinite = true) :
    ∃ count : ℤ, quantity x = count * 2 ^ (-1074 : ℤ) := by
  have least := (canonical_magnitude finite).least
  have aligned : (magnitude x).quantity =
      ((magnitude x).significand * 2 ^ ((magnitude x).exponent + 1074).toNat : ℤ) *
        2 ^ (-1074 : ℤ) := by
    rw [Int.cast_mul, Int.cast_pow, Int.cast_natCast, Int.cast_ofNat, Magnitude.quantity,
      mul_assoc, ← zpow_natCast, ← zpow_add₀ two_ne_zero, Int.toNat_of_nonneg (by omega),
      add_neg_cancel_right]
  unfold quantity signed
  rw [aligned]
  split
  · exact ⟨_, rfl⟩
  · exact ⟨_, by rw [← neg_mul, ← Int.cast_neg]⟩

theorem Magnitude.Canonical.lt_of_exponent_lt (canonical : v.Canonical) (canonical' : w.Canonical)
    (lower : v.exponent < w.exponent) : v.quantity < w.quantity := by
  have short : (v.significand : ℚ) < 2 ^ 53 := by exact_mod_cast canonical.short
  have least := canonical.least
  have long : (2 : ℚ) ^ 52 ≤ w.significand := by exact_mod_cast canonical'.long (by omega)
  calc v.quantity < 2 ^ 53 * 2 ^ v.exponent := by unfold quantity; gcongr
    _ = 2 ^ 52 * 2 ^ (v.exponent + 1) := by rw [zpow_add₀ two_ne_zero]; ring
    _ ≤ 2 ^ 52 * 2 ^ w.exponent := by
      gcongr
      · exact one_le_two
      · omega
    _ ≤ w.quantity := by unfold quantity; gcongr

theorem compare_magnitudes (canonical : v.Canonical) (canonical' : w.Canonical) :
    (compare v.exponent w.exponent).then (compare v.significand w.significand) =
      compare v.quantity w.quantity := by
  rcases lt_trichotomy v.exponent w.exponent with lower | same | higher
  · rw [compare_lt_iff_lt.mpr lower,
      compare_lt_iff_lt.mpr (canonical.lt_of_exponent_lt canonical' lower)]
    rfl
  · rw [compare_eq_iff_eq.mpr same]
    unfold Magnitude.quantity
    rw [same]
    have unit : (0 : ℚ) < 2 ^ w.exponent := by positivity
    rcases lt_trichotomy v.significand w.significand with less | equal | greater
    · rw [compare_lt_iff_lt.mpr less, compare_lt_iff_lt.mpr]
      · rfl
      · gcongr
    · rw [equal, compare_eq_iff_eq.mpr rfl, compare_eq_iff_eq.mpr rfl]
      rfl
    · rw [compare_gt_iff_gt.mpr greater, compare_gt_iff_gt.mpr]
      · rfl
      · exact mul_lt_mul_of_pos_right (by exact_mod_cast greater) unit
  · rw [compare_gt_iff_gt.mpr higher,
      compare_gt_iff_gt.mpr (canonical'.lt_of_exponent_lt canonical higher)]
    rfl

theorem compare_neg_neg (r s : ℚ) : compare (-r) (-s) = (compare r s).swap := by
  rcases lt_trichotomy r s with less | rfl | greater
  · rw [compare_lt_iff_lt.mpr less, compare_gt_iff_gt.mpr (neg_lt_neg less)]
    rfl
  · rw [compare_eq_iff_eq.mpr rfl, compare_eq_iff_eq.mpr rfl]
    rfl
  · rw [compare_gt_iff_gt.mpr greater, compare_lt_iff_lt.mpr (neg_lt_neg greater)]
    rfl

theorem compare_signed (canonical : v.Canonical) (canonical' : w.Canonical) :
    (v.signed sign).compare (w.signed sign') =
      some (compare (signed sign v.quantity) (signed sign' w.quantity)) := by
  rcases Nat.eq_zero_or_pos v.significand with zero | pos <;>
    rcases Nat.eq_zero_or_pos w.significand with zero' | pos'
  · rw [Magnitude.signed, Magnitude.signed, dif_pos zero, dif_pos zero',
      Magnitude.quantity_eq_zero zero, Magnitude.quantity_eq_zero zero', signed_zero, signed_zero,
      compare_eq_iff_eq.mpr rfl]
    rfl
  · have positive := w.quantity_pos_iff.mpr pos'
    rw [Magnitude.signed, dif_pos zero, w.signed_of_pos pos', Magnitude.quantity_eq_zero zero,
      signed_zero]
    cases sign' with
    | positive => rw [signed, compare_lt_iff_lt.mpr positive]; rfl
    | negative => rw [signed, compare_gt_iff_gt.mpr (neg_lt_zero.mpr positive)]; rfl
  · have positive := v.quantity_pos_iff.mpr pos
    rw [Magnitude.signed, Magnitude.signed, dif_pos zero', dif_neg pos.ne',
      Magnitude.quantity_eq_zero zero', signed_zero]
    cases sign with
    | positive => rw [signed, compare_gt_iff_gt.mpr positive]; rfl
    | negative => rw [signed, compare_lt_iff_lt.mpr (neg_lt_zero.mpr positive)]; rfl
  · have positive := v.quantity_pos_iff.mpr pos
    have positive' := w.quantity_pos_iff.mpr pos'
    have magnitudes := compare_magnitudes canonical canonical'
    rw [v.signed_of_pos pos, w.signed_of_pos pos']
    cases sign <;> cases sign'
    · rw [signed, signed, compare_neg_neg, ← magnitudes]; rfl
    · rw [signed, signed, compare_lt_iff_lt.mpr (by linarith)]; rfl
    · rw [signed, signed, compare_gt_iff_gt.mpr (by show _ < _; linarith)]; rfl
    · rw [signed, signed, ← magnitudes]; rfl

theorem compare_of_finite (finite : x.isFinite = true) (finite' : y.isFinite = true) :
    x.toModel.unpack.compare y.toModel.unpack = some (compare (quantity x) (quantity y)) := by
  rw [unpack_toModel finite, unpack_toModel finite',
    compare_signed (canonical_magnitude finite) (canonical_magnitude finite')]
  rfl

theorem lt_iff (finite : x.isFinite = true) (finite' : y.isFinite = true) :
    x < y ↔ quantity x < quantity y := by
  show decide (UnpackedFloat.lt x.toModel.unpack y.toModel.unpack = true) = true ↔ _
  rw [decide_eq_true_iff, UnpackedFloat.lt, compare_of_finite finite finite', ← compare_lt_iff_lt]
  cases compare (quantity x) (quantity y) <;> decide

theorem le_iff (finite : x.isFinite = true) (finite' : y.isFinite = true) :
    x ≤ y ↔ quantity x ≤ quantity y := by
  show decide (UnpackedFloat.le x.toModel.unpack y.toModel.unpack = true) = true ↔ _
  rw [decide_eq_true_iff, UnpackedFloat.le, compare_of_finite finite finite', ← compare_le_iff_le]
  cases compare (quantity x) (quantity y) <;> decide

theorem beq_iff (finite : x.isFinite = true) (finite' : y.isFinite = true) :
    (x == y) = true ↔ quantity x = quantity y := by
  show UnpackedFloat.beq x.toModel.unpack y.toModel.unpack = true ↔ _
  rw [UnpackedFloat.beq, compare_of_finite finite finite',
    ← compare_eq_iff_eq (a := quantity x) (b := quantity y)]
  cases compare (quantity x) (quantity y) <;> decide

theorem not_le_iff (finite : x.isFinite = true) (finite' : y.isFinite = true) :
    ¬x ≤ y ↔ y < x := by
  rw [le_iff finite finite', lt_iff finite' finite, not_le]

end PlotMarkup.Number
