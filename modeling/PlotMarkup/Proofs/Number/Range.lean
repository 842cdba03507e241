import PlotMarkup.Proofs.Number.Finite
import PlotMarkup.Number.Reading

namespace PlotMarkup.Number

open Float.Model hiding pack unpack
open Float.Model.UnpackedFloat

def target (mantissa : Nat) (exponent : Int) : Int :=
  max (totalExponent mantissa exponent - 53) (-1074)

theorem mantissa_shiftRight (em : ExtendedMantissa) (count : Nat) :
    (em >>> count).mantissa = em.mantissa / 2 ^ count := by
  induction count with
  | zero => exact (Nat.div_one _).symm
  | succ count step =>
      show (em >>> count).mantissa / 2 = em.mantissa / 2 ^ (count + 1)
      rw [step, Nat.div_div_eq_div_mul, Nat.pow_succ]

theorem roundedMantissa_bounds (em : ExtendedMantissa) :
    em.mantissa ≤ em.roundedMantissa ∧ em.roundedMantissa ≤ em.mantissa + 1 := by
  obtain ⟨mantissa, roundBit, stickyBit⟩ := em
  cases roundBit <;> cases stickyBit <;>
    simp [ExtendedMantissa.roundedMantissa, ExtendedMantissa.accuracy,
      Accuracy.roundToNearestEven]
  omega

theorem mantissa_ofMantissaAndAccuracy (mantissa : Nat) (accuracy : Accuracy) :
    (ExtendedMantissa.ofMantissaAndAccuracy mantissa accuracy).mantissa = mantissa := by
  cases accuracy with
  | exact => rfl
  | inexact order => cases order <;> rfl

theorem mantissa_shifted (mantissa : Nat) (accuracy : Accuracy) (count : Nat) :
    (ExtendedMantissa.ofMantissaAndAccuracy mantissa accuracy >>> count).mantissa =
      mantissa / 2 ^ count := by
  rw [mantissa_shiftRight, mantissa_ofMantissaAndAccuracy]

theorem shiftToTargetExponent_eq (mantissa : Nat) (exponent : Int) (accuracy : Accuracy) :
    shiftToTargetExponent Format.binary64 mantissa exponent accuracy =
      (ExtendedMantissa.ofMantissaAndAccuracy mantissa accuracy >>>
        (target mantissa exponent - exponent).toNat, max exponent (target mantissa exponent)) := by
  refine Prod.ext rfl ?_
  show exponent + ((target mantissa exponent - exponent).toNat : Int) = _
  omega

theorem kept_lt (mantissa : Nat) (exponent : Int) :
    mantissa / 2 ^ (target mantissa exponent - exponent).toNat < 2 ^ 53 := by
  apply (Nat.div_lt_iff_lt_mul (Nat.pow_pos (by decide))).mpr
  rw [← Nat.pow_add]
  refine Nat.lt_of_lt_of_le (Nat.lt_log2_self (n := mantissa)) (Nat.pow_le_pow_right (by decide) ?_)
  unfold target totalExponent
  omega

theorem target_le {mantissa : Nat} {exponent : Int} (small : mantissa < 2 ^ 53)
    (least : -1074 ≤ exponent) : target mantissa exponent ≤ exponent := by
  have short : mantissa.log2 ≤ 52 := by
    rcases Nat.eq_zero_or_pos mantissa with rfl | pos
    · decide
    · exact Nat.le_of_lt_succ ((Nat.log2_lt (by omega)).mpr small)
  unfold target totalExponent
  omega

theorem exists_rounded (sign : Sign) (mantissa : Nat) (exponent : Int) (accuracy : Accuracy) :
    ∃ rounded : Nat,
      (ExtendedMantissa.ofMantissaAndAccuracy mantissa accuracy >>>
        (target mantissa exponent - exponent).toNat).roundedMantissa = rounded ∧
      mantissa / 2 ^ (target mantissa exponent - exponent).toNat ≤ rounded ∧ rounded ≤ 2 ^ 53 ∧
      roundWithAccuracy Format.binary64 sign mantissa exponent accuracy =
        if zero : rounded = 0 then .zero sign
        else if rounded < 2 ^ 53 then
          .finite sign rounded (max exponent (target mantissa exponent)) (Nat.pos_of_ne_zero zero)
        else .finite sign (2 ^ 52) (max exponent (target mantissa exponent) + 1) (by decide) := by
  have bounds := roundedMantissa_bounds (ExtendedMantissa.ofMantissaAndAccuracy mantissa accuracy >>>
    (target mantissa exponent - exponent).toNat)
  have lt := kept_lt mantissa exponent
  rw [mantissa_shifted] at bounds
  have least : -1074 ≤ max exponent (target mantissa exponent) := by
    unfold target
    omega
  refine ⟨_, rfl, bounds.1, by omega, ?_⟩
  unfold roundWithAccuracy
  rw [shiftToTargetExponent_eq]
  dsimp only
  rw [shiftToTargetExponent_eq]
  dsimp only
  generalize (ExtendedMantissa.ofMantissaAndAccuracy mantissa accuracy >>>
    (target mantissa exponent - exponent).toNat).roundedMantissa = rounded at *
  generalize max exponent (target mantissa exponent) = place at *
  have shifted := mantissa_shifted rounded .exact (target rounded place - place).toNat
  generalize ExtendedMantissa.ofMantissaAndAccuracy rounded .exact >>>
    (target rounded place - place).toNat = last at *
  -- Without a carry through all places the second shift does nothing.
  rcases Nat.lt_or_ge rounded (2 ^ 53) with small | large
  · have inside := target_le small least
    have none : (target rounded place - place).toNat = 0 := by omega
    rw [none, Nat.pow_zero, Nat.div_one] at shifted
    simp only [shifted, max_eq_left inside, small, if_true]
  · have carried : rounded = 2 ^ 53 := by omega
    have next : target rounded place = place + 1 := by
      unfold target totalExponent
      rw [carried, Nat.log2_two_pow]
      omega
    rw [next, show (place + 1 - place).toNat = 1 by omega, carried] at shifted
    have half : last.mantissa = 2 ^ 52 := by rw [shifted]; rfl
    have further : max place (target rounded place) = place + 1 := by omega
    simp only [half, further]
    subst carried
    rfl

theorem exists_normal (sign : Sign) {mantissa : Nat} {exponent : Int} (accuracy : Accuracy)
    (long : 52 ≤ mantissa.log2) (above : -1021 ≤ totalExponent mantissa exponent) :
    ∃ significand place pos,
      roundWithAccuracy Format.binary64 sign mantissa exponent accuracy =
        .finite sign significand place pos ∧
      significand.log2 = 52 ∧ totalExponent mantissa exponent - 53 ≤ place ∧
      place ≤ totalExponent mantissa exponent - 52 := by
  obtain ⟨rounded, -, kept, le, same⟩ := exists_rounded sign mantissa exponent accuracy
  have exponent_eq : max exponent (target mantissa exponent) =
      totalExponent mantissa exponent - 53 := by
    unfold target totalExponent at *
    omega
  have leading : 2 ^ 52 ≤ rounded := by
    refine Nat.le_trans ((Nat.le_div_iff_mul_le (Nat.pow_pos (by decide))).mpr ?_) kept
    rw [← Nat.pow_add]
    refine Nat.le_trans (Nat.pow_le_pow_right (by decide) ?_)
      (Nat.log2_self_le (n := mantissa) ?_)
    · unfold target totalExponent at *
      omega
    · rintro rfl
      simp at long
  rw [same, exponent_eq]
  by_cases zero : rounded = 0
  · omega
  · simp only [zero, dite_false]
    by_cases small : rounded < 2 ^ 53
    · simp only [small, if_true]
      refine ⟨_, _, Nat.pos_of_ne_zero zero, rfl, ?_, by omega, by omega⟩
      have := (Nat.log2_lt zero).mpr small
      have := (Nat.le_log2 zero).mpr leading
      omega
    · simp only [small, if_false]
      exact ⟨_, _, by decide, rfl, Nat.log2_two_pow, by omega, by omega⟩

theorem unpack_cases {bits : BitVec Format.binary64.numBits} (finite : unpackExponent bits ≠ -1#_) :
    ((unpackExponent bits).toNat = 0 ∧ ∃ sign, unpack Format.binary64 bits = .zero sign) ∨
    ∃ sign mantissa exponent pos,
      unpack Format.binary64 bits = .finite sign mantissa exponent pos ∧ mantissa < 2 ^ 53 ∧
      exponent = max 1 ((unpackExponent bits).toNat : Int) - 1075 ∧
      ((unpackExponent bits).toNat ≠ 0 → 2 ^ 52 ≤ mantissa) := by
  unfold unpack
  simp only [finite, if_false]
  split
  · rename_i subnormal
    have none : (unpackExponent bits).toNat = 0 := by rw [subnormal]; rfl
    split
    · exact .inl ⟨none, _, rfl⟩
    · rename_i nonzero
      have pos : 0 < (unpackMantissa bits).toNat := BitVec.toNat_pos_of_ne_zero nonzero
      refine .inr ⟨_, _, _, pos, rfl, ?_, ?_, fun some => absurd none some⟩
      · exact Nat.lt_trans (unpackMantissa bits).isLt (by decide)
      · rw [none]
        rfl
  · rename_i normal
    have some : 1 ≤ (unpackExponent bits).toNat := by
      by_contra none
      exact normal (BitVec.toNat_inj.mp (by simp; omega))
    have leading : ((1#1 ++ unpackMantissa bits).toNat : Nat) =
        2 ^ 52 + (unpackMantissa bits).toNat := by
      rw [BitVec.toNat_append, ← Nat.shiftLeft_add_eq_or_of_lt (unpackMantissa bits).isLt]
      rfl
    refine .inr ⟨_, _, _, leading ▸ by omega, rfl, ?_, ?_, fun _ => ?_⟩
    · exact (1#1 ++ unpackMantissa bits).isLt
    · norm_num [Format.exponentBias]
      omega
    · omega

theorem unpackExponent_pack (sign : Sign) {mantissa : Nat} {exponent : Int} (pos : 0 < mantissa)
    (most : exponent ≤ 971) :
    (unpackExponent (pack Format.binary64 (.finite sign mantissa exponent pos))).toNat =
      if mantissa.log2 = 52 then (exponent + 1075).toNat else 0 := by
  have stored : (exponent + Format.binary64.exponentBias +
      Format.binary64.mantissaBitsWithoutImplicit).toNat = (exponent + 1075).toNat := by
    show (exponent + 1023 + 52).toNat = _
    omega
  unfold pack
  simp only
  rw [if_neg]
  · rw [stored]
    split
    · rename_i normal
      have long : mantissa.log2 = 52 := Nat.succ.inj normal
      rw [if_pos long, unpackExponent_packComponents, BitVec.toNat_ofNat, Nat.mod_eq_of_lt]
      show _ < 2048
      omega
    · rename_i subnormal
      have short : mantissa.log2 ≠ 52 := fun long => subnormal (congrArg Nat.succ long)
      rw [if_neg short, unpackExponent_packComponents]
      rfl
  · rw [stored]
    show ¬2048 ≤ _
    omega

def Within (bound : Int) : UnpackedFloat → Prop
  | .zero _ => True
  | .finite _ mantissa exponent _ => mantissa < 2 ^ 53 ∧ exponent ≤ bound
  | _ => False

theorem within_round (sign : Sign) {mantissa : Nat} {exponent bound : Int} (accuracy : Accuracy)
    (below : exponent < bound) (total : totalExponent mantissa exponent ≤ bound + 52)
    (least : -1074 < bound) :
    Within bound (roundWithAccuracy Format.binary64 sign mantissa exponent accuracy) := by
  obtain ⟨rounded, -, -, -, same⟩ := exists_rounded sign mantissa exponent accuracy
  have further : max exponent (target mantissa exponent) < bound := by
    unfold target
    omega
  rw [same]
  split
  · trivial
  · split
    · rename_i small
      exact ⟨small, further.le⟩
    · exact ⟨by decide, further⟩

theorem within_cases {u : UnpackedFloat} {bound : Int} (inside : Within bound u) :
    (∃ sign, u = .zero sign) ∨ ∃ sign mantissa exponent pos,
      u = .finite sign mantissa exponent pos ∧ mantissa < 2 ^ 53 ∧ exponent ≤ bound := by
  cases u with
  | notANumber => cases inside
  | infinity sign => cases inside
  | zero sign => exact .inl ⟨sign, rfl⟩
  | finite sign mantissa exponent pos => exact .inr ⟨sign, mantissa, exponent, pos, rfl, inside⟩

theorem isFinite_of_within {u : UnpackedFloat} {bound : Int} (inside : Within bound u) :
    u.isFinite = true := by
  rcases within_cases inside with ⟨sign, rfl⟩ | ⟨sign, mantissa, exponent, pos, rfl, -⟩ <;> rfl

theorem within_unpack {bits : BitVec Format.binary64.numBits} {bound : Int}
    (finite : unpackExponent bits ≠ -1#_)
    (stored : max 1 ((unpackExponent bits).toNat : Int) - 1075 ≤ bound) :
    Within bound (unpack Format.binary64 bits) := by
  rcases unpack_cases finite with
    ⟨-, sign, same⟩ | ⟨sign, mantissa, exponent, pos, same, lt, rfl, -⟩
  · rw [same]
    trivial
  · rw [same]
    exact ⟨lt, stored⟩

theorem within_of_isFinite {x : Float} (finite : x.isFinite = true) :
    Within 971 x.toModel.unpack := by
  have stored := isFinite_unpack.mp finite
  have lt : _ < 2 ^ 11 := ne_allOnes_iff.mp stored
  exact within_unpack stored (by omega)

theorem within_pack {u : UnpackedFloat} {bound : Int} (inside : Within bound u)
    (least : -1074 ≤ bound) (most : bound ≤ 971) : Within bound (Float.Model.pack u).unpack := by
  rcases within_cases inside with ⟨sign, rfl⟩ | ⟨sign, mantissa, exponent, pos, rfl, -, le⟩
  · cases sign <;> trivial
  · have field := unpackExponent_pack sign pos (Int.le_trans le most)
    show Within bound (unpack Format.binary64 (pack Format.binary64 _))
    refine within_unpack (ne_allOnes_iff.mpr ?_) ?_
    · rw [field]
      show _ < 2048
      split <;> omega
    · rw [field]
      split <;> omega

theorem unpack_pack_normal (sign : Sign) {mantissa : Nat} {exponent : Int} (pos : 0 < mantissa)
    (normal : mantissa.log2 = 52) (least : -1074 ≤ exponent) (most : exponent ≤ 971) :
    ∃ sign' mantissa' pos', (Float.Model.pack (.finite sign mantissa exponent pos)).unpack =
      .finite sign' mantissa' exponent pos' ∧ 2 ^ 52 ≤ mantissa' := by
  have field := unpackExponent_pack sign pos most
  rw [if_pos normal] at field
  have finite : unpackExponent (pack Format.binary64 (.finite sign mantissa exponent pos)) ≠
      -1#_ := by
    rw [ne_allOnes_iff, field]
    show _ < 2048
    omega
  rcases unpack_cases finite with
    ⟨zero, -⟩ | ⟨sign', mantissa', exponent', pos', same, -, rfl, long⟩
  · omega
  · have place : max 1 ((unpackExponent (pack Format.binary64
        (.finite sign mantissa exponent pos))).toNat : Int) - 1075 = exponent := by
      omega
    simp only [place] at same
    exact ⟨sign', mantissa', pos', same, long (by omega)⟩

theorem isFinite_round (sign : Sign) (mantissa : Nat) (exponent : Int) (accuracy : Accuracy) :
    (roundWithAccuracy Format.binary64 sign mantissa exponent accuracy).isFinite = true := by
  obtain ⟨rounded, -, -, -, same⟩ := exists_rounded sign mantissa exponent accuracy
  rw [same]
  split
  · rfl
  · split <;> rfl

theorem finite_cases {u : UnpackedFloat} (finite : u.isFinite = true) :
    (∃ sign, u = .zero sign) ∨ ∃ sign mantissa exponent pos,
      u = .finite sign mantissa exponent pos := by
  cases u with
  | notANumber => cases finite
  | infinity sign => cases finite
  | zero sign => exact .inl ⟨sign, rfl⟩
  | finite sign mantissa exponent pos => exact .inr ⟨sign, mantissa, exponent, pos, rfl⟩

theorem isFinite_mul {u v : UnpackedFloat} (first : u.isFinite = true)
    (second : v.isFinite = true) : (mul Format.binary64 u v).isFinite = true := by
  rcases finite_cases first with ⟨sign, rfl⟩ | ⟨sign, mantissa, exponent, pos, rfl⟩ <;>
    rcases finite_cases second with ⟨sign', rfl⟩ | ⟨sign', mantissa', exponent', pos', rfl⟩
  · rfl
  · rfl
  · rfl
  · exact isFinite_round _ _ _ _

theorem isInf_pack {u : UnpackedFloat} (finite : u.isFinite = true)
    (overflow : (Float.Model.pack u).unpack.isFinite = false) :
    (Float.Model.pack u).unpack.isInf = true := by
  rcases finite_cases finite with ⟨sign, rfl⟩ | ⟨sign, mantissa, exponent, pos, rfl⟩
  · cases sign <;> cases overflow
  · have large :
        ¬(biased Format.binary64 exponent).toNat + 1 < 2 ^ Format.binary64.exponentBits := by
      intro stored
      have stays : (Float.Model.pack (.finite sign mantissa exponent pos)).unpack.isFinite = true :=
        isFinite_pack pos stored
      rw [overflow] at stays
      contradiction
    have packed : pack Format.binary64 (.finite sign mantissa exponent pos) =
        packedInfinity Format.binary64 sign := by
      unfold pack
      simp only
      exact if_pos (Nat.le_of_not_lt large)
    show (unpack Format.binary64 (pack Format.binary64 _)).isInf = true
    rw [packed]
    cases sign <;> rfl

theorem isFinite_mul_of_not_isInf {x y : Float} (first : x.isFinite = true)
    (second : y.isFinite = true) (inside : (x * y).isInf = false) : (x * y).isFinite = true := by
  by_contra overflow
  rw [Bool.not_eq_true] at overflow
  have infinite : (x * y).isInf = true := isInf_pack (isFinite_mul first second) overflow
  rw [inside] at infinite
  contradiction

theorem isFinite_mul_of_within {x y : Float} {first second : Int}
    (left : Within first x.toModel.unpack) (right : Within second y.toModel.unpack)
    (bounded : first + second ≤ 900) : (x * y).isFinite = true := by
  have product : Within 971 (mul Format.binary64 x.toModel.unpack y.toModel.unpack) := by
    generalize x.toModel.unpack = u at left
    generalize y.toModel.unpack = v at right
    rcases within_cases left with ⟨sign, rfl⟩ | ⟨sign, mantissa, exponent, pos, rfl, lt, le⟩ <;>
      rcases within_cases right with
        ⟨sign', rfl⟩ | ⟨sign', mantissa', exponent', pos', rfl, lt', le'⟩
    · trivial
    · trivial
    · trivial
    · have short : mantissa * mantissa' < 2 ^ 106 :=
        calc mantissa * mantissa' < 2 ^ 53 * 2 ^ 53 := Nat.mul_lt_mul'' lt lt'
          _ = 2 ^ 106 := by norm_num
      have places := (Nat.log2_lt (Nat.mul_pos pos pos').ne').mpr short
      refine within_round _ _ (by omega) ?_ (by decide)
      unfold totalExponent
      omega
  exact isFinite_of_within (within_pack product (by decide) (Int.le_refl _))

theorem log2_mul_pow {mantissa : Nat} (pos : 0 < mantissa) (bits : Nat) :
    (mantissa * 2 ^ bits).log2 = mantissa.log2 + bits := by
  rw [Nat.log2_eq_iff (Nat.mul_pos pos (Nat.pow_pos (by decide))).ne', Nat.pow_add,
    Nat.add_right_comm, Nat.pow_add]
  exact ⟨Nat.mul_le_mul_right _ (Nat.log2_self_le pos.ne'),
    Nat.mul_lt_mul_of_pos_right Nat.lt_log2_self (Nat.pow_pos (by decide))⟩

theorem log2_div (dividend : Nat) {divisor : Nat} (pos : 0 < divisor) :
    (dividend / divisor).log2 = 0 ∨ (dividend / divisor).log2 + divisor.log2 ≤ dividend.log2 := by
  rcases Nat.eq_zero_or_pos (dividend / divisor) with zero | quotient_pos
  · exact .inl (by rw [zero]; rfl)
  · right
    have product : 2 ^ ((dividend / divisor).log2 + divisor.log2) ≤ dividend :=
      calc 2 ^ ((dividend / divisor).log2 + divisor.log2)
          = 2 ^ (dividend / divisor).log2 * 2 ^ divisor.log2 := Nat.pow_add _ _ _
        _ ≤ dividend / divisor * divisor :=
            Nat.mul_le_mul (Nat.log2_self_le quotient_pos.ne') (Nat.log2_self_le pos.ne')
        _ ≤ dividend := Nat.div_mul_le_self dividend divisor
    have dividend_pos : dividend ≠ 0 := by
      rintro rfl
      simp at quotient_pos
    exact (Nat.le_log2 dividend_pos).mpr product

def atLeastTwo : UnpackedFloat → Bool
  | .finite _ mantissa exponent _ => 2 ≤ totalExponent mantissa exponent
  | _ => false

theorem isFinite_div {x y : Float} (finite : x.isFinite = true)
    (large : atLeastTwo y.toModel.unpack = true) : (x / y).isFinite = true := by
  have quotient : Within 971 (div Format.binary64 x.toModel.unpack y.toModel.unpack) := by
    have inside := within_of_isFinite finite
    generalize x.toModel.unpack = u at inside
    generalize y.toModel.unpack = v at large
    obtain ⟨sign, mantissa, exponent, pos, rfl⟩ :
        ∃ sign mantissa exponent pos, v = .finite sign mantissa exponent pos := by
      cases v with
      | finite sign mantissa exponent pos => exact ⟨_, _, _, _, rfl⟩
      | _ => cases large
    have large : 2 ≤ totalExponent mantissa exponent := of_decide_eq_true large
    rcases within_cases inside with ⟨sign', rfl⟩ | ⟨sign', mantissa', exponent', pos', rfl, lt, le⟩
    · trivial
    · have places := (Nat.log2_lt pos'.ne').mpr lt
      unfold UnpackedFloat.div divCore
      dsimp only
      have bits := log2_div (mantissa' <<<
        (exponent' - exponent - min (exponent' - exponent) (Format.binary64.targetExponent
          (totalExponent mantissa' exponent' - totalExponent mantissa exponent))).toNat) pos
      rw [Nat.shiftLeft_eq, log2_mul_pow pos'] at bits
      have target_eq (total : Int) :
          Format.binary64.targetExponent total = max (total - 53) (-1074) := rfl
      rw [target_eq] at bits ⊢
      unfold totalExponent at *
      refine within_round _ _ (by omega) ?_ (by decide)
      unfold totalExponent
      rw [Nat.shiftLeft_eq]
      -- The quotient is at most one bit longer than the lengths of its parts tell.
      rcases bits with zero | bits
      · rw [zero]
        omega
      · omega
  exact isFinite_of_within (within_pack quotient (by decide) (Int.le_refl _))

theorem within_toFloat (n : UInt64) : Within 12 n.toFloat.toModel.unpack := by
  show Within 12 (Float.Model.pack (normalize Format.binary64 n.toNat 0 .positive)).unpack
  refine within_pack ?_ (by decide) (by decide)
  unfold UnpackedFloat.normalize
  split
  · rename_i negative
    have := Int.compare_eq_lt.mp negative
    omega
  · trivial
  · rename_i positive
    have pos : 0 < n.toNat := by
      have := Int.compare_eq_gt.mp positive
      omega
    have bits := (Nat.log2_lt pos.ne').mpr n.toNat_lt
    unfold UnpackedFloat.round decreaseExponent
    dsimp only
    rw [Int.toNat_natCast, Nat.shiftLeft_eq]
    refine within_round _ _ (by omega) ?_ (by decide)
    unfold totalExponent
    rw [log2_mul_pow pos]
    omega

theorem ofScientific_eq {coefficient places : Nat} (pos : 0 < coefficient) (most : places ≤ 2048)
    (slow : ¬(coefficient < 2 ^ 53 ∧ places ≤ 22)) :
    (Float.ofScientific coefficient false places).toModel =
      Float.Model.pack (roundWithAccuracy Format.binary64 .positive
        (coefficient * 2 ^ 53 * 10 ^ places) (-53) .exact) := by
  unfold Float.ofScientific
  rw [dif_neg slow]
  show Float.Model.pack (UnpackedFloat.ofScientific Format.binary64 coefficient places) = _
  unfold UnpackedFloat.ofScientific
  have inRange : ¬(2 : Int) ^ Format.binary64.exponentBits < places := by
    show ¬(2048 : Int) < places
    omega
  have notTiny :
      ¬(places : Int) < -((2 : Int) ^ Format.binary64.exponentBits + coefficient.log2) := by
    show ¬(places : Int) < -(2048 + (coefficient.log2 : Int))
    omega
  rw [dif_neg pos.ne', if_neg inRange, if_neg notTiny, if_pos (Int.natCast_nonneg places)]
  show Float.Model.pack (roundWithAccuracy Format.binary64 .positive
    (coefficient <<< 53 * 10 ^ places) (-53) .exact) = _
  rw [Nat.shiftLeft_eq]

theorem within_one : Within (-52) (Float.ofBits 0x3FF0000000000000).toModel.unpack := by
  have stored : @unpackExponent Format.binary64 (0x3FF0000000000000 : UInt64).toBitVec ≠ -1#11 := by
    decide
  exact within_pack (within_unpack stored (by decide)) (by decide) (by decide)

theorem isFinite_ofNat {n : Nat} (small : n < 2 ^ 64) : (Float.ofNat n).isFinite = true := by
  show (Float.ofScientific n false 0).isFinite = true
  by_cases exact : n < 2 ^ 53
  · unfold Float.ofScientific
    rw [dif_pos ⟨exact, by decide⟩]
    exact isFinite_mul_of_within (within_toFloat n.toUInt64) within_one (by decide)
  · have pos : 0 < n := by omega
    have product := ofScientific_eq pos (Nat.zero_le 2048) fun fast => exact fast.1
    have bits := (Nat.log2_lt pos.ne').mpr small
    show (Float.ofScientific n false 0).toModel.unpack.isFinite = true
    rw [product]
    refine isFinite_of_within
      (within_pack (within_round _ _ ?_ ?_ ?_) (by decide) (Int.le_refl 971))
    · decide
    · unfold totalExponent
      rw [Nat.pow_zero, Nat.mul_one, log2_mul_pow pos]
      omega
    · decide

theorem atLeastTwo_pack {sign : Sign} {mantissa : Nat} {exponent : Int} {pos : 0 < mantissa}
    (normal : mantissa.log2 = 52) (least : -51 ≤ exponent) (most : exponent ≤ 971) :
    atLeastTwo (Float.Model.pack (.finite sign mantissa exponent pos)).unpack = true := by
  obtain ⟨sign', mantissa', pos', same, long⟩ :=
    unpack_pack_normal sign pos normal (by omega) most
  rw [same]
  have bits := (Nat.le_log2 pos'.ne').mpr long
  apply decide_eq_true
  unfold totalExponent
  omega

theorem atLeastTwo_ofDecimal {places : Nat} (pos : 0 < places) (most : places ≤ 308) :
    atLeastTwo (ofDecimal 1 places).toModel.unpack = true := by
  show atLeastTwo (Float.ofScientific 1 false places).toModel.unpack = true
  -- The first powers are looked up, and the last one is too close to the end of the range.
  have first : ∀ places < 23, 0 < places →
      atLeastTwo (Float.ofScientific 1 false places).toModel.unpack = true := by
    decide +kernel
  have last : atLeastTwo (Float.ofScientific 1 false 308).toModel.unpack = true := by
    decide +kernel
  rcases Nat.lt_or_ge places 23 with small | large
  · exact first places small pos
  · rcases Nat.lt_or_ge places 308 with inside | final
    · rw [ofScientific_eq (by decide) (by omega) (by omega)]
      have low : 10 ^ 1 ≤ 10 ^ places := Nat.pow_le_pow_right (by decide) pos
      have high : 10 ^ places ≤ 2 ^ 1020 :=
        Nat.le_trans (Nat.pow_le_pow_right (by decide) (show places ≤ 307 by omega))
          (by decide +kernel)
      have nonzero : 1 * 2 ^ 53 * 10 ^ places ≠ 0 := by omega
      have long : 54 ≤ (1 * 2 ^ 53 * 10 ^ places).log2 := (Nat.le_log2 nonzero).mpr (by omega)
      have short : (1 * 2 ^ 53 * 10 ^ places).log2 < 1074 :=
        (Nat.log2_lt nonzero).mpr <|
          calc 1 * 2 ^ 53 * 10 ^ places ≤ 1 * 2 ^ 53 * 2 ^ 1020 := Nat.mul_le_mul_left _ high
            _ < 2 ^ 1074 := by decide +kernel
      generalize 1 * 2 ^ 53 * 10 ^ places = product at long short
      have total : totalExponent product (-53) = product.log2 - 52 := by
        unfold totalExponent
        omega
      obtain ⟨mantissa, exponent, pos, same, normal, least, most⟩ :=
        exists_normal .positive .exact (by omega)
          (show -1021 ≤ totalExponent product (-53) by omega)
      rw [same]
      exact atLeastTwo_pack normal (by omega) (by omega)
    · rw [Nat.le_antisymm most final]
      exact last

theorem isFinite_of_atLeastTwo {x : Float} (large : atLeastTwo x.toModel.unpack = true) :
    x.isFinite = true := by
  show x.toModel.unpack.isFinite = true
  cases same : x.toModel.unpack with
  | finite sign mantissa exponent pos => rfl
  | _ =>
      rw [same] at large
      cases large

end PlotMarkup.Number
