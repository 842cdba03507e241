import Mathlib

namespace PlotMarkup.Number

open Float.Model
open UnpackedFloat (unpackExponent unpackExponent_packComponents)

variable {spec : Format}

theorem ne_allOnes_iff {width : Nat} {bits : BitVec width} :
    bits ≠ -1#_ ↔ bits.toNat + 1 < 2 ^ width := by
  have := bits.isLt
  rw [ne_eq, ← BitVec.toNat_inj, BitVec.neg_one_eq_allOnes, BitVec.toNat_allOnes]
  omega

theorem isFinite_unpack {bits : BitVec spec.numBits} :
    (UnpackedFloat.unpack spec bits).isFinite = true ↔ unpackExponent bits ≠ -1#_ := by
  unfold UnpackedFloat.unpack
  simp only
  split
  · split <;> simp_all [UnpackedFloat.isFinite]
  · split
    · split <;> simp_all [UnpackedFloat.isFinite]
    · simp_all [UnpackedFloat.isFinite]

def biased (spec : Format) (exponent : Int) : Int :=
  exponent + spec.exponentBias + spec.mantissaBitsWithoutImplicit

theorem biased_lt_of_unpack (wide : 2 < 2 ^ spec.exponentBits) {bits : BitVec spec.numBits}
    {sign : UnpackedFloat.Sign} {mantissa : Nat} {exponent : Int} {pos : 0 < mantissa}
    (same : UnpackedFloat.unpack spec bits = .finite sign mantissa exponent pos) :
    (biased spec exponent).toNat + 1 < 2 ^ spec.exponentBits := by
  have finite : unpackExponent bits ≠ -1#_ := by
    rw [← isFinite_unpack, same]
    rfl
  have stored := ne_allOnes_iff.mp finite
  unfold UnpackedFloat.unpack at same
  simp only [finite, if_false] at same
  split at same
  · -- The stored exponent of a subnormal number is zero and counts as one.
    rename_i zero
    split at same
    · simp at same
    · simp only [UnpackedFloat.finite.injEq, zero] at same
      obtain ⟨-, -, rfl⟩ := same
      simp only [biased, BitVec.toNat_ofNat, Nat.zero_mod]
      omega
  · simp only [UnpackedFloat.finite.injEq] at same
    obtain ⟨-, -, rfl⟩ := same
    simp only [biased]
    omega

theorem isFinite_pack {sign : UnpackedFloat.Sign} {mantissa : Nat} {exponent : Int}
    (pos : 0 < mantissa) (stored : (biased spec exponent).toNat + 1 < 2 ^ spec.exponentBits) :
    (UnpackedFloat.unpack spec
      (UnpackedFloat.pack spec (.finite sign mantissa exponent pos))).isFinite = true := by
  rw [isFinite_unpack]
  unfold biased at stored
  unfold UnpackedFloat.pack
  simp only
  split
  · omega
  · split
    · rw [unpackExponent_packComponents, ne_allOnes_iff, BitVec.toNat_ofNat,
        Nat.mod_eq_of_lt (by omega)]
      exact stored
    · rw [unpackExponent_packComponents, ne_allOnes_iff, BitVec.toNat_ofNat, Nat.zero_mod]
      exact Nat.lt_of_le_of_lt (Nat.le_add_left 1 _) stored

theorem isFinite_neg {x : Float} (finite : x.isFinite = true) : (-x).isFinite = true := by
  show (UnpackedFloat.unpack Format.binary64
    (UnpackedFloat.pack Format.binary64 x.toModel.unpack.neg)).isFinite = true
  have finite : x.toModel.unpack.isFinite = true := finite
  cases same : x.toModel.unpack with
  | notANumber =>
      rw [same] at finite
      contradiction
  | infinity sign =>
      rw [same] at finite
      contradiction
  | zero sign => cases sign <;> decide
  | finite sign mantissa exponent pos =>
      exact isFinite_pack pos (biased_lt_of_unpack (by decide) same)

end PlotMarkup.Number
