import Mathlib.Tactic.Ring
import PlotMarkup.Number.Binary64
import PlotMarkup.Proofs.Number.Finite

namespace PlotMarkup.Number

open Float.Model hiding pack unpack
open Float.Model.UnpackedFloat

structure Magnitude.Canonical (v : Magnitude) : Prop where
  short : v.significand < 2 ^ 53
  least : -1074 ≤ v.exponent
  most : v.exponent ≤ 971
  long : v.exponent ≠ -1074 → 2 ^ 52 ≤ v.significand

def Magnitude.signed (v : Magnitude) (sign : Sign) : UnpackedFloat :=
  if zero : v.significand = 0 then .zero sign
  else .finite sign v.significand v.exponent (Nat.pos_of_ne_zero zero)

theorem Magnitude.signed_of_pos {v : Magnitude} (pos : 0 < v.significand) (sign : Sign) :
    v.signed sign = .finite sign v.significand v.exponent pos :=
  dif_neg pos.ne'

theorem Magnitude.isFinite_signed (v : Magnitude) (sign : Sign) :
    (v.signed sign).isFinite = true := by
  unfold signed
  split <;> rfl

theorem Magnitude.neg_signed (v : Magnitude) (sign : Sign) :
    (v.signed sign).neg = v.signed (-sign) := by
  unfold signed
  split <;> rfl

variable {bits : BitVec Format.binary64.numBits} {v : Magnitude}

theorem toNat_unpackMantissa (bits : BitVec Format.binary64.numBits) :
    (unpackMantissa bits).toNat = bits.toNat % 2 ^ 52 := by
  simp [unpackMantissa]

theorem toNat_unpackExponent (bits : BitVec Format.binary64.numBits) :
    (unpackExponent bits).toNat = bits.toNat / 2 ^ 52 % 2 ^ 11 := by
  simp [unpackExponent, Nat.shiftRight_eq_div_pow]

theorem toNat_unpackSign (bits : BitVec Format.binary64.numBits) :
    (unpackSign bits).toNat = bits.toNat / 2 ^ 63 := by
  have lt : bits.toNat < 2 ^ 64 := bits.isLt
  simp [unpackSign, Nat.shiftRight_eq_div_pow]
  omega

theorem ofBitVec_unpackSign (bits : BitVec Format.binary64.numBits) :
    Sign.ofBitVec (unpackSign bits) = if 2 ^ 63 ≤ bits.toNat then .negative else .positive := by
  have lt : bits.toNat < 2 ^ 64 := bits.isLt
  unfold Sign.ofBitVec
  simp only [← BitVec.toNat_inj, toNat_unpackSign, BitVec.toNat_ofNat, Nat.zero_mod]
  by_cases negative : 2 ^ 63 ≤ bits.toNat
  · rw [if_neg (by omega), if_pos negative]
  · rw [if_pos (by omega), if_neg negative]

theorem toNat_packComponents (sign : Sign) (exponent : BitVec 11) (mantissa : BitVec 52) :
    (packComponents Format.binary64 sign exponent mantissa).toNat =
      sign.toBitVec.toNat * 2 ^ 63 + exponent.toNat * 2 ^ 52 + mantissa.toNat := by
  unfold packComponents
  rw [BitVec.toNat_append, BitVec.toNat_append, ← Nat.shiftLeft_add_eq_or_of_lt mantissa.isLt,
    ← Nat.shiftLeft_add_eq_or_of_lt exponent.isLt, Nat.shiftLeft_eq, Nat.shiftLeft_eq]
  ring

theorem toNat_toBitVec_ofBitVec (sign : BitVec 1) :
    (Sign.ofBitVec sign).toBitVec.toNat = sign.toNat := by
  revert sign
  decide

theorem ofBitVec_toBitVec (sign : Sign) : Sign.ofBitVec sign.toBitVec = sign := by
  cases sign <;> rfl

def storedMagnitude (bits : Nat) : Magnitude :=
  if bits / 2 ^ 52 % 2 ^ 11 = 0 then ⟨bits % 2 ^ 52, -1074⟩
  else ⟨2 ^ 52 + bits % 2 ^ 52, (bits / 2 ^ 52 % 2 ^ 11 : Nat) - 1075⟩

theorem unpack_eq_signed (finite : unpackExponent bits ≠ -1#_) :
    unpack Format.binary64 bits =
      (storedMagnitude bits.toNat).signed (.ofBitVec (unpackSign bits)) := by
  have exponent := toNat_unpackExponent bits
  have mantissa := toNat_unpackMantissa bits
  unfold unpack storedMagnitude
  simp only [finite, if_false]
  split
  · rename_i subnormal
    have zero : bits.toNat / 2 ^ 52 % 2 ^ 11 = 0 := by
      rw [← exponent, subnormal]
      rfl
    have place : ((unpackExponent bits).toNat : Int) -
        (Format.binary64.exponentBias + Format.binary64.mantissaBitsWithoutImplicit) + 1 =
          -1074 := by
      rw [subnormal]
      rfl
    rw [if_pos zero]
    unfold Magnitude.signed
    simp only [← BitVec.toNat_inj, mantissa, place, BitVec.toNat_ofNat, Nat.zero_mod]
  · rename_i normal
    have nonzero : bits.toNat / 2 ^ 52 % 2 ^ 11 ≠ 0 := by
      rw [← exponent]
      exact fun zero => normal (BitVec.toNat_inj.mp zero)
    have leading : (1#1 ++ unpackMantissa bits).toNat = 2 ^ 52 + bits.toNat % 2 ^ 52 := by
      rw [BitVec.toNat_append, ← Nat.shiftLeft_add_eq_or_of_lt (unpackMantissa bits).isLt, mantissa]
      rfl
    have place : ((unpackExponent bits).toNat : Int) -
        (Format.binary64.exponentBias + Format.binary64.mantissaBitsWithoutImplicit) =
          (bits.toNat / 2 ^ 52 % 2 ^ 11 : Nat) - 1075 := by
      rw [exponent]
      rfl
    rw [if_neg nonzero]
    unfold Magnitude.signed
    rw [dif_neg (by dsimp only; omega)]
    simp only [leading, place]

theorem canonical_storedMagnitude (finite : unpackExponent bits ≠ -1#_) :
    (storedMagnitude bits.toNat).Canonical := by
  have stored : (unpackExponent bits).toNat + 1 < 2 ^ 11 := ne_allOnes_iff.mp finite
  rw [toNat_unpackExponent] at stored
  unfold storedMagnitude
  constructor <;> split <;> dsimp only <;> omega

theorem toNat_pack (canonical : v.Canonical) (sign : Sign) :
    (pack Format.binary64 (v.signed sign)).toNat =
      sign.toBitVec.toNat * 2 ^ 63 + (v.exponent + 1074).toNat * 2 ^ 52 + v.significand := by
  obtain ⟨short, least, most, long⟩ := canonical
  unfold Magnitude.signed
  split
  · rename_i zero
    have lowest : v.exponent = -1074 := by
      by_contra other
      have := long other
      omega
    rw [lowest, zero]
    exact toNat_packComponents sign 0 0
  · rename_i nonzero
    have place : (v.exponent + Format.binary64.exponentBias +
        Format.binary64.mantissaBitsWithoutImplicit).toNat = (v.exponent + 1075).toNat := by
      show (v.exponent + 1023 + 52).toNat = _
      omega
    unfold pack
    simp only
    rw [place, if_neg (by show ¬2048 ≤ _; omega)]
    by_cases normal : 2 ^ 52 ≤ v.significand
    · have bit : v.significand.log2 = 52 := (Nat.log2_eq_iff nonzero).mpr ⟨normal, short⟩
      rw [bit, if_pos (show 52 + 1 = Format.binary64.mantissaBits from rfl), toNat_packComponents,
        BitVec.toNat_ofNat, BitVec.toNat_ofNat]
      omega
    · have lowest : v.exponent = -1074 := by
        by_contra other
        exact normal (long other)
      have bit : v.significand.log2 < 52 := (Nat.log2_lt nonzero).mpr (by omega)
      have kept : (BitVec.ofNat 52 v.significand).toNat = v.significand := by
        rw [BitVec.toNat_ofNat]
        omega
      rw [if_neg (by show ¬_ = 53; omega), toNat_packComponents, kept, lowest]
      rfl

theorem pack_unpack (finite : unpackExponent bits ≠ -1#_) :
    pack Format.binary64 (unpack Format.binary64 bits) = bits := by
  have stored : (unpackExponent bits).toNat + 1 < 2 ^ 11 := ne_allOnes_iff.mp finite
  rw [toNat_unpackExponent] at stored
  have lt : bits.toNat < 2 ^ 64 := bits.isLt
  apply BitVec.eq_of_toNat_eq
  rw [unpack_eq_signed finite, toNat_pack (canonical_storedMagnitude finite),
    toNat_toBitVec_ofBitVec, toNat_unpackSign]
  unfold storedMagnitude
  split <;> dsimp only <;> omega

theorem pack_unpack_of_valid (valid : Format.binary64.Valid bits) :
    pack Format.binary64 (unpack Format.binary64 bits) = bits := by
  by_cases finite : unpackExponent bits = -1#_
  · unfold unpack
    simp only [finite, if_true]
    split
    · rename_i zero
      have exponent : bits.toNat / 2 ^ 52 % 2 ^ 11 = 2047 :=
        (toNat_unpackExponent bits).symm.trans (congrArg BitVec.toNat finite)
      have mantissa : bits.toNat % 2 ^ 52 = 0 :=
        (toNat_unpackMantissa bits).symm.trans (congrArg BitVec.toNat zero)
      have lt : bits.toNat < 2 ^ 64 := bits.isLt
      apply BitVec.eq_of_toNat_eq
      refine (toNat_packComponents (.ofBitVec (unpackSign bits)) (-1#11) 0).trans ?_
      rw [toNat_toBitVec_ofBitVec, toNat_unpackSign]
      show bits.toNat / 2 ^ 63 * 2 ^ 63 + 2047 * 2 ^ 52 + 0 = bits.toNat
      omega
    · rename_i nonzero
      exact (valid.eq_packedNaN finite nonzero).symm
  · exact pack_unpack finite

theorem unpack_pack (canonical : v.Canonical) (sign : Sign) :
    unpack Format.binary64 (pack Format.binary64 (v.signed sign)) = v.signed sign := by
  have sum := toNat_pack canonical sign
  obtain ⟨short, least, most, long⟩ := canonical
  have bit : sign.toBitVec.toNat < 2 := sign.toBitVec.isLt
  generalize pack Format.binary64 (v.signed sign) = bits at sum
  have finite : unpackExponent bits ≠ -1#_ := by
    rw [ne_allOnes_iff, toNat_unpackExponent, sum]
    show _ < 2 ^ 11
    omega
  have leading : unpackSign bits = sign.toBitVec := by
    apply BitVec.eq_of_toNat_eq
    rw [toNat_unpackSign, sum]
    omega
  have same : storedMagnitude bits.toNat = v := by
    unfold storedMagnitude
    rw [sum]
    obtain ⟨significand, exponent⟩ := v
    dsimp only at *
    split <;> simp only [Magnitude.mk.injEq] <;> omega
  rw [unpack_eq_signed finite, leading, ofBitVec_toBitVec, same]

theorem isFinite_pack_signed (canonical : v.Canonical) (sign : Sign) :
    (⟨Float.Model.pack (v.signed sign)⟩ : Float).isFinite = true := by
  show (unpack Format.binary64 (pack Format.binary64 _)).isFinite = true
  rw [unpack_pack canonical]
  exact v.isFinite_signed sign

theorem neg_pack (canonical : v.Canonical) (sign : Sign) :
    -(⟨Float.Model.pack (v.signed sign)⟩ : Float) = ⟨Float.Model.pack (v.signed (-sign))⟩ := by
  show (⟨Float.Model.pack (unpack Format.binary64 (pack Format.binary64 _)).neg⟩ : Float) = _
  rw [unpack_pack canonical, v.neg_signed]

variable {x : Float}

def signOf (x : Float) : Sign :=
  if isNegative x then .negative else .positive

theorem canonical_magnitude (finite : x.isFinite = true) : (magnitude x).Canonical :=
  canonical_storedMagnitude (isFinite_unpack.mp finite)

theorem unpack_toModel (finite : x.isFinite = true) :
    x.toModel.unpack = (magnitude x).signed (signOf x) := by
  have sign : signOf x = if 2 ^ 63 ≤ x.toBits.toNat then .negative else .positive := by
    unfold signOf isNegative
    simp only [decide_eq_true_eq]
    rfl
  rw [sign]
  refine (unpack_eq_signed (isFinite_unpack.mp finite)).trans ?_
  rw [ofBitVec_unpackSign]
  rfl

theorem pack_toModel_unpack (x : Float) : Float.Model.pack x.toModel.unpack = x.toModel := by
  obtain ⟨⟨bits, valid⟩⟩ := x
  simp only [Float.Model.pack, Float.Model.unpack, Float.Model.mk.injEq]
  exact congrArg UInt64.ofBitVec (pack_unpack_of_valid valid)

theorem pack_signed_magnitude (finite : x.isFinite = true) :
    Float.Model.pack ((magnitude x).signed (signOf x)) = x.toModel := by
  rw [← unpack_toModel finite]
  exact pack_toModel_unpack x

end PlotMarkup.Number
