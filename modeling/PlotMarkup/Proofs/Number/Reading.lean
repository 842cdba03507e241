import PlotMarkup.Proofs.Number.Short

namespace PlotMarkup.Number

open Float.Model hiding pack unpack
open Float.Model.UnpackedFloat

variable {v : Magnitude} {r : ℚ} {x : Float} {m : Nat} {e : Int}

def isPowerOfTen (places : Nat) : UnpackedFloat → Bool
  | .finite .positive m e _ => -52 ≤ e ∧ m * 2 ^ (e + 52).toNat = 10 ^ places * 2 ^ 52
  | _ => false

theorem isPowerOfTen_table : ∀ places : Fin Float.exactlyRepresentablePowersOfTen.size,
    isPowerOfTen places Float.exactlyRepresentablePowersOfTen[places].toModel.unpack = true := by
  decide +kernel

theorem exists_power {places : Nat} {u : UnpackedFloat} (power : isPowerOfTen places u = true) :
    ∃ m e pos, u = .finite .positive m e pos ∧ (m : ℚ) * 2 ^ e = 10 ^ places := by
  unfold isPowerOfTen at power
  split at power
  · rename_i m e pos
    obtain ⟨least, product⟩ := of_decide_eq_true power
    refine ⟨m, e, pos, rfl, ?_⟩
    have product : (m : ℚ) * 2 ^ (e + 52).toNat = 10 ^ places * 2 ^ 52 := by exact_mod_cast product
    rw [← zpow_natCast, Int.toNat_of_nonneg (by omega), zpow_add₀ two_ne_zero,
      ← mul_assoc] at product
    exact mul_right_cancel₀ (by positivity) product
  · cases power

theorem quantity_of_unpack {sign : Sign} {pos : 0 < m}
    (shape : x.toModel.unpack = .finite sign m e pos) :
    x.isFinite = true ∧ quantity x = signed sign (m * 2 ^ e) := by
  have finite : x.isFinite = true := by
    show x.toModel.unpack.isFinite = true
    rw [shape]
    rfl
  have whole := unpack_toModel finite
  rw [shape, Magnitude.signed] at whole
  split at whole
  · cases whole
  · obtain ⟨sign_eq, significand, exponent⟩ := UnpackedFloat.finite.inj whole
    rw [quantity, ← sign_eq, Magnitude.quantity, ← significand, ← exponent]
    exact ⟨finite, rfl⟩

theorem quantity_power {places : Nat}
    (listed : places < Float.exactlyRepresentablePowersOfTen.size) :
    Float.exactlyRepresentablePowersOfTen[places].isFinite = true ∧
      quantity Float.exactlyRepresentablePowersOfTen[places] = 10 ^ places := by
  obtain ⟨m, e, pos, shape, value⟩ := exists_power (isPowerOfTen_table ⟨places, listed⟩)
  obtain ⟨finite, power⟩ := quantity_of_unpack shape
  exact ⟨finite, power.trans value⟩

theorem quantity_toFloat {n : Nat} (short : n < 2 ^ 53) :
    n.toUInt64.toFloat.isFinite = true ∧ quantity n.toUInt64.toFloat = n := by
  have kept : n.toUInt64.toNat = n := by
    show n % 2 ^ 64 = n
    omega
  have same : n.toUInt64.toFloat =
      ⟨Float.Model.pack (UnpackedFloat.normalize Format.binary64 n 0 .positive)⟩ := by
    show Float.ofModel
      (Float.Model.pack (UnpackedFloat.normalize _ n.toUInt64.toNat 0 .positive)) = _
    rw [kept]
  have rounds := rounds_normalize n 0
  rw [zpow_zero, mul_one, Int.cast_natCast] at rounds
  rw [same]
  exact rounds.exact_nat short

theorem rounds_infinity {n : Nat} (beyond : overflow ≤ n) :
    Rounds n ⟨Float.Model.pack (.infinity .positive)⟩ := by
  have pos : 0 < n := by exact_mod_cast overflow_pos.trans_le beyond
  have rounds := rounds_round .positive 0 pos
  rw [signed, zpow_zero, mul_one] at rounds
  have infinite :
      Float.isFinite ⟨Float.Model.pack (round Format.binary64 .positive n 0)⟩ = false := by
    rw [Bool.eq_false_iff, ne_eq, rounds.isFinite_iff, not_lt, Nat.abs_cast]
    exact beyond
  rcases rounds.infinite_cases infinite with ⟨-, unpacked⟩ | ⟨below, -⟩
  · have packed := pack_toModel_unpack ⟨Float.Model.pack (round Format.binary64 .positive n 0)⟩
    rw [unpacked] at packed
    rwa [packed]
  · have := overflow_pos
    linarith

theorem rounds_tiny (nonneg : 0 ≤ r) (tiny : r ≤ 2 ^ (-1075 : ℤ)) :
    Rounds r ⟨Float.Model.pack (.zero .positive)⟩ := by
  have half : (2 : ℚ) ^ (-1075 : ℤ) = 1 / 2 * 2 ^ (-1074 : ℤ) := by
    rw [show (-1075 : ℤ) = -1 + -1074 by norm_num, zpow_add₀ two_ne_zero, zpow_neg_one, one_div]
  refine ⟨⟨0, -1074⟩, .positive, ⟨by decide, by decide, fun other => absurd rfl other⟩, ?_,
    (abs_of_nonneg nonneg).symm, rfl⟩
  rw [abs_of_nonneg nonneg]
  refine ⟨le_trans ?_ nonneg, ?_, fun _ => rfl⟩
  · have gap := (Magnitude.gap_le ⟨0, -1074⟩).1
    have unit : (0 : ℚ) < 2 ^ (-1074 : ℤ) := by positivity
    rw [Nat.cast_zero, zero_sub, neg_mul, neg_nonpos]
    exact mul_nonneg (by linarith) unit.le
  · rw [Nat.cast_zero, zero_add, ← half]
    exact tiny

variable {c : Nat} {scale : Int}

theorem overflow_le_of_huge (nonzero : 0 < c) (huge : 2048 < scale) : overflow ≤ c * 10 ^ scale :=
  calc overflow ≤ 2 ^ (1024 : ℤ) := by
        have power : (2 : ℚ) ^ (1024 : ℤ) = 2 ^ 1024 := zpow_natCast 2 1024
        rw [overflow, power]
        exact sub_le_self _ (by positivity)
    _ ≤ 2 ^ scale := zpow_le_zpow_right₀ one_le_two (by omega)
    _ ≤ 10 ^ scale := zpow_le_zpow_left₀ (by omega) (by norm_num) (by norm_num)
    _ ≤ c * 10 ^ scale := le_mul_of_one_le_left (by positivity) (by exact_mod_cast nonzero)

theorem le_of_tiny (tiny : scale < -(2048 + c.log2 : Int)) :
    c * 10 ^ scale ≤ (2 : ℚ) ^ (-1075 : ℤ) := by
  have short : (c : ℚ) ≤ 2 ^ ((c.log2 : ℤ) + 1) := by
    exact_mod_cast (Nat.lt_log2_self (n := c)).le
  have power : (10 : ℚ) ^ scale ≤ 2 ^ scale := by
    obtain ⟨places, rfl⟩ : ∃ places : ℕ, scale = -places := ⟨(-scale).toNat, by omega⟩
    rw [zpow_neg, zpow_neg, zpow_natCast, zpow_natCast]
    gcongr
    norm_num
  calc (c : ℚ) * 10 ^ scale ≤ 2 ^ ((c.log2 : ℤ) + 1) * 2 ^ scale := by gcongr
    _ = 2 ^ ((c.log2 : ℤ) + 1 + scale) := (zpow_add₀ two_ne_zero _ _).symm
    _ ≤ 2 ^ (-1075 : ℤ) := zpow_le_zpow_right₀ one_le_two (by omega)

theorem cast_ten_pow (nonneg : 0 ≤ scale) : ((10 ^ scale.toNat : Nat) : ℚ) = 10 ^ scale := by
  rw [Nat.cast_pow, ← zpow_natCast, Int.toNat_of_nonneg nonneg]
  rfl

theorem rounds_unpacked (c : Nat) (scale : Int) : Rounds (c * 10 ^ scale)
    ⟨Float.Model.pack (UnpackedFloat.ofScientific Format.binary64 c scale)⟩ := by
  unfold UnpackedFloat.ofScientific
  split
  · rename_i zero
    rw [zero, Nat.cast_zero, zero_mul]
    exact rounds_zero .positive
  rename_i nonzero
  have pos := Nat.pos_of_ne_zero nonzero
  split
  · rename_i huge
    have huge : 2048 < scale := huge
    have beyond := overflow_le_of_huge pos huge
    rw [← cast_ten_pow (by omega), ← Nat.cast_mul] at beyond ⊢
    exact rounds_infinity beyond
  split
  · rename_i tiny
    exact rounds_tiny (by positivity) (le_of_tiny tiny)
  split
  · rename_i whole
    have bits : 52 ≤ (c * 2 ^ 53 * 10 ^ scale.toNat).log2 := by
      rw [Nat.mul_right_comm, log2_mul_pow (by positivity)]
      exact Nat.le_add_left 52 (_ + 1)
    have product : ((c * 2 ^ 53 : Nat) : ℚ) * 2 ^ (-53 : ℤ) *
        ((10 ^ scale.toNat : Nat) * 2 ^ (0 : ℤ)) = c * 10 ^ scale := by
      rw [cast_ten_pow whole, zpow_zero, mul_one, Nat.cast_mul, mul_assoc (c : ℚ)]
      norm_num
    have positive : 0 < c * 2 ^ 53 := by positivity
    have fine : -53 + 0 ≤ target (c * 2 ^ 53 * 10 ^ scale.toNat) (-53 + 0) := le_target_of_long bits
    have rounds :=
      rounds_significands_mul .positive .positive positive (Nat.pow_pos (by decide)) fine
    rw [product] at rounds
    simp only [← Nat.shiftLeft_eq] at rounds
    exact rounds
  · have quotient : (c : ℚ) * 2 ^ (0 : ℤ) / ((10 ^ (-scale).toNat : Nat) * 2 ^ (0 : ℤ)) =
        c * 10 ^ scale := by
      rw [cast_ten_pow (by omega), zpow_zero, mul_one, mul_one, zpow_neg, div_inv_eq_mul]
    have power : 0 < 10 ^ (-scale).toNat := Nat.pow_pos (by decide)
    have rounds := rounds_significands_div .positive .positive 0 0 pos power
    rw [quotient] at rounds
    exact rounds

theorem rounds_ofScientific (c : Nat) (negative : Bool) (places : Nat) :
    Rounds (c * 10 ^ (if negative then -places else places : ℤ))
      (Float.ofScientific c negative places) := by
  unfold Float.ofScientific
  -- A short decimal is one product or quotient of doubles, both of them exact.
  by_cases short : c < 2 ^ 53 ∧ places ≤ 22
  · obtain ⟨finite, value⟩ := quantity_toFloat short.1
    obtain ⟨finite', value'⟩ := quantity_power (Nat.lt_succ_of_le short.2)
    rw [dif_pos short]
    cases negative with
    | false =>
        have rounds := rounds_mul finite finite'
        rw [value, value'] at rounds
        exact rounds
    | true =>
        have rounds := rounds_div finite finite' (by rw [value']; positivity)
        rw [value, value', div_eq_mul_inv, ← zpow_natCast, ← zpow_neg] at rounds
        exact rounds
  · rw [dif_neg short]
    cases negative with
    | false => exact rounds_unpacked c places
    | true =>
        have negated : Int.negOfNat places = -(places : Int) := by cases places <;> rfl
        exact negated ▸ rounds_unpacked c (Int.negOfNat places)

theorem rounds_ofDecimal (c : Nat) (scale : Int) : Rounds (c * 10 ^ scale) (ofDecimal c scale) := by
  cases scale with
  | ofNat places => exact rounds_ofScientific c false places
  | negSucc places => exact rounds_ofScientific c true (places + 1)

theorem toModel_ofDecimal (canonical : v.Canonical) (nonzero : 0 < c)
    (attracts : v.Attracts (c * 10 ^ scale)) :
    (ofDecimal c scale).toModel = Float.Model.pack (v.signed .positive) := by
  have positive : (0 : ℚ) < c * 10 ^ scale := by positivity
  have rounds : Rounds (c * 10 ^ scale) ⟨Float.Model.pack (v.signed .positive)⟩ := by
    refine ⟨v, .positive, canonical.shaped, ?_, (abs_of_pos positive).symm, rfl⟩
    rwa [abs_of_pos positive]
  exact congrArg Float.toModel ((rounds_ofDecimal c scale).eq rounds positive.ne')

end PlotMarkup.Number
