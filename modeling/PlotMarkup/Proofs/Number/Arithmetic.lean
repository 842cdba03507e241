import PlotMarkup.Proofs.Number.Rounded

namespace PlotMarkup.Number

open Float.Model hiding pack unpack
open Float.Model.UnpackedFloat

variable {v w : Magnitude} {sign sign' : Sign} {x y : Float}

theorem rounds_pack (canonical : v.Canonical) (sign : Sign) :
    Rounds (signed sign v.quantity) ⟨Float.Model.pack (v.signed sign)⟩ := by
  refine ⟨v, sign, canonical.shaped, ?_, ?_, rfl⟩
  · rw [abs_signed sign v.quantity_nonneg]
    exact attracts_self v
  · rw [abs_signed sign v.quantity_nonneg]

theorem rounds_zero (sign : Sign) : Rounds 0 ⟨Float.Model.pack (.zero sign)⟩ := by
  have lowest : Magnitude.Canonical ⟨0, -1074⟩ :=
    ⟨by decide, by decide, by decide, fun other => absurd rfl other⟩
  have rounds := rounds_pack lowest sign
  rwa [Magnitude.quantity_eq_zero rfl, signed_zero] at rounds

theorem rounds_round (sign : Sign) {mantissa : Nat} (exponent : Int) (pos : 0 < mantissa) :
    Rounds (signed sign (mantissa * 2 ^ exponent))
      ⟨Float.Model.pack (round Format.binary64 sign mantissa exponent)⟩ := by
  let shift := (exponent - target mantissa exponent).toNat
  have exact : ((mantissa * 2 ^ shift : Nat) : ℚ) =
      mantissa * 2 ^ exponent / 2 ^ (exponent - shift) := by
    rw [zpow_sub₀ two_ne_zero, zpow_natCast]
    push_cast
    field_simp
  have fine : exponent - shift ≤ target (mantissa * 2 ^ shift) (exponent - shift) := by
    have same : target (mantissa * 2 ^ shift) (exponent - shift) = target mantissa exponent := by
      unfold target totalExponent
      rw [log2_mul_pow pos]
      omega
    rw [same]
    omega
  have rounds := rounds_roundWithAccuracy (exact ▸ tells_exact (mantissa * 2 ^ shift)) fine sign
  rw [← Nat.shiftLeft_eq] at rounds
  exact rounds

theorem rounds_normalize (mantissa exponent : Int) : Rounds (mantissa * 2 ^ exponent)
    ⟨Float.Model.pack (UnpackedFloat.normalize Format.binary64 mantissa exponent .positive)⟩ := by
  unfold UnpackedFloat.normalize
  rcases lt_trichotomy mantissa 0 with below | rfl | above
  · have absolute : ((-mantissa).toNat : ℚ) = -mantissa := by
      exact_mod_cast Int.toNat_of_nonneg (by omega)
    have rounds := rounds_round .negative exponent (show 0 < (-mantissa).toNat by omega)
    rw [absolute, signed, neg_mul, neg_neg] at rounds
    rwa [Int.compare_eq_lt.mpr below]
  · rw [Int.cast_zero, zero_mul]
    exact rounds_zero .positive
  · have absolute : (mantissa.toNat : ℚ) = mantissa := by
      exact_mod_cast Int.toNat_of_nonneg above.le
    have rounds := rounds_round .positive exponent (show 0 < mantissa.toNat by omega)
    rw [absolute, signed] at rounds
    rwa [Int.compare_eq_gt.mpr above]

theorem aligned (sign : Sign) (v : Magnitude) {place : Int} (low : place ≤ v.exponent) :
    (sign.apply (v.significand <<< (v.exponent - place).toNat : Nat) : ℚ) * 2 ^ place =
      signed sign v.quantity := by
  have shifted : ((v.significand <<< (v.exponent - place).toNat : Nat) : ℚ) * 2 ^ place =
      v.quantity := by
    rw [Nat.shiftLeft_eq, Magnitude.quantity, Nat.cast_mul, mul_assoc, Nat.cast_pow,
      Nat.cast_ofNat, ← zpow_natCast, ← zpow_add₀ two_ne_zero, Int.toNat_of_nonneg (by omega),
      sub_add_cancel]
  cases sign with
  | positive => exact_mod_cast shifted
  | negative =>
      show ((-(_ : Int) : Int) : ℚ) * _ = -_
      rw [Int.cast_neg, neg_mul, ← shifted]
      norm_cast

theorem rounds_sum (canonical : v.Canonical) (canonical' : w.Canonical) :
    Rounds (signed sign v.quantity + signed sign' w.quantity)
      ⟨Float.Model.pack (add Format.binary64 (v.signed sign) (w.signed sign'))⟩ := by
  rcases Nat.eq_zero_or_pos v.significand with zero | pos <;>
    rcases Nat.eq_zero_or_pos w.significand with zero' | pos'
  · rw [Magnitude.quantity_eq_zero zero, Magnitude.quantity_eq_zero zero', signed_zero,
      signed_zero, add_zero, Magnitude.signed, Magnitude.signed, dif_pos zero, dif_pos zero']
    cases sign <;> cases sign' <;> exact rounds_zero _
  · have right := rounds_pack canonical' sign'
    rw [w.signed_of_pos pos'] at right ⊢
    rw [Magnitude.quantity_eq_zero zero, signed_zero, zero_add, Magnitude.signed, dif_pos zero]
    exact right
  · have left := rounds_pack canonical sign
    rw [v.signed_of_pos pos] at left ⊢
    rw [Magnitude.quantity_eq_zero zero', signed_zero, add_zero, Magnitude.signed, dif_pos zero']
    exact left
  · rw [v.signed_of_pos pos, w.signed_of_pos pos',
      ← aligned sign v (min_le_left v.exponent w.exponent),
      ← aligned sign' w (min_le_right v.exponent w.exponent), ← add_mul, ← Int.cast_add]
    exact rounds_normalize _ _

theorem rounds_add (finite : x.isFinite = true) (finite' : y.isFinite = true) :
    Rounds (quantity x + quantity y) (x + y) := by
  show Rounds _ ⟨Float.Model.pack (add _ x.toModel.unpack y.toModel.unpack)⟩
  rw [unpack_toModel finite, unpack_toModel finite']
  exact rounds_sum (canonical_magnitude finite) (canonical_magnitude finite')

theorem apply_neg (sign : Sign) (n : Int) : (-sign).apply n = -sign.apply n := by
  cases sign with
  | positive => rfl
  | negative => exact (neg_neg n).symm

theorem unpacked_difference_eq (u w : UnpackedFloat) :
    sub Format.binary64 u w = add Format.binary64 u w.neg := by
  cases u with
  | finite sign m e _ =>
      cases w with
      | finite sign' m' e' _ =>
          unfold UnpackedFloat.neg UnpackedFloat.sub UnpackedFloat.add
          dsimp only
          rw [apply_neg, Int.sub_eq_add_neg]
      | _ => rfl
  | infinity sign => cases w <;> rfl
  | zero sign => cases w <;> rfl
  | notANumber => cases w <;> rfl

theorem difference_eq (finite : y.isFinite = true) : x - y = x + -y := by
  have canonical := canonical_magnitude finite
  have negated : (-y).toModel.unpack = y.toModel.unpack.neg := by
    show (Float.Model.pack y.toModel.unpack.neg).unpack = _
    rw [unpack_toModel finite, Magnitude.neg_signed]
    exact unpack_pack canonical _
  show (⟨Float.Model.pack (sub _ x.toModel.unpack y.toModel.unpack)⟩ : Float) =
    ⟨Float.Model.pack (add _ x.toModel.unpack (-y).toModel.unpack)⟩
  rw [unpacked_difference_eq, negated]

theorem rounds_sub (finite : x.isFinite = true) (finite' : y.isFinite = true) :
    Rounds (quantity x - quantity y) (x - y) := by
  rw [difference_eq finite', sub_eq_add_neg, ← quantity_neg finite']
  exact rounds_add finite (isFinite_neg finite')

theorem signed_mul_signed (r s : ℚ) :
    signed sign r * signed sign' s = signed (sign * sign') (r * s) := by
  cases sign <;> cases sign'
  · exact neg_mul_neg r s
  · exact neg_mul r s
  · exact mul_neg r s
  · rfl

theorem signed_div_signed (r s : ℚ) :
    signed sign r / signed sign' s = signed (sign / sign') (r / s) := by
  cases sign <;> cases sign'
  · exact neg_div_neg_eq r s
  · exact neg_div s r
  · exact div_neg r
  · rfl

section

variable {m m' : Nat} (sign sign' : Sign)

theorem rounds_significands_mul {e e' : Int} (pos : 0 < m) (pos' : 0 < m')
    (fine : e + e' ≤ target (m * m') (e + e')) :
    Rounds (signed (sign * sign') (m * 2 ^ e * (m' * 2 ^ e')))
      ⟨Float.Model.pack
        (mul Format.binary64 (.finite sign m e pos) (.finite sign' m' e' pos'))⟩ := by
  have exact : ((m * m' : Nat) : ℚ) = m * 2 ^ e * (m' * 2 ^ e') / 2 ^ (e + e') := by
    rw [zpow_add₀ two_ne_zero]
    push_cast
    field_simp
  exact rounds_roundWithAccuracy (exact ▸ tells_exact (m * m')) fine (sign * sign')

theorem rounds_significands_div (e e' : Int) (pos : 0 < m) (pos' : 0 < m') :
    Rounds (signed (sign / sign') (m * 2 ^ e / (m' * 2 ^ e')))
      ⟨Float.Model.pack
        (div Format.binary64 (.finite sign m e pos) (.finite sign' m' e' pos'))⟩ := by
  obtain ⟨mantissa, place, accuracy, same, told, fine⟩ :=
    exists_quotient sign sign' e e' pos pos'
  rw [same]
  exact rounds_roundWithAccuracy told fine (sign / sign')

end

theorem rounds_product (canonical : v.Canonical) (canonical' : w.Canonical) :
    Rounds (signed sign v.quantity * signed sign' w.quantity)
      ⟨Float.Model.pack (mul Format.binary64 (v.signed sign) (w.signed sign'))⟩ := by
  rw [signed_mul_signed]
  rcases Nat.eq_zero_or_pos v.significand with zero | pos
  · rw [Magnitude.quantity_eq_zero zero, zero_mul, signed_zero, Magnitude.signed, dif_pos zero]
    unfold Magnitude.signed
    split <;> exact rounds_zero _
  rcases Nat.eq_zero_or_pos w.significand with zero' | pos'
  · rw [Magnitude.quantity_eq_zero zero', mul_zero, signed_zero, v.signed_of_pos pos,
      Magnitude.signed, dif_pos zero']
    exact rounds_zero _
  have fine : v.exponent + w.exponent ≤
      target (v.significand * w.significand) (v.exponent + w.exponent) := by
    -- A product of two subnormal numbers is finer than the last place, any other one has 52 bits.
    by_cases lowest : v.exponent = -1074 ∧ w.exponent = -1074
    · refine le_trans ?_ (le_max_right _ _)
      omega
    · refine le_target_of_long ((Nat.le_log2 (by positivity)).mpr ?_)
      rcases not_and_or.mp lowest with normal | normal
      · exact (canonical.long normal).trans (Nat.le_mul_of_pos_right _ pos')
      · exact (canonical'.long normal).trans (Nat.le_mul_of_pos_left _ pos)
  rw [v.signed_of_pos pos, w.signed_of_pos pos']
  exact rounds_significands_mul sign sign' pos pos' fine

theorem rounds_mul (finite : x.isFinite = true) (finite' : y.isFinite = true) :
    Rounds (quantity x * quantity y) (x * y) := by
  show Rounds _ ⟨Float.Model.pack (mul _ x.toModel.unpack y.toModel.unpack)⟩
  rw [unpack_toModel finite, unpack_toModel finite']
  exact rounds_product (canonical_magnitude finite) (canonical_magnitude finite')

theorem rounds_quotient (pos : 0 < w.significand) :
    Rounds (signed sign v.quantity / signed sign' w.quantity)
      ⟨Float.Model.pack (div Format.binary64 (v.signed sign) (w.signed sign'))⟩ := by
  rw [signed_div_signed, w.signed_of_pos pos]
  rcases Nat.eq_zero_or_pos v.significand with zero | pos'
  · rw [Magnitude.quantity_eq_zero zero, zero_div, signed_zero, Magnitude.signed, dif_pos zero]
    exact rounds_zero _
  · rw [v.signed_of_pos pos']
    exact rounds_significands_div sign sign' v.exponent w.exponent pos' pos

theorem rounds_div (finite : x.isFinite = true) (finite' : y.isFinite = true)
    (nonzero : quantity y ≠ 0) : Rounds (quantity x / quantity y) (x / y) := by
  have pos : 0 < (magnitude y).significand := by
    refine Nat.pos_of_ne_zero fun zero => nonzero ?_
    rw [quantity, Magnitude.quantity_eq_zero zero, signed_zero]
  show Rounds _ ⟨Float.Model.pack (div _ x.toModel.unpack y.toModel.unpack)⟩
  rw [unpack_toModel finite, unpack_toModel finite']
  exact rounds_quotient pos

theorem infinite_cases {u : UnpackedFloat} (infinite : u.isFinite = false) :
    u = .notANumber ∨ ∃ sign, u = .infinity sign := by
  cases u with
  | notANumber => exact .inl rfl
  | infinity sign => exact .inr ⟨sign, rfl⟩
  | zero sign => cases infinite
  | finite sign m e pos => cases infinite

theorem multiple_large (count : ℤ) :
    (count * 2 ^ (-1074 : ℤ) : ℚ) = 0 ∨ 2 ^ (-1074 : ℤ) ≤ |(count * 2 ^ (-1074 : ℤ) : ℚ)| := by
  rcases eq_or_ne count 0 with rfl | nonzero
  · exact .inl (by rw [Int.cast_zero, zero_mul])
  · have whole : (1 : ℚ) ≤ |(count : ℚ)| := by exact_mod_cast Int.one_le_abs nonzero
    have unit : (0 : ℚ) < 2 ^ (-1074 : ℤ) := by positivity
    rw [abs_mul, abs_of_pos unit]
    exact .inr (le_mul_of_one_le_left unit.le whole)

theorem quantity_zero : quantity 0 = 0 := by
  rw [quantity, Magnitude.quantity_eq_zero (by decide), signed_zero]

theorem quantity_one : quantity 1 = 1 := by
  have bits : magnitude 1 = ⟨4503599627370496, -52⟩ := by decide
  rw [quantity_eq bits (by decide)]
  norm_num [Magnitude.quantity]

theorem pos_iff_quantity (finite : x.isFinite = true) : 0 < x ↔ 0 < quantity x := by
  rw [lt_iff (by decide) finite, quantity_zero]

theorem sub_pos_iff (finite : x.isFinite = true) (finite' : y.isFinite = true) :
    0 < x - y ↔ y < x := by
  obtain ⟨count, first⟩ := exists_multiple finite
  obtain ⟨count', second⟩ := exists_multiple finite'
  have large := multiple_large (count - count')
  rw [Int.cast_sub, sub_mul, ← first, ← second] at large
  rw [(rounds_sub finite finite').pos_iff large, sub_pos, lt_iff finite' finite]

theorem unpack_of_pos (finite : x.isFinite = true) (positive : 0 < quantity x) :
    ∃ m e pos, x.toModel.unpack = .finite .positive m e pos := by
  have pos : 0 < (magnitude x).significand := by
    rw [← Magnitude.quantity_pos_iff, ← abs_quantity]
    exact abs_pos_of_pos positive
  have sign : signOf x = .positive := by
    unfold quantity at positive
    cases sign : signOf x with
    | positive => rfl
    | negative =>
        rw [sign] at positive
        exact absurd positive (not_lt.mpr (neg_nonpos.mpr (magnitude x).quantity_nonneg))
  exact ⟨_, _, pos, by rw [unpack_toModel finite, sign, Magnitude.signed_of_pos pos]⟩

theorem div_pos_iff_of_small (finite : y.isFinite = true) (pos : 0 < quantity y)
    (small : quantity y ≤ 1) : 0 < x / y ↔ 0 < x := by
  cases bounded : x.isFinite with
  | true =>
      obtain ⟨count, same⟩ := exists_multiple bounded
      have large : quantity x / quantity y = 0 ∨
          2 ^ (-1074 : ℤ) ≤ |quantity x / quantity y| := by
        have large := multiple_large count
        rw [← same] at large
        refine large.imp (fun zero => by rw [zero, zero_div]) fun large => ?_
        rw [abs_div, abs_of_pos pos]
        exact large.trans (le_div_self (abs_nonneg _) pos small)
      rw [(rounds_div bounded finite pos.ne').pos_iff large, pos_iff_quantity bounded,
        div_pos_iff_of_pos_right pos]
  | false =>
      obtain ⟨m, e, _, shape⟩ := unpack_of_pos finite pos
      have kept : x / y = ⟨Float.Model.pack x.toModel.unpack⟩ := by
        show (⟨Float.Model.pack (div _ x.toModel.unpack y.toModel.unpack)⟩ : Float) = _
        rcases infinite_cases (u := x.toModel.unpack) bounded with shape' | ⟨sign, shape'⟩
        · rw [shape, shape']
          rfl
        · rw [shape, shape']
          cases sign <;> rfl
      rw [kept, pack_toModel_unpack]

end PlotMarkup.Number
