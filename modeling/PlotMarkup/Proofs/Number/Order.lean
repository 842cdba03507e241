import PlotMarkup.Proofs.Number.Limits

namespace PlotMarkup.Number

open Float.Model hiding pack unpack
open Float.Model.UnpackedFloat

variable {v w : Magnitude} {r s t : ℚ} {x y z c : Float}

theorem Magnitude.Attracts.between (attracts : v.Attracts r) (attracts' : v.Attracts t)
    (above : r ≤ s) (below : s ≤ t) : v.Attracts s where
  low := attracts.low.trans above
  high := below.trans attracts'.high
  tie ends := by
    rcases ends with ends | ends
    · exact attracts.tie (.inl (le_antisymm (above.trans ends.le) attracts.low))
    · exact attracts'.tie (.inr (le_antisymm attracts'.high (ends.ge.trans below)))

theorem Magnitude.Attracts.quantity_le (attracts : v.Attracts r) (attracts' : w.Attracts s)
    (shaped : v.Shaped) (shaped' : w.Shaped) (le : r ≤ s) : v.quantity ≤ w.quantity := by
  by_contra less
  have less := lt_of_not_ge less
  -- Between the two magnitudes lies a number that both of them attract.
  rcases le_total s v.quantity with below | above
  · have both := attracts.between (attracts_self v) le below
    exact less.ne (congrArg _ (attracts'.unique both shaped' shaped))
  · have both := (attracts_self w).between attracts' less.le above
    exact less.ne (congrArg _ (both.unique (attracts_self v) shaped' shaped))

theorem Magnitude.Attracts.quantity_eq_zero (attracts : v.Attracts 0) (shaped : v.Shaped) :
    v.quantity = 0 := by
  have lowest : Magnitude.Shaped ⟨0, -1074⟩ := ⟨by decide, by decide, fun other => absurd rfl other⟩
  have zero : Magnitude.quantity ⟨0, -1074⟩ = 0 := Magnitude.quantity_eq_zero rfl
  have attracts' : Magnitude.Attracts ⟨0, -1074⟩ 0 := zero ▸ attracts_self ⟨0, -1074⟩
  exact le_antisymm (zero ▸ attracts.quantity_le attracts' shaped lowest le_rfl) v.quantity_nonneg

theorem signed_quantity_le {sign sign' : Sign} (attracts : v.Attracts |r|)
    (attracts' : w.Attracts |s|) (shaped : v.Shaped) (shaped' : w.Shaped)
    (same : r = signed sign |r|) (same' : s = signed sign' |s|) (le : r ≤ s) :
    signed sign v.quantity ≤ signed sign' w.quantity := by
  have nonneg := v.quantity_nonneg
  have nonneg' := w.quantity_nonneg
  have size := abs_nonneg r
  have size' := abs_nonneg s
  cases sign <;> cases sign' <;> simp only [signed] at same same' ⊢
  · exact neg_le_neg (attracts'.quantity_le attracts shaped' shaped (by linarith))
  · linarith
  · have zero : |r| = 0 := by linarith
    have zero' : |s| = 0 := by linarith
    rw [zero] at attracts
    rw [zero'] at attracts'
    rw [attracts.quantity_eq_zero shaped, attracts'.quantity_eq_zero shaped', neg_zero]
  · exact attracts.quantity_le attracts' shaped shaped' (by linarith)

theorem overflow_pos : 0 < overflow := by
  rw [overflow_eq]
  positivity

theorem Rounds.infinite_cases (rounds : Rounds r x) (infinite : x.isFinite = false) :
    (overflow ≤ r ∧ x.toModel.unpack = .infinity .positive) ∨
      (r ≤ -overflow ∧ x.toModel.unpack = .infinity .negative) := by
  have beyond : overflow ≤ |r| := by
    by_contra inside
    rw [rounds.isFinite_iff.mpr (lt_of_not_ge inside)] at infinite
    cases infinite
  obtain ⟨v, sign, shaped, attracts, same, rfl⟩ := rounds
  have unpacked := unpack_pack_of_shaped shaped sign
  rw [if_neg (by rw [attracts.exponent_le_iff shaped]; exact not_lt.mpr beyond)] at unpacked
  cases sign with
  | positive => exact .inl ⟨beyond.trans same.ge, unpacked⟩
  | negative => exact .inr ⟨same.le.trans (neg_le_neg beyond), unpacked⟩

theorem Rounds.quantity_le (rounds : Rounds r x) (rounds' : Rounds s y)
    (finite : x.isFinite = true) (finite' : y.isFinite = true) (le : r ≤ s) :
    quantity x ≤ quantity y := by
  have inside := rounds.isFinite_iff.mp finite
  have inside' := rounds'.isFinite_iff.mp finite'
  obtain ⟨v, sign, shaped, attracts, same, rfl⟩ := rounds
  obtain ⟨w, sign', shaped', attracts', same', rfl⟩ := rounds'
  rw [quantity_pack (shaped.canonical ((attracts.exponent_le_iff shaped).mpr inside)),
    quantity_pack (shaped'.canonical ((attracts'.exponent_le_iff shaped').mpr inside'))]
  exact signed_quantity_le attracts attracts' shaped shaped' same same' le

theorem rounds_quantity (finite : x.isFinite = true) : Rounds (quantity x) x := by
  have rounds := rounds_pack (canonical_magnitude finite) (signOf x)
  rwa [← eq_pack finite] at rounds

theorem Rounds.quantity_nonneg (rounds : Rounds r x) (finite : x.isFinite = true)
    (nonneg : 0 ≤ r) : 0 ≤ quantity x := by
  have zero := rounds_quantity (show Float.isFinite 0 = true by decide)
  have above := zero.quantity_le rounds (by decide) finite (quantity_zero.le.trans nonneg)
  rwa [quantity_zero] at above

def extreme : Sign → WithBot (WithTop ℚ)
  | .positive => ⊤
  | .negative => ⊥

/-- Where a double stands in the order. -/
def position (x : Float) : WithBot (WithTop ℚ) :=
  match x.toModel.unpack with
  | .infinity sign => extreme sign
  | _ => (quantity x : WithTop ℚ)

theorem unpack_pack_infinity (sign : Sign) :
    (Float.Model.pack (.infinity sign)).unpack = .infinity sign := by
  cases sign <;> cbv

theorem position_of_finite (finite : x.isFinite = true) : position x = (quantity x : WithTop ℚ) := by
  unfold position
  rcases finite_cases (u := x.toModel.unpack) finite with ⟨sign, shape⟩ | ⟨sign, m, e, pos, shape⟩ <;>
    rw [shape]

theorem position_of_infinite {sign : Sign} (infinite : x.toModel.unpack = .infinity sign) :
    position x = extreme sign := by
  unfold position
  rw [infinite]

theorem cases_of_not_isNaN (number : x.isNaN = false) :
    x.isFinite = true ∨ ∃ sign, x.toModel.unpack = .infinity sign := by
  show x.toModel.unpack.isFinite = true ∨ _
  have number : x.toModel.unpack.isNaN = false := number
  cases shape : x.toModel.unpack with
  | notANumber => rw [shape] at number; cases number
  | infinity sign => exact .inr ⟨sign, rfl⟩
  | zero sign => exact .inl rfl
  | finite sign m e pos => exact .inl rfl

theorem compare_quantities (r s : ℚ) :
    compare ((r : WithTop ℚ) : WithBot (WithTop ℚ)) (s : WithTop ℚ) = compare r s := by
  rcases lt_trichotomy r s with less | rfl | greater
  · rw [compare_lt_iff_lt.mpr less, compare_lt_iff_lt]
    exact WithBot.coe_lt_coe.mpr (WithTop.coe_lt_coe.mpr less)
  · rw [compare_eq_iff_eq.mpr rfl, compare_eq_iff_eq.mpr rfl]
  · rw [compare_gt_iff_gt.mpr greater, compare_gt_iff_gt]
    exact WithBot.coe_lt_coe.mpr (WithTop.coe_lt_coe.mpr greater)

theorem compare_position (number : x.isNaN = false) (number' : y.isNaN = false) :
    x.toModel.unpack.compare y.toModel.unpack = some (compare (position x) (position y)) := by
  have low (r : ℚ) : compare ⊥ ((r : WithTop ℚ) : WithBot (WithTop ℚ)) = .lt :=
    compare_lt_iff_lt.mpr (WithBot.bot_lt_coe _)
  have low' (r : ℚ) : compare ((r : WithTop ℚ) : WithBot (WithTop ℚ)) ⊥ = .gt :=
    compare_gt_iff_gt.mpr (WithBot.bot_lt_coe _)
  have high (r : ℚ) : compare ((r : WithTop ℚ) : WithBot (WithTop ℚ)) ⊤ = .lt :=
    compare_lt_iff_lt.mpr (WithBot.coe_lt_coe.mpr (WithTop.coe_lt_top r))
  have high' (r : ℚ) : compare ⊤ ((r : WithTop ℚ) : WithBot (WithTop ℚ)) = .gt :=
    compare_gt_iff_gt.mpr (WithBot.coe_lt_coe.mpr (WithTop.coe_lt_top r))
  rcases cases_of_not_isNaN number with finite | ⟨sign, infinite⟩ <;>
    rcases cases_of_not_isNaN number' with finite' | ⟨sign', infinite'⟩
  · rw [compare_of_finite finite finite', position_of_finite finite, position_of_finite finite',
      compare_quantities]
  · rw [position_of_finite finite, position_of_infinite infinite', infinite']
    rcases finite_cases (u := x.toModel.unpack) finite with
      ⟨sign, shape⟩ | ⟨sign, m, e, pos, shape⟩ <;> rw [shape] <;> cases sign' <;>
      simp only [extreme, low', high] <;> rfl
  · rw [position_of_finite finite', position_of_infinite infinite, infinite]
    rcases finite_cases (u := y.toModel.unpack) finite' with
      ⟨sign', shape⟩ | ⟨sign', m, e, pos, shape⟩ <;> rw [shape] <;> cases sign <;>
      simp only [extreme, low, high'] <;> rfl
  · rw [position_of_infinite infinite, position_of_infinite infinite', infinite, infinite']
    have apart : (⊥ : WithBot (WithTop ℚ)) < ⊤ := bot_lt_top
    cases sign <;> cases sign' <;> simp only [extreme]
    · rw [compare_eq_iff_eq.mpr rfl]; rfl
    · rw [compare_lt_iff_lt.mpr apart]; rfl
    · rw [compare_gt_iff_gt.mpr apart]; rfl
    · rw [compare_eq_iff_eq.mpr rfl]; rfl

theorem le_iff_position (number : x.isNaN = false) (number' : y.isNaN = false) :
    x ≤ y ↔ position x ≤ position y := by
  show decide (UnpackedFloat.le x.toModel.unpack y.toModel.unpack = true) = true ↔ _
  rw [decide_eq_true_iff, UnpackedFloat.le, compare_position number number', ← compare_le_iff_le]
  cases compare (position x) (position y) <;> decide

theorem lt_iff_position (number : x.isNaN = false) (number' : y.isNaN = false) :
    x < y ↔ position x < position y := by
  show decide (UnpackedFloat.lt x.toModel.unpack y.toModel.unpack = true) = true ↔ _
  rw [decide_eq_true_iff, UnpackedFloat.lt, compare_position number number', ← compare_lt_iff_lt]
  cases compare (position x) (position y) <;> decide

theorem isNaN_of_isFinite (finite : x.isFinite = true) : x.isNaN = false := by
  show x.toModel.unpack.isNaN = false
  rcases finite_cases (u := x.toModel.unpack) finite with ⟨sign, shape⟩ | ⟨sign, m, e, pos, shape⟩ <;>
    rw [shape] <;> rfl

theorem isNaN_of_compare {order : Ordering}
    (known : x.toModel.unpack.compare y.toModel.unpack = some order) :
    x.isNaN = false ∧ y.isNaN = false := by
  show x.toModel.unpack.isNaN = false ∧ y.toModel.unpack.isNaN = false
  cases shape : x.toModel.unpack <;> cases shape' : y.toModel.unpack <;>
    rw [shape, shape'] at known <;> first | exact ⟨rfl, rfl⟩ | cases known

theorem isNaN_of_le (le : x ≤ y) : x.isNaN = false ∧ y.isNaN = false := by
  have le : UnpackedFloat.le x.toModel.unpack y.toModel.unpack = true := of_decide_eq_true le
  obtain ⟨order, known, -⟩ := (Option.any_eq_true _ _).mp le
  exact isNaN_of_compare known

theorem isNaN_of_lt (lt : x < y) : x.isNaN = false ∧ y.isNaN = false := by
  have lt : UnpackedFloat.lt x.toModel.unpack y.toModel.unpack = true := of_decide_eq_true lt
  exact isNaN_of_compare (eq_of_beq lt)

theorem le_refl_of_number (number : x.isNaN = false) : x ≤ x :=
  (le_iff_position number number).mpr le_rfl

theorem le_chain (first : x ≤ y) (second : y ≤ z) : x ≤ z := by
  obtain ⟨number, number'⟩ := isNaN_of_le first
  obtain ⟨-, number''⟩ := isNaN_of_le second
  rw [le_iff_position number number'']
  exact ((le_iff_position number number').mp first).trans
    ((le_iff_position number' number'').mp second)

theorem not_lt_of_top (top : x.toModel.unpack = .infinity .positive) : ¬x < y := by
  intro less
  obtain ⟨number, number'⟩ := isNaN_of_lt less
  rw [lt_iff_position number number', position_of_infinite top] at less
  exact not_top_lt less

theorem not_lt_of_bottom (bottom : y.toModel.unpack = .infinity .negative) : ¬x < y := by
  intro less
  obtain ⟨number, number'⟩ := isNaN_of_lt less
  rw [lt_iff_position number number', position_of_infinite bottom] at less
  exact not_lt_bot less

theorem isFinite_of_between (above : x ≤ y) (below : y ≤ z) (finite : x.isFinite = true)
    (finite' : z.isFinite = true) : y.isFinite = true := by
  obtain ⟨number, number'⟩ := isNaN_of_le above
  have number'' := (isNaN_of_le below).2
  rw [le_iff_position number number', position_of_finite finite] at above
  rw [le_iff_position number' number'', position_of_finite finite'] at below
  refine (cases_of_not_isNaN number').resolve_right fun ⟨sign, infinite⟩ => ?_
  rw [position_of_infinite infinite] at above below
  cases sign with
  | positive => exact absurd below (not_le_of_gt (WithBot.coe_lt_coe.mpr (WithTop.coe_lt_top _)))
  | negative => exact absurd above (not_le_of_gt (WithBot.bot_lt_coe _))

theorem Rounds.isNaN_eq_false (rounds : Rounds r x) : x.isNaN = false := by
  cases finite : x.isFinite with
  | true => exact isNaN_of_isFinite finite
  | false =>
      show x.toModel.unpack.isNaN = false
      rcases rounds.infinite_cases finite with ⟨-, infinite⟩ | ⟨-, infinite⟩ <;> rw [infinite] <;>
        rfl

theorem Rounds.le (rounds : Rounds r x) (rounds' : Rounds s y) (le : r ≤ s) : x ≤ y := by
  have limit := overflow_pos
  rw [le_iff_position rounds.isNaN_eq_false rounds'.isNaN_eq_false]
  cases finite : x.isFinite with
  | false =>
      rcases rounds.infinite_cases finite with ⟨beyond, infinite⟩ | ⟨-, infinite⟩
      · have finite' : y.isFinite = false := by
          rw [Bool.eq_false_iff, ne_eq, rounds'.isFinite_iff]
          exact not_lt.mpr ((beyond.trans le).trans (le_abs_self s))
        rcases rounds'.infinite_cases finite' with ⟨-, infinite'⟩ | ⟨beyond', -⟩
        · rw [position_of_infinite infinite']
          exact le_top
        · linarith
      · rw [position_of_infinite infinite]
        exact bot_le
  | true =>
      cases finite' : y.isFinite with
      | true =>
          rw [← le_iff_position rounds.isNaN_eq_false rounds'.isNaN_eq_false, le_iff finite finite']
          exact rounds.quantity_le rounds' finite finite' le
      | false =>
          rcases rounds'.infinite_cases finite' with ⟨-, infinite'⟩ | ⟨beyond', -⟩
          · rw [position_of_infinite infinite']
            exact le_top
          · have inside := rounds.isFinite_iff.mp finite
            have := neg_le_of_abs_le inside.le
            have := neg_abs_le r
            linarith

section

variable (finite : c.isFinite = true)
include finite

theorem isNaN_add (number : x.isNaN = false) : (x + c).isNaN = false := by
  cases bounded : x.isFinite with
  | true => exact (rounds_add bounded finite).isNaN_eq_false
  | false => rwa [add_of_infinite bounded finite]

theorem sum_le_sum (le : x ≤ y) : x + c ≤ y + c := by
  obtain ⟨number, number'⟩ := isNaN_of_le le
  have placed := (le_iff_position number number').mp le
  rw [le_iff_position (isNaN_add finite number) (isNaN_add finite number')]
  cases bounded : x.isFinite with
  | true =>
      cases bounded' : y.isFinite with
      | true =>
          have sums := (rounds_add bounded finite).le (rounds_add bounded' finite)
            (add_le_add_left ((le_iff bounded bounded').mp le) _)
          exact (le_iff_position (isNaN_add finite number) (isNaN_add finite number')).mp sums
      | false =>
          rw [add_of_infinite bounded' finite]
          obtain ⟨sign, infinite⟩ := (cases_of_not_isNaN number').resolve_left (by simp [bounded'])
          rw [position_of_infinite infinite] at placed ⊢
          cases sign with
          | positive => exact le_top
          | negative =>
              rw [position_of_finite bounded] at placed
              exact absurd placed (not_le_of_gt (WithBot.bot_lt_coe _))
  | false =>
      rw [add_of_infinite bounded finite]
      obtain ⟨sign, infinite⟩ := (cases_of_not_isNaN number).resolve_left (by simp [bounded])
      cases bounded' : y.isFinite with
      | false => rwa [add_of_infinite bounded' finite]
      | true =>
          rw [position_of_infinite infinite] at placed ⊢
          cases sign with
          | negative => exact bot_le
          | positive =>
              rw [position_of_finite bounded'] at placed
              exact absurd placed
                (not_le_of_gt (WithBot.coe_lt_coe.mpr (WithTop.coe_lt_top _)))

theorem difference_le_difference (le : x ≤ y) : x - c ≤ y - c := by
  rw [difference_eq finite, difference_eq finite]
  exact sum_le_sum (isFinite_neg finite) le

variable (nonneg : 0 ≤ quantity c)
include nonneg

theorem le_sum (number : x.isNaN = false) : x ≤ x + c := by
  cases bounded : x.isFinite with
  | true =>
      exact (rounds_quantity bounded).le (rounds_add bounded finite)
        (le_add_of_nonneg_right nonneg)
  | false =>
      rw [add_of_infinite bounded finite]
      exact le_refl_of_number number

theorem difference_le (number : x.isNaN = false) : x - c ≤ x := by
  cases bounded : x.isFinite with
  | true =>
      exact (rounds_sub bounded finite).le (rounds_quantity bounded) (sub_le_self _ nonneg)
  | false =>
      rw [difference_eq finite, add_of_infinite bounded (isFinite_neg finite)]
      exact le_refl_of_number number

end

end PlotMarkup.Number
