import PlotMarkup.Curve.Markup
import PlotMarkup.Proofs.Analysis.Extrema
import PlotMarkup.Proofs.Expr.Evaluation
import PlotMarkup.Proofs.Number.Names

namespace PlotMarkup

open Number (quantity overflow NamesNonFinite Nameless)

theorem Formula.isFinite_of_eval {source : String} {f : Formula} {x y : Float}
    (read : Formula.ofText source = .ok f) (point : x.isFinite = true) (made : f.eval x = .ok y) :
    y.isFinite = true := by
  have numbers := Expr.finiteNumbers_of_parse (ofText_eq_ok.mp read).2
  obtain ⟨finite, rfl⟩ := (Expr.eval_eq_ok point numbers).mp (eval_eq_ok.mp made)
  exact finite _ f.expr.self_mem_postorder

theorem namesNonFinite_coordinate {x y : Float} (finite : x.isFinite = true) :
    NamesNonFinite (Curve.coordinate x y).toList ↔ y.isFinite = false := by
  have before : Nameless ("(".toList ++ (Number.markup x).toList ++ ",".toList) :=
    ((show Nameless "(".toList by decide).append (Number.nameless_markup finite)).append
      (show Nameless ",".toList by decide)
  rw [← Number.namesNonFinite_iff before (show Nameless ")".toList by decide)]
  simp only [Curve.coordinate, String.toList_append, List.append_assoc]

theorem namesNonFinite_text {line : Tangent} (finite : line.slope.isFinite = true) :
    NamesNonFinite line.text.toList ↔ line.intercept.isFinite = false := by
  have before : Nameless ((Number.markup line.slope).toList ++ "*x + ".toList) :=
    (Number.nameless_markup finite).append (by decide)
  rw [← Number.namesNonFinite_iff before (show Nameless [] by decide)]
  simp only [Tangent.text, String.toList_append, List.append_assoc, List.append_nil]

theorem Formula.tangent_eq_ok {f : Formula} {x0 : Float} {line : Tangent} :
    f.tangent x0 = .ok line ↔ ∃ y0 slope, f.eval x0 = .ok y0 ∧ f.slope x0 = .ok slope ∧
      line = ⟨slope, y0 - slope * x0, x0, y0⟩ := by
  rw [tangent, bind_eq_ok]
  refine exists_congr fun y0 => ?_
  rw [bind_eq_ok, ← exists_and_left]
  refine exists_congr fun slope => and_congr_right fun _ => and_congr_right fun _ => ?_
  show Except.ok _ = Except.ok line ↔ _
  rw [Except.ok.injEq, eq_comm]

theorem intercept_cases {slope x0 y0 : Float} (finite : slope.isFinite = true)
    (point : x0.isFinite = true) (value : y0.isFinite = true) :
    ((y0 - slope * x0).isFinite = true ∧ |quantity slope * quantity x0| < overflow ∧
      |quantity y0 - quantity (slope * x0)| < overflow) ∨
    ((y0 - slope * x0).isFinite = false ∧ (y0 - slope * x0).isInf = true ∧
      ¬(|quantity slope * quantity x0| < overflow ∧
        |quantity y0 - quantity (slope * x0)| < overflow)) := by
  have product := Number.rounds_mul finite point
  rw [← product.isFinite_iff]
  cases bounded : (slope * x0).isFinite with
  | false =>
      have infinite := Number.isInf_sub value (product.isInf bounded)
      exact .inr ⟨Number.not_isFinite_of_isInf infinite, infinite, by simp⟩
  | true =>
      have difference := Number.rounds_sub value bounded
      rw [← difference.isFinite_iff]
      cases bounded' : (y0 - slope * x0).isFinite with
      | true => exact .inl ⟨rfl, rfl, rfl⟩
      | false => exact .inr ⟨rfl, difference.isInf bounded', by simp⟩

/--
A tangent at a finite point has a finite slope and touches the curve at a finite point.  Its
intercept is finite, and its text shows finite numbers, unless the product of slope and point or the
difference from the value overflows.  There is no tangent only if there is no value or no slope, and
that is an evaluation error.
-/
theorem Formula.tangent_finite_iff {source : String} {f : Formula} {x0 : Float}
    (read : ofText source = .ok f) (point : x0.isFinite = true) :
    (∀ line, f.tangent x0 = .ok line →
      line.x0 = x0 ∧ f.eval x0 = .ok line.y0 ∧ f.slope x0 = .ok line.slope ∧
      line.y0.isFinite = true ∧ line.slope.isFinite = true ∧
      (line.intercept.isFinite = true ↔ |quantity line.slope * quantity x0| < overflow ∧
        |quantity line.y0 - quantity (line.slope * x0)| < overflow) ∧
      (line.intercept.isFinite = false → line.intercept.isInf = true) ∧
      (NamesNonFinite line.text.toList ↔ line.intercept.isFinite = false) ∧
      ¬NamesNonFinite (Curve.coordinate line.x0 line.y0).toList) ∧
    ∀ issue, f.tangent x0 = .error issue → issue.kind = .evaluationError ∧
      (f.eval x0 = .error issue ∨ f.slope x0 = .error issue) := by
  refine ⟨fun line made => ?_, fun issue failed =>
    ⟨kind_of_tangent failed, tangent_eq_error failed⟩⟩
  obtain ⟨y0, slope, value, derivative, rfl⟩ := tangent_eq_ok.mp made
  have finite := isFinite_of_slope derivative
  have finite' := isFinite_of_eval read point value
  refine ⟨rfl, value, derivative, finite', finite, ?_, ?_, namesNonFinite_text finite, ?_⟩
  · rcases intercept_cases finite point finite' with ⟨bounded, inside⟩ | ⟨unbounded, -, outside⟩
    · exact iff_of_true bounded inside
    · exact iff_of_false (Bool.eq_false_iff.mp unbounded) outside
  · intro unbounded
    rcases intercept_cases finite point finite' with ⟨bounded, -⟩ | ⟨-, infinite, -⟩
    · rw [bounded] at unbounded
      cases unbounded
    · exact infinite
  · rw [namesNonFinite_coordinate point, finite']
    exact Bool.noConfusion

def steep : Formula :=
  ⟨"1e303*(x - 1e6)", .binary (.number 1e303) .mul (.binary .var .sub (.number 1e6))⟩

theorem ofText_steep : Formula.ofText "1e303*(x - 1e6)" = .ok steep :=
  toOption_eq_some.mp (by decide +kernel)

theorem exists_tangent_steep :
    ∃ line, steep.tangent 1e6 = .ok line ∧ line.intercept.isFinite = false := by
  have unbounded : (steep.tangent 1e6).toOption.any (!·.intercept.isFinite) = true := by
    decide +kernel
  obtain ⟨line, made, infinite⟩ := (Option.any_eq_true _ _).mp unbounded
  exact ⟨line, toOption_eq_some.mp made, by simpa using infinite⟩

theorem tangent_steep_overflows : ∃ line, steep.tangent 1e6 = .ok line ∧
    ¬(|quantity line.slope * quantity 1e6| < overflow ∧
      |quantity line.y0 - quantity (line.slope * 1e6)| < overflow) := by
  obtain ⟨line, made, infinite⟩ := exists_tangent_steep
  obtain ⟨-, -, -, -, -, bounded, -⟩ :=
    (Formula.tangent_finite_iff ofText_steep (by decide)).1 line made
  refine ⟨line, made, fun inside => ?_⟩
  rw [bounded.mpr inside] at infinite
  cases infinite

theorem tangent_names_infinity : Formula.ofText "1e303*(x - 1e6)" = .ok steep ∧
    Float.isFinite 1e6 = true ∧ ∃ line, steep.tangent 1e6 = .ok line ∧
      line.intercept.isFinite = false ∧ NamesNonFinite line.text.toList := by
  obtain ⟨line, made, infinite⟩ := exists_tangent_steep
  obtain ⟨y0, slope, -, derivative, rfl⟩ := Formula.tangent_eq_ok.mp made
  exact ⟨ofText_steep, by decide, _, made, infinite,
    (namesNonFinite_text (Formula.isFinite_of_slope derivative)).mpr infinite⟩

section

variable {x : Float}

theorem Formula.slope_of_still {f : Formula} {slope : Float} (still : x + slopeStep = x)
    (made : f.slope x = .ok slope) : slope = 0 := by
  obtain ⟨ahead, here, value, value', rfl, finite⟩ := slope_eq_ok.mp made
  rw [still, value'] at value
  cases value
  exact quotient_self (Number.isFinite_of_sub_self finite)

theorem moderate_of_moved (moved : x + slopeStep ≠ x) :
    x.isFinite = true ∧ |quantity x| < 2 ^ 54 := by
  have bounded : x.isFinite = true := by
    by_contra infinite
    exact moved (Number.add_of_infinite (Bool.eq_false_iff.mpr infinite) isFinite_slopeStep)
  have canonical := Number.canonical_magnitude bounded
  have place : (Number.magnitude x).exponent ≤ 1 := by
    by_contra high
    refine moved (Number.add_of_small bounded isFinite_slopeStep ?_ ?_)
    · have := canonical.long (by omega)
      omega
    · have unit : (2 : ℚ) ^ (2 : ℤ) ≤ 2 ^ (Number.magnitude x).exponent :=
        zpow_le_zpow_right₀ one_le_two (by omega)
      rw [quantity_slopeStep]
      norm_num at unit ⊢
      linarith
  have short : ((Number.magnitude x).significand : ℚ) < 2 ^ 53 := by
    exact_mod_cast canonical.short
  refine ⟨bounded, ?_⟩
  calc |quantity x| = (Number.magnitude x).quantity := Number.abs_quantity x
    _ < 2 ^ 53 * 2 ^ (1 : ℤ) := by
      refine mul_lt_mul short ?_ (by positivity) (by positivity)
      exact zpow_le_zpow_right₀ one_le_two place
    _ = 2 ^ 54 := by norm_num

end

namespace Extremum

open Number (roundTo tenPower atLeastTwo)

variable {f : Formula} {step x y : Float} {p : Extremum}

theorem quantity_tenPower : quantity (tenPower places) = 1000 := by
  have bits : Number.magnitude (tenPower places) = ⟨8796093022208000, -43⟩ := by decide +kernel
  rw [Number.quantity_eq bits (by decide +kernel)]
  norm_num [Number.Magnitude.quantity]

theorem atLeastTwo_tenPower : atLeastTwo (tenPower places).toModel.unpack = true := by
  decide +kernel

theorem isFinite_roundTo_iff (finite : x.isFinite = true) :
    (roundTo x places).isFinite = true ↔ |quantity x| * 1000 < overflow := by
  rw [Number.isFinite_roundTo finite atLeastTwo_tenPower, quantity_tenPower, abs_mul]
  norm_num

theorem isFinite_roundTo_of_moderate (finite : x.isFinite = true)
    (moderate : |quantity x| < 2 ^ 54) : (roundTo x places).isFinite = true := by
  rw [isFinite_roundTo_iff finite, Number.overflow_eq]
  have unit : (2 : ℚ) ^ (20 : ℤ) ≤ 2 ^ (971 : ℤ) := zpow_le_zpow_right₀ one_le_two (by norm_num)
  generalize (2 : ℚ) ^ (971 : ℤ) = unit' at *
  norm_num at unit moderate ⊢
  linarith

theorem Finds.moved (finds : Finds f step x (some p)) : x + slopeStep ≠ x := by
  obtain ⟨before, here, -, -, -, middle, -, -, opposite, -⟩ := finds.exists_slopes
  intro still
  obtain rfl := Formula.slope_of_still still middle
  rcases turns_iff.mp opposite with ⟨-, rising⟩ | ⟨-, falling⟩
  · exact absurd rising (by decide)
  · exact absurd falling (by decide)

def labelHeight (p : Extremum) : Float :=
  match p.kind with
  | .minimum => p.y - 1
  | .maximum => p.y + 1

theorem isFinite_labelHeight (p : Extremum) : p.labelHeight.isFinite = p.y.isFinite := by
  have one : Float.isFinite 1 = true := by decide
  unfold labelHeight
  split
  · rw [Number.difference_eq one]
    refine Number.isFinite_add_of_small (Number.isFinite_neg one) ?_
    rw [Number.quantity_neg one, Number.quantity_one, abs_neg, abs_one]
  · exact Number.isFinite_add_of_small one (by rw [Number.quantity_one, abs_one])

theorem namesNonFinite_labelClause (finite : p.x.isFinite = true) :
    NamesNonFinite (Curve.labelClause p).toList ↔ p.y.isFinite = false := by
  rw [← isFinite_labelHeight]
  obtain ⟨anchor, nameless, shown⟩ : ∃ anchor : String, Nameless anchor.toList ∧
      Curve.labelClause p = "\n\\node[" ++ anchor ++ "] at (axis cs:" ++ Number.markup p.x ++ "," ++
        Number.markup p.labelHeight ++ ") \x7b" ++ p.kind.name ++ "\x7d;" := by
    unfold Curve.labelClause labelHeight
    cases p.kind with
    | minimum => exact ⟨"below", by decide, rfl⟩
    | maximum => exact ⟨"above", by decide, rfl⟩
  have before : Nameless ("\n\\node[".toList ++ anchor.toList ++ "] at (axis cs:".toList ++
      (Number.markup p.x).toList ++ ",".toList) :=
    ((((show Nameless "\n\\node[".toList by decide).append nameless).append (by decide)).append
      (Number.nameless_markup finite)).append (by decide)
  have after : Nameless (") \x7b".toList ++ p.kind.name.toList ++ "\x7d;".toList) := by
    cases p.kind <;> decide
  rw [← Number.namesNonFinite_iff before after, shown]
  simp only [String.toList_append, List.append_assoc]

/--
The points of a scan are what its samples yield: samples and the values there, all of them finite,
and rounded to places.  The height of a point, and of its label, is finite unless the value
overflows when it is scaled.  If the texts are read, a scan fails only where one of its samples
does, and that is an evaluation error.
-/
theorem extrema_finite_iff (expression domain : String) :
    (∀ points, extremaOfText expression domain = .ok points →
      ∃ bounds f, Domain.ofText domain = .ok bounds ∧ Formula.ofText expression = .ok f ∧
      (∀ x ∈ samples bounds.low bounds.high, ∃ found,
        probe f (sampleStep bounds.low bounds.high) x = .ok found ∧ ∀ p ∈ found, p ∈ points) ∧
      ∀ p ∈ points, ∃ x ∈ samples bounds.low bounds.high, ∃ y,
        x.isFinite = true ∧ f.eval x = .ok y ∧ y.isFinite = true ∧
        p.x = roundTo x places ∧ p.y = roundTo y places ∧ p.x.isFinite = true ∧
        (p.y.isFinite = true ↔ |quantity y| * 1000 < overflow) ∧
        (p.y.isFinite = false → p.y.isInf = true) ∧
        (NamesNonFinite (Curve.coordinate p.x p.y).toList ↔ p.y.isFinite = false) ∧
        (NamesNonFinite (Curve.labelClause p).toList ↔ p.y.isFinite = false)) ∧
    ∀ issue, extremaOfText expression domain = .error issue →
      Domain.ofText domain = .error issue ∨ Formula.ofText expression = .error issue ∨
        issue.kind = .evaluationError ∧
          ∃ bounds f, Domain.ofText domain = .ok bounds ∧ Formula.ofText expression = .ok f ∧
            ∃ x ∈ samples bounds.low bounds.high,
              probe f (sampleStep bounds.low bounds.high) x = .error issue := by
  constructor
  · intro points scanned
    obtain ⟨bounds, read', scanned⟩ := bind_eq_ok.mp scanned
    obtain ⟨f, read, scanned⟩ := bind_eq_ok.mp scanned
    refine ⟨bounds, f, read', read, fun x sample => ?_, fun p member => ?_⟩
    · obtain ⟨found, finds⟩ := exists_finds scanned x sample
      refine ⟨found, probe_eq_ok.mpr finds, fun p yielded => ?_⟩
      cases yielded
      exact (mem_extrema scanned).mpr ⟨x, sample, finds⟩
    obtain ⟨x, sample, finds⟩ := (mem_extrema scanned).mp member
    obtain ⟨finite, moderate⟩ := moderate_of_moved finds.moved
    obtain ⟨-, -, -, y, -, -, -, value, -, rfl⟩ := finds.exists_slopes
    have finite' := Formula.isFinite_of_eval read finite value
    have placed := isFinite_roundTo_of_moderate finite moderate
    exact ⟨x, sample, y, finite, value, finite', rfl, rfl, placed, isFinite_roundTo_iff finite',
      Number.isInf_roundTo finite' atLeastTwo_tenPower, namesNonFinite_coordinate placed,
      namesNonFinite_labelClause placed⟩
  · intro issue failed
    rcases bind_eq_error.mp failed with failed | ⟨bounds, read', failed⟩
    · exact .inl failed
    · rcases bind_eq_error.mp failed with failed | ⟨f, read, failed⟩
      · exact .inr (.inl failed)
      · exact .inr (.inr ⟨Formula.kind_of_extrema failed, bounds, f, read', read,
          Formula.exists_probe_error failed⟩)

theorem exists_infinite_peak : ∃ points,
    extremaOfText "1e306+1e300*abs(x)" "-50:50" = .ok points ∧
      ∃ p ∈ points, p.x.isFinite = true ∧ p.y.isFinite = false := by
  have unbounded : (extremaOfText "1e306+1e300*abs(x)" "-50:50").toOption.any
      (·.any fun p => p.x.isFinite && !p.y.isFinite) = true := by
    decide +kernel
  obtain ⟨points, made, infinite⟩ := (Option.any_eq_true _ _).mp unbounded
  obtain ⟨p, member, infinite⟩ := List.any_eq_true.mp infinite
  exact ⟨points, toOption_eq_some.mp made, p, member, by simpa using infinite⟩

theorem extrema_peak_overflows : ∃ f x y, Formula.ofText "1e306+1e300*abs(x)" = .ok f ∧
    f.eval x = .ok y ∧ y.isFinite = true ∧ ¬|quantity y| * 1000 < overflow := by
  obtain ⟨points, made, p, member, -, infinite⟩ := exists_infinite_peak
  obtain ⟨bounds, f, -, read, -, reported⟩ := (extrema_finite_iff _ _).1 points made
  obtain ⟨x, -, y, -, value, finite, -, -, -, bounded, -⟩ := reported p member
  refine ⟨f, x, y, read, value, finite, fun inside => ?_⟩
  rw [bounded.mpr inside] at infinite
  cases infinite

theorem extrema_name_infinity : ∃ points,
    extremaOfText "1e306+1e300*abs(x)" "-50:50" = .ok points ∧
      ∃ p ∈ points, p.y.isFinite = false ∧
        NamesNonFinite (Curve.coordinate p.x p.y).toList := by
  obtain ⟨points, made, p, member, finite, infinite⟩ := exists_infinite_peak
  exact ⟨points, made, p, member, infinite, (namesNonFinite_coordinate finite).mpr infinite⟩

end Extremum

end PlotMarkup
