import PlotMarkup.Proofs.Analysis.Failure
import PlotMarkup.Proofs.Number.Limits

namespace PlotMarkup

open Number (quantity sub_pos_iff div_pos_iff_of_small)

theorem isFinite_slopeStep : slopeStep.isFinite = true := by
  decide

theorem quantity_slopeStep : quantity slopeStep = 7378697629483821 * 2 ^ (-66 : ℤ) := by
  have bits : Number.magnitude slopeStep = ⟨7378697629483821, -66⟩ := by decide
  exact Number.quantity_eq bits (by decide)

theorem slopeStep_small : 0 < quantity slopeStep ∧ quantity slopeStep ≤ 1 := by
  rw [quantity_slopeStep]
  norm_num

theorem quotient_self {y : Float} (finite : y.isFinite = true) : (y - y) / slopeStep = 0 := by
  rw [Number.sub_self_of_finite finite]
  decide

theorem quotient_pos_iff {y y' : Float} (finite : y.isFinite = true)
    (finite' : y'.isFinite = true) : 0 < (y' - y) / slopeStep ↔ y < y' := by
  rw [div_pos_iff_of_small isFinite_slopeStep slopeStep_small.1 slopeStep_small.2,
    sub_pos_iff finite' finite]

theorem Formula.slope_eq_ok {f : Formula} {x slope : Float} :
    f.slope x = .ok slope ↔ ∃ ahead here, f.eval (x + slopeStep) = .ok ahead ∧
      f.eval x = .ok here ∧ slope = (ahead - here) / slopeStep ∧ slope.isFinite = true := by
  rw [Formula.slope, bind_eq_ok]
  refine exists_congr fun ahead => ?_
  rw [bind_eq_ok, ← exists_and_left]
  refine exists_congr fun here => and_congr_right fun _ => and_congr_right fun _ => ?_
  dsimp only
  constructor
  · intro made
    split at made
    · rename_i finite
      cases made
      exact ⟨rfl, finite⟩
    · cases made
  · rintro ⟨rfl, finite⟩
    exact if_pos finite

theorem Formula.isFinite_of_slope {f : Formula} {x slope : Float} (made : f.slope x = .ok slope) :
    slope.isFinite = true := by
  obtain ⟨ahead, here, -, -, -, finite⟩ := slope_eq_ok.mp made
  exact finite

namespace Extremum

inductive Finds (f : Formula) (step x : Float) : Option Extremum → Prop
  | straight {before here beyond : Float} (behind : f.slope (x - step) = .ok before)
      (middle : f.slope x = .ok here) (front : f.slope (x + step) = .ok beyond)
      (same : turns before here = false) : Finds f step x none
  | turning {before here beyond ahead y : Float} (behind : f.slope (x - step) = .ok before)
      (middle : f.slope x = .ok here) (front : f.slope (x + step) = .ok beyond)
      (opposite : turns before here = true) (after : f.slope (x + slopeStep) = .ok ahead)
      (value : f.eval x = .ok y) :
      Finds f step x (some {
        x := Number.roundTo x places
        y := Number.roundTo y places
        kind := .ofCurvature ((ahead - here) / slopeStep) })

variable {f : Formula} {step x : Float} {xs : List Float} {points : List Extremum}

theorem probe_eq_ok {found : Option Extremum} :
    probe f step x = .ok found ↔ Finds f step x found := by
  constructor
  · intro made
    rw [probe, bind_eq_ok] at made
    obtain ⟨before, behind, made⟩ := made
    rw [bind_eq_ok] at made
    obtain ⟨here, middle, made⟩ := made
    rw [bind_eq_ok] at made
    obtain ⟨beyond, front, made⟩ := made
    split at made
    · rename_i opposite
      rw [bind_eq_ok] at made
      obtain ⟨ahead, after, made⟩ := made
      rw [bind_eq_ok] at made
      obtain ⟨y, value, made⟩ := made
      cases made
      exact .turning behind middle front opposite after value
    · rename_i same
      cases made
      exact .straight behind middle front (Bool.eq_false_iff.mpr same)
  · intro finds
    cases finds with
    | straight behind middle front same =>
        rw [probe, behind, middle, front]
        exact if_neg (Bool.eq_false_iff.mp same)
    | turning behind middle front opposite after value =>
        rw [probe, behind, middle, front]
        refine (if_pos opposite).trans ?_
        rw [after, value]
        rfl

theorem scan_eq_ok : scan f step xs = .ok points ↔
    ∃ found, List.Forall₂ (Finds f step) xs found ∧ points = found.reduceOption := by
  induction xs generalizing points with
  | nil =>
      simp only [scan, Except.ok.injEq, List.forall₂_nil_left_iff, exists_eq_left, eq_comm]
      rfl
  | cons x rest ih =>
      rw [scan, bind_eq_ok]
      constructor
      · rintro ⟨first, yielded, made⟩
        obtain ⟨others, scanned, made⟩ := bind_eq_ok.mp made
        obtain ⟨found, all, rfl⟩ := ih.mp scanned
        cases made
        refine ⟨first :: found, .cons (probe_eq_ok.mp yielded) all, ?_⟩
        cases first <;> rfl
      · rintro ⟨found, all, rfl⟩
        cases all with
        | @cons _ first _ found yielded all =>
            refine ⟨first, probe_eq_ok.mpr yielded, ?_⟩
            rw [ih.mpr ⟨found, all, rfl⟩]
            cases first <;> rfl

theorem Finds.unique {found found' : Option Extremum} (finds : Finds f step x found)
    (finds' : Finds f step x found') : found = found' :=
  Except.ok.inj ((probe_eq_ok.mpr finds).symm.trans (probe_eq_ok.mpr finds'))

theorem Finds.exists_slopes {p : Extremum} (finds : Finds f step x (some p)) :
    ∃ before here ahead y, f.slope (x - step) = .ok before ∧ f.slope x = .ok here ∧
      f.slope (x + slopeStep) = .ok ahead ∧ f.eval x = .ok y ∧ turns before here = true ∧
        p = ⟨Number.roundTo x places, Number.roundTo y places,
          .ofCurvature ((ahead - here) / slopeStep)⟩ := by
  cases finds with
  | turning behind middle front opposite after value =>
      exact ⟨_, _, _, _, behind, middle, after, value, opposite, rfl⟩

theorem mem_reduceOption {found : List (Option Extremum)}
    (all : List.Forall₂ (Finds f step) xs found) {p : Extremum} :
    p ∈ found.reduceOption ↔ ∃ x ∈ xs, Finds f step x (some p) := by
  rw [List.reduceOption_mem_iff]
  induction all with
  | nil => simp
  | @cons x first xs found yielded all ih =>
      have head : some p = first ↔ Finds f step x (some p) :=
        ⟨fun same => same ▸ yielded, fun finds => finds.unique yielded⟩
      rw [List.mem_cons, List.exists_mem_cons_iff, ih, head]

theorem mem_extrema {low high : Float} (scanned : f.extrema low high = .ok points) {p : Extremum} :
    p ∈ points ↔ ∃ x ∈ samples low high, Finds f (sampleStep low high) x (some p) := by
  obtain ⟨found, all, rfl⟩ := scan_eq_ok.mp scanned
  exact mem_reduceOption all

theorem exists_finds {low high : Float} (scanned : f.extrema low high = .ok points) :
    ∀ x ∈ samples low high, ∃ found, Finds f (sampleStep low high) x found := by
  obtain ⟨found, all, -⟩ := scan_eq_ok.mp scanned
  have each := all.imp fun x first finds => And.intro (Exists.intro first finds) finds
  exact ((List.forall₂_and_left _ _).mp each).1

theorem turns_iff {before here : Float} :
    turns before here = true ↔ before < 0 ∧ 0 < here ∨ 0 < before ∧ here < 0 := by
  simp [turns]

theorem ofCurvature_eq_minimum {second : Float} :
    Kind.ofCurvature second = .minimum ↔ 0 < second := by
  unfold Kind.ofCurvature
  split <;> simp_all

theorem ofCurvature_eq_maximum {second : Float} :
    Kind.ofCurvature second = .maximum ↔ ¬0 < second := by
  unfold Kind.ofCurvature
  split <;> simp_all

/--
The reported points are those of the samples where the slope changes its sign.  Whichever way it
does, the point is a minimum if the slope right after the sample exceeds the slope at it, and else a
maximum.
-/
theorem kinds_of_extrema {low high : Float} (scanned : f.extrema low high = .ok points) :
    (∀ p, p ∈ points ↔
      ∃ x ∈ samples low high, probe f (sampleStep low high) x = .ok (some p)) ∧
    ∀ x p, probe f (sampleStep low high) x = .ok (some p) →
      ∃ before here ahead, f.slope (x - sampleStep low high) = .ok before ∧
        f.slope x = .ok here ∧ f.slope (x + slopeStep) = .ok ahead ∧
        (before < 0 ∧ 0 < here ∨ 0 < before ∧ here < 0) ∧
        (before < 0 ∧ 0 < here → (p.kind = .minimum ↔ here < ahead)) ∧
        (0 < before ∧ here < 0 → (p.kind = .maximum ↔ ¬here < ahead)) := by
  constructor
  · intro p
    simp only [probe_eq_ok]
    exact mem_extrema scanned
  · intro x p found
    obtain ⟨before, here, ahead, y, behind, middle, after, -, opposite, rfl⟩ :=
      (probe_eq_ok.mp found).exists_slopes
    have kind := quotient_pos_iff (f.isFinite_of_slope middle) (f.isFinite_of_slope after)
    refine ⟨before, here, ahead, behind, middle, after, turns_iff.mp opposite, fun _ => ?_,
      fun _ => ?_⟩
    · rw [ofCurvature_eq_minimum, kind]
    · rw [ofCurvature_eq_maximum, kind]

def absolute : Formula :=
  ⟨"abs(x)", .call .abs .var⟩

theorem extrema_absolute : absolute.extrema (-50) 50 = .ok [⟨0, 0, .maximum⟩] :=
  toOption_eq_some.mp (by decide +kernel)

theorem probe_absolute :
    probe absolute (sampleStep (-50) 50) 0 = .ok (some ⟨0, 0, .maximum⟩) :=
  toOption_eq_some.mp (by decide +kernel)

theorem slope_absolute : absolute.slope 0 = .ok 1 :=
  toOption_eq_some.mp (by decide)

theorem kinds_of_extrema_absolute : ∃ points, absolute.extrema (-50) 50 = .ok points ∧
    (∀ p, p ∈ points ↔
      ∃ x ∈ samples (-50) 50, probe absolute (sampleStep (-50) 50) x = .ok (some p)) ∧
    ∃ before ahead, absolute.slope (0 - sampleStep (-50) 50) = .ok before ∧
      absolute.slope (0 + slopeStep) = .ok ahead ∧ before < 0 ∧ ¬1 < ahead := by
  obtain ⟨members, kinds⟩ := kinds_of_extrema extrema_absolute
  obtain ⟨before, here, ahead, behind, middle, after, opposite, up, down⟩ :=
    kinds 0 _ probe_absolute
  obtain rfl : here = 1 := Except.ok.inj (middle.symm.trans slope_absolute)
  rcases opposite with ⟨falling, rising⟩ | ⟨-, falling⟩
  · have same := up ⟨falling, rising⟩
    refine ⟨_, extrema_absolute, members, before, ahead, behind, after, falling, fun further => ?_⟩
    cases same.mpr further
  · exact absurd falling (by decide)

theorem maximum_where_slope_rises : Formula.ofText "abs(x)" = .ok absolute ∧
    (∃ points, absolute.extrema (-50) 50 = .ok points ∧ ⟨0, 0, .maximum⟩ ∈ points) ∧
    0 ∈ samples (-50) 50 ∧
    probe absolute (sampleStep (-50) 50) 0 = .ok (some ⟨0, 0, .maximum⟩) ∧
    ∃ before here, absolute.slope (0 - sampleStep (-50) 50) = .ok before ∧
      absolute.slope 0 = .ok here ∧ before < 0 ∧ 0 < here := by
  obtain ⟨before, here, -, -, behind, middle, -, -, opposite, -⟩ :=
    (probe_eq_ok.mp probe_absolute).exists_slopes
  obtain rfl : here = 1 := Except.ok.inj (middle.symm.trans slope_absolute)
  have sampled : (samples (-50) 50)[49]? = some 0 := by decide
  refine ⟨by cbv, ⟨_, extrema_absolute, List.mem_singleton_self _⟩,
    List.mem_of_getElem? sampled, probe_absolute, before, 1, behind, middle, ?_⟩
  rcases turns_iff.mp opposite with rises | ⟨-, falling⟩
  · exact rises
  · exact absurd falling (by decide)

end Extremum

end PlotMarkup
