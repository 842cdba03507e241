import Mathlib.Logic.Function.Iterate
import PlotMarkup.Proofs.Analysis.Extrema

namespace PlotMarkup.Extremum

inductive Reading where
  | slope (x : Float)
  | value (x : Float)

namespace Reading

def outcome (f : Formula) : Reading → Except Diagnostic Float
  | slope x => f.slope x
  | value x => f.eval x

def issue? (f : Formula) (reading : Reading) : Option Diagnostic :=
  match reading.outcome f with
  | .ok _ => none
  | .error issue => some issue

end Reading

def isCandidate (f : Formula) (step x : Float) : Bool :=
  match f.slope (x - step), f.slope x with
  | .ok before, .ok here => turns before here
  | _, _ => false

def readings (f : Formula) (step x : Float) : List Reading :=
  [.slope (x - step), .slope x, .slope (x + step)] ++
    if isCandidate f step x then [.slope (x + slopeStep), .value x] else []

def IsPoint (f : Formula) (x : Float) (p : Extremum) : Prop :=
  ∃ here ahead y, f.slope x = .ok here ∧ f.slope (x + slopeStep) = .ok ahead ∧ f.eval x = .ok y ∧
    p.x = Number.roundTo x places ∧ p.y = Number.roundTo y places ∧
    (0 < (ahead - here) / slopeStep → p.kind = .minimum) ∧
    (¬0 < (ahead - here) / slopeStep → p.kind = .maximum)

structure Scanned (f : Formula) (low high : Float) : Prop where
  samples_eq : samples low high =
    ((List.range 100).map fun k =>
      (· + sampleStep low high)^[k] (low + sampleStep low high)).takeWhile
        (· < high - sampleStep low high)
  length_samples_le : (samples low high).length ≤ 100
  success : (∃ points, f.extrema low high = .ok points) ↔ ∀ x ∈ samples low high,
    (∃ before, f.slope (x - sampleStep low high) = .ok before) ∧ (∃ here, f.slope x = .ok here) ∧
      (∃ beyond, f.slope (x + sampleStep low high) = .ok beyond) ∧
      (isCandidate f (sampleStep low high) x = true →
        (∃ ahead, f.slope (x + slopeStep) = .ok ahead) ∧ ∃ y, f.eval x = .ok y)
  points : ∀ points, f.extrema low high = .ok points →
    List.Forall₂ (IsPoint f) ((samples low high).filter (isCandidate f (sampleStep low high))) points
  length_points_le : ∀ points, f.extrema low high = .ok points → points.length ≤ 100
  failure : ∀ issue, f.extrema low high = .error issue ↔
    ((samples low high).flatMap (readings f (sampleStep low high))).findSome? (·.issue? f) =
      some issue

theorem samplesFrom_eq (step limit : Float) (count : Nat) (start : Float) :
    samplesFrom step limit count start =
      ((List.range count).map fun k => (· + step)^[k] start).takeWhile (· < limit) := by
  induction count generalizing start with
  | zero => rfl
  | succ count ih =>
      rw [samplesFrom, List.range_succ_eq_map, List.map_cons, List.map_map, List.takeWhile_cons, ih]
      by_cases below : start < limit <;> simp [below, Function.comp_def]

theorem length_samplesFrom_le (step limit : Float) (count : Nat) (start : Float) :
    (samplesFrom step limit count start).length ≤ count := by
  rw [samplesFrom_eq]
  refine (List.takeWhile_sublist _).length_le.trans ?_
  rw [List.length_map, List.length_range]

variable {f : Formula} {step x : Float} {xs : List Float} {points : List Extremum}
variable {issue : Diagnostic}

theorem isCandidate_iff : isCandidate f step x = true ↔ ∃ before here,
    f.slope (x - step) = .ok before ∧ f.slope x = .ok here ∧ turns before here = true := by
  unfold isCandidate
  cases f.slope (x - step) <;> cases f.slope x <;> simp

theorem Finds.not_candidate (finds : Finds f step x none) : isCandidate f step x = false := by
  cases finds with
  | straight behind middle front same => simp [isCandidate, behind, middle, same]

theorem Finds.candidate {p : Extremum} (finds : Finds f step x (some p)) :
    isCandidate f step x = true ∧ IsPoint f x p := by
  obtain ⟨before, here, ahead, y, behind, middle, after, value, opposite, rfl⟩ :=
    finds.exists_slopes
  exact ⟨isCandidate_iff.mpr ⟨before, here, behind, middle, opposite⟩, here, ahead, y, middle,
    after, value, rfl, rfl, ofCurvature_eq_minimum.mpr, ofCurvature_eq_maximum.mpr⟩

theorem forall₂_isPoint {found : List (Option Extremum)}
    (all : List.Forall₂ (Finds f step) xs found) :
    List.Forall₂ (IsPoint f) (xs.filter (isCandidate f step)) found.reduceOption := by
  induction all with
  | nil => exact .nil
  | @cons x first xs found yielded all ih =>
      cases first with
      | none =>
          have skipped := List.filter_cons_of_neg (l := xs) (Bool.eq_false_iff.mp yielded.not_candidate)
          rw [List.reduceOption_cons_of_none, skipped]
          exact ih
      | some p =>
          obtain ⟨candidate, point⟩ := yielded.candidate
          rw [List.reduceOption_cons_of_some, List.filter_cons_of_pos candidate]
          exact .cons point ih

theorem Reading.issue?_eq_none {reading : Reading} :
    reading.issue? f = none ↔ ∃ y, reading.outcome f = .ok y := by
  unfold issue?
  cases reading.outcome f <;> simp

theorem probe_eq_error : probe f step x = .error issue ↔
    (readings f step x).findSome? (·.issue? f) = some issue := by
  unfold probe readings isCandidate
  cases behind : f.slope (x - step) with
  | error e => simp [Reading.issue?, Reading.outcome, behind, bind, Except.bind]
  | ok before =>
      cases middle : f.slope x with
      | error e => simp [Reading.issue?, Reading.outcome, behind, middle, bind, Except.bind]
      | ok here =>
          cases front : f.slope (x + step) with
          | error e =>
              simp [Reading.issue?, Reading.outcome, behind, middle, front, bind, Except.bind]
          | ok beyond =>
              cases opposite : turns before here with
              | false =>
                  simp [Reading.issue?, Reading.outcome, behind, middle, front, opposite, bind,
                    Except.bind, pure, Except.pure]
              | true =>
                  cases after : f.slope (x + slopeStep) <;> cases value : f.eval x <;>
                    simp [Reading.issue?, Reading.outcome, behind, middle, front, opposite, after,
                      value, bind, Except.bind, pure, Except.pure]

theorem issues_of_probe {found : Option Extremum} (made : probe f step x = .ok found) :
    (readings f step x).findSome? (·.issue? f) = none := by
  cases first : (readings f step x).findSome? (·.issue? f) with
  | none => rfl
  | some e => rw [probe_eq_error.mpr first] at made; cases made

theorem scan_eq_error : scan f step xs = .error issue ↔
    (xs.flatMap (readings f step)).findSome? (·.issue? f) = some issue := by
  induction xs with
  | nil => simp [scan]
  | cons x rest ih =>
      rw [scan, List.flatMap_cons, List.findSome?_append, bind_eq_error, probe_eq_error,
        Option.or_eq_some_iff]
      refine or_congr_right ?_
      cases made : probe f step x with
      | error e => simp [probe_eq_error.mp made]
      | ok found =>
          simp only [issues_of_probe made, true_and, ← ih, Except.ok.injEq, exists_eq_left',
            bind_eq_error]
          simp [pure, Except.pure]

theorem exists_points_iff : (∃ points, scan f step xs = .ok points) ↔
    ∀ x ∈ xs, ∀ reading ∈ readings f step x, ∃ y, reading.outcome f = .ok y := by
  have complete : (∃ points, scan f step xs = .ok points) ↔
      (xs.flatMap (readings f step)).findSome? (·.issue? f) = none := by
    cases made : scan f step xs with
    | error issue => simp [scan_eq_error.mp made]
    | ok points =>
        cases first : (xs.flatMap (readings f step)).findSome? (·.issue? f) with
        | none => simp
        | some issue => rw [scan_eq_error.mpr first] at made; cases made
  rw [complete, List.findSome?_eq_none_iff]
  simp only [List.forall_mem_flatMap, Reading.issue?_eq_none]

theorem length_le_of_extrema {low high : Float} (scanned : f.extrema low high = .ok points) :
    points.length ≤ 100 := by
  obtain ⟨found, all, rfl⟩ := scan_eq_ok.mp scanned
  rw [← (forall₂_isPoint all).length_eq]
  exact (List.filter_sublist).length_le.trans (length_samplesFrom_le _ _ _ _)

theorem scanned (f : Formula) (low high : Float) : Scanned f low high where
  samples_eq := samplesFrom_eq _ _ _ _
  length_samples_le := length_samplesFrom_le _ _ _ _
  success := by
    rw [Formula.extrema, exists_points_iff]
    refine forall₂_congr fun x _ => ?_
    unfold readings
    cases isCandidate f (sampleStep low high) x <;> simp [Reading.outcome]
  points points made := by
    obtain ⟨found, all, rfl⟩ := scan_eq_ok.mp made
    exact forall₂_isPoint all
  length_points_le _ := length_le_of_extrema
  failure _ := scan_eq_error

end PlotMarkup.Extremum
