import PlotMarkup.Proofs.Analysis.Samples
import PlotMarkup.Proofs.Analysis.Scan

/-!
# How far a scan reaches

A scan evaluates its formula one step before and after each sample, and there, at the sample and
after candidates a fixed step further to the right.  These arguments can lie outside the domain, by
the rounding of the first sample on the left, and by no more than two fixed steps on the right
(`reaches`).
-/

namespace PlotMarkup

open Number (le_chain sum_le_sum le_sum difference_le difference_le_difference)

namespace Extremum

/-! ## The arguments of a scan -/

def slopeArguments (f : Formula) (x : Float) : List Float :=
  match f.eval (x + slopeStep) with
  | .ok _ => [x + slopeStep, x]
  | .error _ => [x + slopeStep]

def Reading.arguments (f : Formula) : Reading → List Float
  | slope x => slopeArguments f x
  | value x => [x]

/-- Where the formula is evaluated for readings in turn, up to the first of them that fails. -/
def trace (f : Formula) : List Reading → List Float
  | [] => []
  | reading :: rest =>
      reading.arguments f ++
        match reading.outcome f with
        | .ok _ => trace f rest
        | .error _ => []

def arguments (f : Formula) (low high : Float) : List Float :=
  trace f ((samples low high).flatMap (readings f (sampleStep low high)))

def quotientFailure (f : Formula) (x : Float) : Diagnostic :=
  f.failure ("derivative is not finite at x = " ++ Number.message x)

variable {f g : Formula} {low high step x y : Float} {rs rs' : List Reading} {issue : Diagnostic}

theorem mem_trace (member : y ∈ trace f rs) : ∃ reading ∈ rs, y ∈ reading.arguments f := by
  induction rs with
  | nil => cases member
  | cons reading rest ih =>
      rw [trace, List.mem_append] at member
      rcases member with here | later
      · exact ⟨reading, List.mem_cons_self, here⟩
      · split at later
        · obtain ⟨reading', inside, argument⟩ := ih later
          exact ⟨reading', List.mem_cons_of_mem _ inside, argument⟩
        · cases later

theorem trace_of_ok (ok : ∀ reading ∈ rs, ∃ y, reading.outcome f = .ok y) :
    trace f rs = rs.flatMap (·.arguments f) := by
  induction rs with
  | nil => rfl
  | cons reading rest ih =>
      obtain ⟨⟨y, made⟩, others⟩ := List.forall_mem_cons.mp ok
      rw [trace, made, List.flatMap_cons, ih others]

theorem mem_slopeArguments (member : y ∈ slopeArguments f x) : y = x + slopeStep ∨ y = x := by
  unfold slopeArguments at member
  split at member
  · simpa using member
  · exact .inl (List.mem_singleton.mp member)

theorem slope_failure (failed : f.slope x = .error issue) :
    (∃ y ∈ slopeArguments f x, f.eval y = .error issue) ∨ issue = quotientFailure f x := by
  rw [Formula.slope, bind_eq_error] at failed
  unfold slopeArguments
  rcases failed with failed | ⟨ahead, made, failed⟩
  · rw [failed]
    exact .inl ⟨_, List.mem_singleton_self _, failed⟩
  · rw [made]
    rcases bind_eq_error.mp failed with failed | ⟨here, made', failed⟩
    · exact .inl ⟨x, List.mem_cons_of_mem _ (List.mem_singleton_self x), failed⟩
    · dsimp only at failed
      split at failed
      · cases failed
      · cases failed
        exact .inr rfl

theorem trace_failure (failed : rs.findSome? (·.issue? f) = some issue) :
    (∃ y ∈ trace f rs, f.eval y = .error issue) ∨ ∃ x, issue = quotientFailure f x := by
  induction rs with
  | nil => cases failed
  | cons reading rest ih =>
      rw [List.findSome?_cons] at failed
      cases made : reading.outcome f with
      | ok y =>
          have silent : reading.issue? f = none := Reading.issue?_eq_none.mpr ⟨y, made⟩
          rw [silent] at failed
          refine (ih failed).imp_left fun ⟨y, member, failed⟩ => ⟨y, ?_, failed⟩
          rw [trace, made]
          exact List.mem_append_right _ member
      | error e =>
          have first : reading.issue? f = some e := by
            rw [Reading.issue?, made]
          rw [first] at failed
          cases failed
          cases reading with
          | slope x =>
              refine (slope_failure made).imp ?_ (fun same => ⟨x, same⟩)
              rintro ⟨y, member, failed⟩
              exact ⟨y, List.mem_append_left _ member, failed⟩
          | value x => exact .inl ⟨x, List.mem_append_left _ (List.mem_singleton_self x), made⟩

/-! ## Nothing but the arguments matters -/

theorem slope_congr (source : g.source = f.source)
    (agree : ∀ y ∈ slopeArguments f x, g.eval y = f.eval y) : g.slope x = f.slope x := by
  unfold slopeArguments at agree
  cases made : f.eval (x + slopeStep) with
  | error e =>
      rw [made] at agree
      rw [Formula.slope, Formula.slope, agree _ (List.mem_singleton_self _), made]
      rfl
  | ok ahead =>
      rw [made] at agree
      rw [Formula.slope, Formula.slope, agree (x + slopeStep) (by simp), agree x (by simp)]
      simp only [Formula.failure, source]

theorem probe_congr (source : g.source = f.source)
    (agree : ∀ y ∈ trace f (readings f step x), g.eval y = f.eval y) :
    probe g step x = probe f step x := by
  have first : g.slope (x - step) = f.slope (x - step) := slope_congr source fun y member =>
    agree y (by simp [readings, trace, Reading.arguments, member])
  unfold probe
  rw [first]
  cases behind : f.slope (x - step) with
  | error e => rfl
  | ok before =>
      have second : g.slope x = f.slope x := slope_congr source fun y member =>
        agree y (by simp [readings, trace, Reading.arguments, Reading.outcome, behind, member])
      rw [second]
      cases middle : f.slope x with
      | error e => rfl
      | ok here =>
          have third : g.slope (x + step) = f.slope (x + step) := slope_congr source fun y member =>
            agree y (by
              simp [readings, trace, Reading.arguments, Reading.outcome, behind, middle, member])
          rw [third]
          cases front : f.slope (x + step) with
          | error e => rfl
          | ok beyond =>
              cases opposite : turns before here with
              | false => simp [bind, Except.bind, opposite]
              | true =>
                  have fourth : g.slope (x + slopeStep) = f.slope (x + slopeStep) :=
                    slope_congr source fun y member => agree y (by
                      simp [readings, trace, Reading.arguments, Reading.outcome, isCandidate,
                        behind, middle, front, opposite, member])
                  rw [fourth]
                  cases after : f.slope (x + slopeStep) with
                  | error e => simp [bind, Except.bind, opposite]
                  | ok ahead =>
                      have value : g.eval x = f.eval x := agree x (by
                        simp [readings, trace, Reading.arguments, Reading.outcome, isCandidate,
                          behind, middle, front, opposite, after])
                      rw [value]

theorem trace_append_of_ok (ok : ∀ reading ∈ rs, ∃ y, reading.outcome f = .ok y) :
    trace f (rs ++ rs') = trace f rs ++ trace f rs' := by
  induction rs with
  | nil => rfl
  | cons reading rest ih =>
      obtain ⟨⟨y, made⟩, others⟩ := List.forall_mem_cons.mp ok
      rw [List.cons_append, trace, trace, made, ih others, List.append_assoc]

theorem mem_trace_append (member : y ∈ trace f rs) : y ∈ trace f (rs ++ rs') := by
  induction rs with
  | nil => cases member
  | cons reading rest ih =>
      rw [trace, List.mem_append] at member
      rw [List.cons_append, trace, List.mem_append]
      refine member.imp_right fun later => ?_
      split at later
      · exact ih later
      · cases later

theorem outcome_of_probe {found : Option Extremum} (made : probe f step x = .ok found) :
    ∀ reading ∈ readings f step x, ∃ y, reading.outcome f = .ok y := by
  have silent := List.findSome?_eq_none_iff.mp (issues_of_probe made)
  exact fun reading member => Reading.issue?_eq_none.mp (silent reading member)

theorem scan_congr {xs : List Float} (source : g.source = f.source)
    (agree : ∀ y ∈ trace f (xs.flatMap (readings f step)), g.eval y = f.eval y) :
    scan g step xs = scan f step xs := by
  induction xs with
  | nil => rfl
  | cons x rest ih =>
      rw [List.flatMap_cons] at agree
      rw [scan, scan, probe_congr source fun y member => agree y (mem_trace_append member)]
      cases made : probe f step x with
      | error e => rfl
      | ok found =>
          rw [trace_append_of_ok (outcome_of_probe made)] at agree
          rw [ih fun y member => agree y (List.mem_append_right _ member)]

/-! ## Between the ends -/

theorem slopeArguments_between {a b : Float} (member : y ∈ slopeArguments f x) (above : a ≤ x)
    (below : x ≤ b) : a ≤ y ∧ y ≤ b + slopeStep := by
  have numbers := Number.isNaN_of_le below
  have nonneg := slopeStep_small.1.le
  rcases mem_slopeArguments member with rfl | rfl
  · exact ⟨le_chain above (le_sum isFinite_slopeStep nonneg numbers.1),
      sum_le_sum isFinite_slopeStep below⟩
  · exact ⟨above, le_chain below (le_sum isFinite_slopeStep nonneg numbers.2)⟩

theorem mem_readings {reading : Reading} (member : reading ∈ readings f step x) :
    (reading = .slope (x - step) ∨ reading = .slope x ∨ reading = .slope (x + step)) ∨
      isCandidate f step x = true ∧ (reading = .slope (x + slopeStep) ∨ reading = .value x) := by
  unfold readings at member
  cases candidate : isCandidate f step x <;> simpa [candidate, or_assoc] using member

theorem reading_between {reading : Reading} (steady : Steady low high)
    (spaced : Spaced low high x) (member : reading ∈ readings f (sampleStep low high) x)
    (argument : y ∈ reading.arguments f) :
    x - sampleStep low high ≤ y ∧ (y ≤ x + sampleStep low high + slopeStep ∨
      isCandidate f (sampleStep low high) x = true ∧ y ≤ x + slopeStep + slopeStep) := by
  have number := Number.isNaN_of_isFinite spaced.finite
  have before := difference_le steady.finite steady.nonneg number
  have after := le_sum steady.finite steady.nonneg number
  have further := le_sum isFinite_slopeStep slopeStep_small.1.le number
  have itself {z : Float} (number : z.isNaN = false) := Number.le_refl_of_number number
  have ends := Number.isNaN_of_le before
  have ends' := Number.isNaN_of_le after
  rcases mem_readings member with (rfl | rfl | rfl) | ⟨candidate, rfl | rfl⟩
  · obtain ⟨above, below⟩ :=
      slopeArguments_between argument (itself ends.1) (le_chain before after)
    exact ⟨above, .inl below⟩
  · obtain ⟨above, below⟩ := slopeArguments_between argument before after
    exact ⟨above, .inl below⟩
  · obtain ⟨above, below⟩ :=
      slopeArguments_between argument (le_chain before after) (itself ends'.2)
    exact ⟨above, .inl below⟩
  · obtain ⟨above, below⟩ := slopeArguments_between argument (le_chain before further)
      (itself (Number.isNaN_of_le further).2)
    exact ⟨above, .inr ⟨candidate, below⟩⟩
  · obtain rfl : y = x := List.mem_singleton.mp argument
    exact ⟨before, .inl (le_chain after
      (le_sum isFinite_slopeStep slopeStep_small.1.le ends'.2))⟩

section

variable (proper : Domain.Proper low high)
include proper

theorem exists_sample (member : y ∈ arguments f low high) :
    ∃ x ∈ samples low high, low + sampleStep low high - sampleStep low high ≤ y ∧
      (y ≤ x + sampleStep low high + slopeStep ∨
        isCandidate f (sampleStep low high) x = true ∧ y ≤ x + slopeStep + slopeStep) := by
  obtain ⟨reading, asked, argument⟩ := mem_trace member
  obtain ⟨x, sample, asked⟩ := List.mem_flatMap.mp asked
  obtain ⟨steady, spaced⟩ := spaced_of_mem proper sample
  obtain ⟨above, below⟩ := reading_between steady spaced asked argument
  have first : low + sampleStep low high ≤ x :=
    (Number.le_iff steady.first spaced.finite).mpr spaced.above
  exact ⟨x, sample, le_chain (difference_le_difference steady.finite first) above, below⟩

theorem between_of_mem (member : y ∈ arguments f low high) :
    low + sampleStep low high - sampleStep low high ≤ y ∧
      y ≤ high + slopeStep + slopeStep := by
  obtain ⟨x, sample, above, below⟩ := exists_sample proper member
  obtain ⟨steady, spaced⟩ := spaced_of_mem proper sample
  have step := isFinite_slopeStep
  have nonneg := slopeStep_small.1.le
  have fits : x + sampleStep low high ≤ high := (Number.rounds_add spaced.finite steady.finite).le
    (Number.rounds_quantity proper.finite') spaced.fits
  refine ⟨above, ?_⟩
  rcases below with below | ⟨-, below⟩
  · have once : y ≤ high + slopeStep := le_chain below (sum_le_sum step fits)
    exact le_chain once (le_sum step nonneg (Number.isNaN_of_le once).2)
  · have after : x ≤ high := le_chain
      (le_sum steady.finite steady.nonneg (Number.isNaN_of_isFinite spaced.finite)) fits
    exact le_chain below (sum_le_sum step (sum_le_sum step after))

theorem inside_of_ends (left : low ≤ low + sampleStep low high - sampleStep low high)
    (right : ∀ last ∈ (samples low high).getLast?, last + sampleStep low high + slopeStep ≤ high ∧
      last + slopeStep + slopeStep ≤ high)
    (member : y ∈ arguments f low high) : low ≤ y ∧ y ≤ high := by
  obtain ⟨x, sample, above, below⟩ := exists_sample proper member
  obtain ⟨steady, spaced⟩ := spaced_of_mem proper sample
  refine ⟨le_chain left above, ?_⟩
  obtain ⟨last, ends⟩ := Option.isSome_iff_exists.mp
    (List.getLast?_isSome.mpr (List.ne_nil_of_mem sample))
  obtain ⟨-, spaced'⟩ := spaced_of_mem proper (List.mem_of_getLast? ends)
  have before : x ≤ last :=
    (Number.le_iff spaced.finite spaced'.finite).mpr (le_last proper ends sample)
  obtain ⟨right, right'⟩ := right last ends
  have step := isFinite_slopeStep
  rcases below with below | ⟨-, below⟩
  · exact le_chain below (le_chain (sum_le_sum step (sum_le_sum steady.finite before)) right)
  · exact le_chain below (le_chain (sum_le_sum step (sum_le_sum step before)) right')

end

section

variable {points : List Extremum} (scanned : f.extrema low high = .ok points)
include scanned

theorem mem_arguments_of_ok {reading : Reading} (sample : x ∈ samples low high)
    (asked : reading ∈ readings f (sampleStep low high) x) (argument : y ∈ reading.arguments f) :
    y ∈ arguments f low high := by
  have ok := exists_points_iff.mp ⟨points, scanned⟩
  rw [arguments, trace_of_ok (List.forall_mem_flatMap.mpr ok)]
  exact List.mem_flatMap.mpr ⟨reading, List.mem_flatMap.mpr ⟨x, sample, asked⟩, argument⟩

theorem slopeArguments_of_ok (z : Float) (sample : x ∈ samples low high)
    (asked : .slope z ∈ readings f (sampleStep low high) x) :
    z ∈ arguments f low high ∧ z + slopeStep ∈ arguments f low high := by
  obtain ⟨slope, made⟩ := exists_points_iff.mp ⟨points, scanned⟩ x sample _ asked
  obtain ⟨ahead, here, made', -⟩ := Formula.slope_eq_ok.mp made
  have both : slopeArguments f z = [z + slopeStep, z] := by rw [slopeArguments, made']
  have inside (y : Float) (member : y ∈ slopeArguments f z) :=
    mem_arguments_of_ok scanned sample asked member
  exact ⟨inside z (by simp [both]), inside _ (by simp [both])⟩

theorem inside_iff (proper : Domain.Proper low high) {last : Float}
    (ends : last ∈ (samples low high).getLast?) :
    (∀ y ∈ arguments f low high, low ≤ y ∧ y ≤ high) ↔
      low ≤ low + sampleStep low high - sampleStep low high ∧
      last + sampleStep low high + slopeStep ≤ high ∧
      ∀ x ∈ samples low high, isCandidate f (sampleStep low high) x = true →
        x + slopeStep + slopeStep ≤ high := by
  have final := List.mem_of_getLast? ends
  constructor
  · intro inside
    have first := slopeArguments_of_ok scanned
      (low + sampleStep low high - sampleStep low high) (first_mem final) (by simp [readings])
    have front := slopeArguments_of_ok scanned
      (last + sampleStep low high) final (by simp [readings])
    refine ⟨(inside _ first.1).1, (inside _ front.2).2, fun x sample candidate => ?_⟩
    have after := slopeArguments_of_ok scanned (x + slopeStep) sample
      (by simp [readings, candidate])
    exact (inside _ after.2).2
  · rintro ⟨left, right, turning⟩ y member
    obtain ⟨x, sample, above, below⟩ := exists_sample proper member
    obtain ⟨steady, spaced⟩ := spaced_of_mem proper sample
    obtain ⟨-, spaced'⟩ := spaced_of_mem proper final
    have before : x ≤ last :=
      (Number.le_iff spaced.finite spaced'.finite).mpr (le_last proper ends sample)
    refine ⟨le_chain left above, ?_⟩
    rcases below with below | ⟨candidate, below⟩
    · exact le_chain below
        (le_chain (sum_le_sum isFinite_slopeStep (sum_le_sum steady.finite before)) right)
    · exact le_chain below (turning x sample candidate)

end

/-! ## What a scan reaches -/

structure Reaches (f : Formula) (low high : Float) : Prop where
  determined : ∀ g : Formula, g.source = f.source →
    (∀ x ∈ arguments f low high, g.eval x = f.eval x) → g.extrema low high = f.extrema low high
  between : ∀ x ∈ arguments f low high,
    low + sampleStep low high - sampleStep low high ≤ x ∧ x ≤ high + slopeStep + slopeStep
  inside : low ≤ low + sampleStep low high - sampleStep low high →
    (∀ last ∈ (samples low high).getLast?, last + sampleStep low high + slopeStep ≤ high ∧
      last + slopeStep + slopeStep ≤ high) →
    ∀ x ∈ arguments f low high, low ≤ x ∧ x ≤ high
  inside_iff : ∀ points, f.extrema low high = .ok points →
    ∀ last ∈ (samples low high).getLast?,
      ((∀ x ∈ arguments f low high, low ≤ x ∧ x ≤ high) ↔
        low ≤ low + sampleStep low high - sampleStep low high ∧
        last + sampleStep low high + slopeStep ≤ high ∧
        ∀ x ∈ samples low high, isCandidate f (sampleStep low high) x = true →
          x + slopeStep + slopeStep ≤ high)
  failure : ∀ issue, f.extrema low high = .error issue →
    (∃ x ∈ arguments f low high, f.eval x = .error issue) ∨ ∃ x, issue = quotientFailure f x
  total : (∀ x, low + sampleStep low high - sampleStep low high ≤ x →
      x ≤ high + slopeStep + slopeStep → ∃ y, f.eval x = .ok y) →
    ∀ issue, f.extrema low high = .error issue → ∃ x, issue = quotientFailure f x
  total_inside : low ≤ low + sampleStep low high - sampleStep low high →
    (∀ last ∈ (samples low high).getLast?, last + sampleStep low high + slopeStep ≤ high ∧
      last + slopeStep + slopeStep ≤ high) →
    (∀ x, low ≤ x → x ≤ high → ∃ y, f.eval x = .ok y) →
    ∀ issue, f.extrema low high = .error issue → ∃ x, issue = quotientFailure f x

theorem quotientFailure_of_values (values : ∀ x ∈ arguments f low high, ∃ y, f.eval x = .ok y)
    (failed : f.extrema low high = .error issue) : ∃ x, issue = quotientFailure f x := by
  rcases trace_failure (scan_eq_error.mp failed) with ⟨x, member, failed⟩ | quotient
  · obtain ⟨y, made⟩ := values x member
    rw [made] at failed
    cases failed
  · exact quotient

theorem reaches {text : String} {domain : Domain} (read : Domain.ofText text = .ok domain)
    (f : Formula) : Reaches f domain.low domain.high where
  determined _ source agree := scan_congr source agree
  between _ member := between_of_mem (Domain.proper_of_ofText read) member
  inside left right _ member := inside_of_ends (Domain.proper_of_ofText read) left right member
  inside_iff _ scanned _ ends := inside_iff scanned (Domain.proper_of_ofText read) ends
  failure _ failed := trace_failure (scan_eq_error.mp failed)
  total values _ failed := by
    refine quotientFailure_of_values (fun x member => ?_) failed
    obtain ⟨above, below⟩ := between_of_mem (Domain.proper_of_ofText read) member
    exact values x above below
  total_inside left right values _ failed := by
    refine quotientFailure_of_values (fun x member => ?_) failed
    obtain ⟨above, below⟩ := inside_of_ends (Domain.proper_of_ofText read) left right member
    exact values x above below

theorem reaches_absolute : Domain.ofText "-50:50" = .ok ⟨-50, 50⟩ ∧
    ∀ x ∈ arguments absolute (-50) 50, -50 ≤ x ∧ x ≤ 50 := by
  have read : Domain.ofText "-50:50" = .ok ⟨-50, 50⟩ := toOption_eq_some.mp (by decide +kernel)
  have last : (samples (-50) 50).getLast? = some 48 := by decide +kernel
  refine ⟨read, (reaches read absolute).inside (by decide +kernel) fun x ends => ?_⟩
  obtain rfl : 48 = x := by simpa [last] using ends
  decide +kernel

theorem exists_argument_beyond : Domain.ofText Curve.defaultDomain = .ok ⟨-10, 10⟩ ∧
    ∀ (f : Formula) (points : List Extremum), f.extrema (-10) 10 = .ok points →
      ∃ x ∈ arguments f (-10) 10, ¬x ≤ 10 := by
  have last : (samples (-10) 10).getLast? = some 9.799999999999995 := by decide +kernel
  refine ⟨toOption_eq_some.mp (by decide +kernel), fun f points scanned => ?_⟩
  by_contra! inside
  have fits : (9.799999999999995 : Float) + sampleStep (-10) 10 + slopeStep ≤ 10 :=
    inside _ (slopeArguments_of_ok scanned (9.799999999999995 + sampleStep (-10) 10)
      (List.mem_of_getLast? last) (by simp [readings])).2
  exact absurd fits (by decide +kernel)

/-! ## A narrow domain -/

def hyperbola : Formula :=
  ⟨"1/(x-0.0001)", .binary (.number 1) .div (.binary .var .sub (.number slopeStep))⟩

theorem quantity_half_step : Number.quantity 0.00005 = 7378697629483821 * 2 ^ (-67 : ℤ) := by
  have bits : Number.magnitude 0.00005 = ⟨7378697629483821, -67⟩ := by decide +kernel
  exact Number.quantity_eq bits (by decide +kernel)

theorem hyperbola_values {x : Float} (above : 0 ≤ x) (below : x ≤ 0.00005) :
    ∃ y, hyperbola.eval x = .ok y := by
  have finite := Number.isFinite_of_between above below (by decide) (by decide +kernel)
  have bottom := difference_le_difference isFinite_slopeStep above
  have top := difference_le_difference isFinite_slopeStep below
  have finite' := Number.isFinite_of_between bottom top (by decide +kernel) (by decide +kernel)
  have distance : (0.00005 : Float) - slopeStep = -0.00005 := by decide +kernel
  have apart : 2 ^ (-15 : ℤ) ≤ -Number.quantity (x - slopeStep) := by
    rw [distance, Number.le_iff finite' (by decide +kernel), Number.quantity_neg (by decide +kernel),
      quantity_half_step] at top
    refine le_trans ?_ (le_neg_of_le_neg top)
    norm_num
  have negative : Number.quantity (x - slopeStep) < 0 := by
    have : (0 : ℚ) < 2 ^ (-15 : ℤ) := by positivity
    linarith
  have one : Float.isFinite 1 = true := by decide
  have quotient := Number.rounds_div one finite' negative.ne
  have small : |Number.quantity 1 / Number.quantity (x - slopeStep)| < Number.overflow := by
    rw [Number.quantity_one, abs_div, abs_one, abs_of_neg negative]
    calc 1 / -Number.quantity (x - slopeStep) ≤ 1 / 2 ^ (-15 : ℤ) :=
          one_div_le_one_div_of_le (by positivity) apart
      _ < 2 ^ 53 - 1 / 2 := by norm_num
      _ ≤ (2 ^ 53 - 1 / 2) * 2 ^ (971 : ℤ) :=
          le_mul_of_one_le_right (by norm_num) (one_le_zpow₀ one_le_two (by norm_num))
      _ = Number.overflow := Number.overflow_eq.symm
  refine ⟨1 / (x - slopeStep), Formula.eval_eq_ok.mpr (Expr.eval_of_finite ?_)⟩
  have nodes : hyperbola.expr.postorder = [.number 1, .var, .number slopeStep,
    .binary .var .sub (.number slopeStep), hyperbola.expr] := rfl
  simp only [nodes, List.forall_mem_cons, List.not_mem_nil, false_implies, implies_true, and_true]
  exact ⟨one, finite, isFinite_slopeStep, finite', quotient.isFinite_iff.mpr small⟩

theorem scan_leaves_domain : Domain.ofText "0:0.00005" = .ok ⟨0, 0.00005⟩ ∧
    Formula.ofText "1/(x-0.0001)" = .ok hyperbola ∧
    (∀ x, 0 ≤ x → x ≤ 0.00005 → ∃ y, hyperbola.eval x = .ok y) ∧
    (∃ x ∈ arguments hyperbola 0 0.00005, ¬(0 ≤ x ∧ x ≤ 0.00005)) ∧
    ∃ issue, hyperbola.extrema 0 0.00005 = .error issue ∧ issue.kind = .evaluationError := by
  have outside : (arguments hyperbola 0 0.00005).any (fun x => !decide (x ≤ 0.00005)) = true := by
    decide +kernel
  obtain ⟨x, member, beyond⟩ := List.any_eq_true.mp outside
  have failed : (hyperbola.extrema 0 0.00005).isOk = false := by decide +kernel
  obtain ⟨issue, failed⟩ := exists_of_not_isOk failed
  refine ⟨toOption_eq_some.mp (by decide +kernel), toOption_eq_some.mp (by decide +kernel),
    fun x above below => hyperbola_values above below, ⟨x, member, fun inside => ?_⟩,
    issue, failed, Formula.kind_of_extrema failed⟩
  simp [inside.2] at beyond

/-! ## A steep line -/

def precipice : Formula :=
  ⟨"x/1e-310", .binary .var .div (.number 1e-310)⟩

theorem precipice_values {x : Float} (above : -0.008 ≤ x) (below : x ≤ 0.008) :
    ∃ y, precipice.eval x = .ok y := by
  have small : Float.isFinite 0.008 = true := by decide +kernel
  have finite := Number.isFinite_of_between above below (by decide +kernel) small
  have bound : Number.quantity 0.008 = 4611686018427388 * 2 ^ (-59 : ℤ) :=
    Number.quantity_eq (v := ⟨4611686018427388, -59⟩) (by decide +kernel) (by decide +kernel)
  have divisor : Number.quantity 1e-310 = 20240225330731 * 2 ^ (-1074 : ℤ) :=
    Number.quantity_eq (v := ⟨20240225330731, -1074⟩) (by decide +kernel) (by decide +kernel)
  rw [Number.le_iff (by decide +kernel) finite, Number.quantity_neg small, bound] at above
  rw [Number.le_iff finite small, bound] at below
  have finite' : Float.isFinite 1e-310 = true := by decide +kernel
  have quotient := Number.rounds_div finite finite' (by rw [divisor]; positivity)
  have inside : |Number.quantity x / Number.quantity 1e-310| < Number.overflow := by
    have places : (2 : ℚ) ^ (-59 : ℤ) = 2 ^ (44 : ℤ) * (2 ^ (971 : ℤ) * 2 ^ (-1074 : ℤ)) := by
      rw [← zpow_add₀ two_ne_zero, ← zpow_add₀ two_ne_zero]
      rfl
    have unit : (0 : ℚ) < 2 ^ (971 : ℤ) * 2 ^ (-1074 : ℤ) := by positivity
    rw [abs_div, divisor, abs_of_pos (a := 20240225330731 * _) (by positivity),
      div_lt_iff₀ (by positivity), Number.overflow_eq]
    calc |Number.quantity x| ≤ 4611686018427388 * 2 ^ (-59 : ℤ) := abs_le.mpr ⟨above, below⟩
      _ = 4611686018427388 * 2 ^ (44 : ℤ) * (2 ^ (971 : ℤ) * 2 ^ (-1074 : ℤ)) := by
          rw [places, mul_assoc]
      _ < (2 ^ 53 - 1 / 2) * 20240225330731 * (2 ^ (971 : ℤ) * 2 ^ (-1074 : ℤ)) :=
          mul_lt_mul_of_pos_right (by norm_num) unit
      _ = (2 ^ 53 - 1 / 2) * 2 ^ (971 : ℤ) * (20240225330731 * 2 ^ (-1074 : ℤ)) :=
          mul_mul_mul_comm _ _ _ _
  refine ⟨x / 1e-310, Formula.eval_eq_ok.mpr (Expr.eval_of_finite ?_)⟩
  have nodes : precipice.expr.postorder = [.var, .number 1e-310, precipice.expr] := rfl
  simp only [nodes, List.forall_mem_cons, List.not_mem_nil, false_implies, implies_true, and_true]
  exact ⟨finite, finite', quotient.isFinite_iff.mpr inside⟩

theorem scan_fails_inside : Domain.ofText "-0.008:0.008" = .ok ⟨-0.008, 0.008⟩ ∧
    Formula.ofText "x/1e-310" = .ok precipice ∧
    (∀ x, -0.008 ≤ x → x ≤ 0.008 → ∃ y, precipice.eval x = .ok y) ∧
    (∀ x ∈ arguments precipice (-0.008) 0.008, -0.008 ≤ x ∧ x ≤ 0.008) ∧
    ∃ issue, precipice.extrema (-0.008) 0.008 = .error issue ∧ issue.kind = .evaluationError := by
  have read : Domain.ofText "-0.008:0.008" = .ok ⟨-0.008, 0.008⟩ :=
    toOption_eq_some.mp (by decide +kernel)
  have ends : (samples (-0.008) 0.008).getLast?.all (fun last =>
      last + sampleStep (-0.008) 0.008 + slopeStep ≤ 0.008 &&
        last + slopeStep + slopeStep ≤ 0.008) = true := by
    decide +kernel
  have failed : (precipice.extrema (-0.008) 0.008).isOk = false := by decide +kernel
  obtain ⟨issue, failed⟩ := exists_of_not_isOk failed
  refine ⟨read, toOption_eq_some.mp (by decide +kernel),
    fun x above below => precipice_values above below, fun x member => ?_,
    issue, failed, Formula.kind_of_extrema failed⟩
  refine inside_of_ends (Domain.proper_of_ofText read) (by decide +kernel) ?_ member
  intro last final
  rw [Option.mem_def.mp final] at ends
  simpa using ends

end Extremum

end PlotMarkup
