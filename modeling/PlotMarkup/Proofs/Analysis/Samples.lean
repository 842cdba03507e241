import PlotMarkup.Analysis.Extrema
import PlotMarkup.Proofs.Curve.Confinement
import PlotMarkup.Proofs.Number.Alike
import PlotMarkup.Proofs.Number.Order

namespace PlotMarkup

open Number (quantity overflow)

structure Domain.Proper (low high : Float) : Prop where
  finite : low.isFinite = true
  finite' : high.isFinite = true
  less : quantity low < quantity high

theorem Domain.proper_of_ofText {text : String} {domain : Domain}
    (read : Domain.ofText text = .ok domain) : Proper domain.low domain.high := by
  obtain ⟨finite, finite', increasing⟩ := usable_of_ofText read
  exact ⟨finite, finite', (Number.lt_iff finite finite').mp increasing⟩

namespace Extremum

variable {low high x : Float} (proper : Domain.Proper low high)

theorem isFinite_hundred : (Float.ofNat subdivisions).isFinite = true := by
  decide

theorem quantity_hundred : quantity (Float.ofNat subdivisions) = 100 := by
  have bits : Number.magnitude (Float.ofNat subdivisions) = ⟨7036874417766400, -46⟩ := by decide
  rw [Number.quantity_eq bits (by decide)]
  norm_num [Number.Magnitude.quantity]

include proper

theorem sampleStep_cases :
    ((sampleStep low high).isFinite = true ∧ 0 ≤ quantity (sampleStep low high)) ∨
      (sampleStep low high).toModel.unpack = .infinity .positive := by
  have width := Number.rounds_sub proper.finite' proper.finite
  have positive := sub_pos.mpr proper.less
  cases bounded : (high - low).isFinite with
  | true =>
      have finite : (sampleStep low high).isFinite = true :=
        Number.isFinite_div bounded (by decide)
      have nonneg := width.quantity_nonneg bounded positive.le
      have step : Number.Rounds _ (sampleStep low high) :=
        Number.rounds_div bounded isFinite_hundred (by rw [quantity_hundred]; norm_num)
      exact .inl ⟨finite, step.quantity_nonneg finite (by rw [quantity_hundred]; positivity)⟩
  | false =>
      have limit := Number.overflow_pos
      rcases width.infinite_cases bounded with ⟨-, infinite⟩ | ⟨below, -⟩
      · obtain ⟨m, e, pos, shape⟩ := Number.unpack_of_pos isFinite_hundred
          (by rw [quantity_hundred]; norm_num)
        have quotient : Float.Model.UnpackedFloat.div .binary64 (high - low).toModel.unpack
            (Float.ofNat subdivisions).toModel.unpack = .infinity .positive := by
          rw [infinite, shape]
          rfl
        right
        show (Float.Model.pack (Float.Model.UnpackedFloat.div .binary64 (high - low).toModel.unpack
          (Float.ofNat subdivisions).toModel.unpack)).unpack = _
        rw [quotient]
        exact Number.unpack_pack_infinity .positive
      · linarith

structure Steady (low high : Float) : Prop where
  finite : (sampleStep low high).isFinite = true
  nonneg : 0 ≤ quantity (sampleStep low high)
  first : (low + sampleStep low high).isFinite = true
  limit : (high - sampleStep low high).isFinite = true

theorem steady_of_below (below : low + sampleStep low high < high - sampleStep low high) :
    Steady low high := by
  have limits := Number.abs_quantity_lt proper.finite
  have limits' := Number.abs_quantity_lt proper.finite'
  have start := neg_abs_le (quantity low)
  have stop := le_abs_self (quantity high)
  rcases sampleStep_cases proper with ⟨finite, nonneg⟩ | infinite
  · have first := Number.rounds_add proper.finite finite
    have limit := Number.rounds_sub proper.finite' finite
    refine ⟨finite, nonneg, ?_, ?_⟩
    · by_contra unbounded
      rcases first.infinite_cases (Bool.eq_false_iff.mpr unbounded) with ⟨-, top⟩ | ⟨beyond, -⟩
      · exact Number.not_lt_of_top top below
      · linarith
    · by_contra unbounded
      rcases limit.infinite_cases (Bool.eq_false_iff.mpr unbounded) with ⟨beyond, -⟩ | ⟨-, bottom⟩
      · linarith
      · exact Number.not_lt_of_bottom bottom below
  · have absorbed : low + sampleStep low high = sampleStep low high := by
      rw [Number.sum_comm]
      refine Number.add_of_infinite ?_ proper.finite
      show (sampleStep low high).toModel.unpack.isFinite = false
      rw [infinite]
      rfl
    rw [absorbed] at below
    exact absurd below (Number.not_lt_of_top infinite)

omit proper

structure Spaced (low high x : Float) : Prop where
  finite : x.isFinite = true
  above : quantity (low + sampleStep low high) ≤ quantity x
  fits : quantity x + quantity (sampleStep low high) ≤ quantity high

section

variable (bound : high.isFinite = true) (steady : Steady low high)
include bound steady

theorem step_fits (finite : x.isFinite = true) (below : x < high - sampleStep low high) :
    quantity x + quantity (sampleStep low high) ≤ quantity high := by
  by_contra beyond
  have above : quantity high - quantity (sampleStep low high) ≤ quantity x := by linarith
  have limit := (Number.rounds_sub bound steady.finite).quantity_le
    (Number.rounds_quantity finite) steady.limit finite above
  rw [Number.lt_iff finite steady.limit] at below
  exact absurd below (not_lt.mpr limit)

theorem next_finite (finite : x.isFinite = true)
    (fits : quantity x + quantity (sampleStep low high) ≤ quantity high) :
    (x + sampleStep low high).isFinite = true ∧
      quantity x ≤ quantity (x + sampleStep low high) := by
  have sum := Number.rounds_add finite steady.finite
  have nonneg := steady.nonneg
  have next : (x + sampleStep low high).isFinite = true := by
    have limits := Number.abs_quantity_lt finite
    have limits' := Number.abs_quantity_lt bound
    have start := neg_abs_le (quantity x)
    have stop := le_abs_self (quantity high)
    rw [sum.isFinite_iff, abs_lt]
    constructor <;> linarith
  exact ⟨next, (Number.rounds_quantity finite).quantity_le sum finite next (by linarith)⟩

theorem spaced_of_samplesFrom {count : Nat} {start : Float} (finite : start.isFinite = true)
    (above : quantity (low + sampleStep low high) ≤ quantity start) :
    ∀ x ∈ samplesFrom (sampleStep low high) (high - sampleStep low high) count start,
      Spaced low high x ∧ quantity start ≤ quantity x := by
  induction count generalizing start with
  | zero => intro x sample; cases sample
  | succ count ih =>
      intro x sample
      rw [samplesFrom] at sample
      split at sample
      · rename_i below
        have fits := step_fits bound steady finite below
        obtain ⟨next, ascends⟩ := next_finite bound steady finite fits
        rcases List.mem_cons.mp sample with rfl | sample
        · exact ⟨⟨finite, above, fits⟩, le_rfl⟩
        · obtain ⟨spaced, after⟩ := ih next (above.trans ascends) x sample
          exact ⟨spaced, ascends.trans after⟩
      · cases sample

theorem le_last_of_samplesFrom {count : Nat} {start last : Float} (finite : start.isFinite = true)
    (above : quantity (low + sampleStep low high) ≤ quantity start)
    (ends : last ∈ (samplesFrom (sampleStep low high) (high - sampleStep low high) count
      start).getLast?) :
    ∀ x ∈ samplesFrom (sampleStep low high) (high - sampleStep low high) count start,
      quantity x ≤ quantity last := by
  induction count generalizing start with
  | zero => intro x sample; cases sample
  | succ count ih =>
      intro x sample
      have reached := (spaced_of_samplesFrom bound steady finite above last
        (List.mem_of_getLast? ends)).2
      rw [samplesFrom] at sample ends
      split at sample
      · rename_i below
        have fits := step_fits bound steady finite below
        obtain ⟨next, ascends⟩ := next_finite bound steady finite fits
        rw [if_pos below] at ends
        rcases List.mem_cons.mp sample with rfl | sample
        · exact reached
        · rw [List.getLast?_cons_of_ne_nil (List.ne_nil_of_mem sample)] at ends
          exact ih next (above.trans ascends) ends x sample
      · cases sample

end

theorem below_of_mem (sample : x ∈ samples low high) :
    low + sampleStep low high < high - sampleStep low high := by
  have sample : x ∈ samplesFrom (sampleStep low high) (high - sampleStep low high) (99 + 1)
    (low + sampleStep low high) := sample
  rw [samplesFrom] at sample
  split at sample
  · assumption
  · cases sample

theorem first_mem (sample : x ∈ samples low high) :
    low + sampleStep low high ∈ samples low high := by
  show _ ∈ samplesFrom _ _ (99 + 1) _
  rw [samplesFrom, if_pos (below_of_mem sample)]
  exact List.mem_cons_self

theorem spaced_of_mem (proper : Domain.Proper low high) (sample : x ∈ samples low high) :
    Steady low high ∧ Spaced low high x := by
  have steady := steady_of_below proper (below_of_mem sample)
  exact ⟨steady, (spaced_of_samplesFrom proper.finite' steady steady.first le_rfl x sample).1⟩

theorem le_last (proper : Domain.Proper low high) {last : Float}
    (ends : last ∈ (samples low high).getLast?) (sample : x ∈ samples low high) :
    quantity x ≤ quantity last := by
  have steady := steady_of_below proper (below_of_mem sample)
  exact le_last_of_samplesFrom proper.finite' steady steady.first le_rfl ends x sample

end Extremum

end PlotMarkup
