import PlotMarkup.Analysis.Extrema
import PlotMarkup.Proofs.Outcome

namespace PlotMarkup

namespace Formula

variable {f : Formula} {x : Float} {issue : Diagnostic}

theorem kind_of_ofText {source : String} (failed : ofText source = .error issue) :
    issue.kind = .invalidExpression := by
  unfold ofText at failed
  split at failed
  · cases failed
  · cases failed
    rfl

theorem eval_eq_error (failed : f.eval x = .error issue) :
    ∃ details, issue = f.failure details := by
  unfold eval at failed
  split at failed
  · cases failed
  · cases failed
    exact ⟨_, rfl⟩

theorem slope_eq_error (failed : f.slope x = .error issue) :
    ∃ details, issue = f.failure details := by
  rw [slope, bind_eq_error] at failed
  rcases failed with failed | ⟨ahead, -, failed⟩
  · exact eval_eq_error failed
  · rw [bind_eq_error] at failed
    rcases failed with failed | ⟨here, -, failed⟩
    · exact eval_eq_error failed
    · dsimp only at failed
      split at failed
      · cases failed
      · cases failed
        exact ⟨_, rfl⟩

theorem tangent_eq_error (failed : f.tangent x = .error issue) :
    f.eval x = .error issue ∨ f.slope x = .error issue := by
  rw [tangent, bind_eq_error] at failed
  rcases failed with failed | ⟨y0, -, failed⟩
  · exact .inl failed
  · rw [bind_eq_error] at failed
    rcases failed with failed | ⟨slope, -, failed⟩
    · exact .inr failed
    · cases failed

theorem probe_eq_error {step : Float} (failed : Extremum.probe f step x = .error issue) :
    ∃ details, issue = f.failure details := by
  rw [Extremum.probe, bind_eq_error] at failed
  rcases failed with failed | ⟨before, -, failed⟩
  · exact slope_eq_error failed
  rw [bind_eq_error] at failed
  rcases failed with failed | ⟨here, -, failed⟩
  · exact slope_eq_error failed
  rw [bind_eq_error] at failed
  rcases failed with failed | ⟨beyond, -, failed⟩
  · exact slope_eq_error failed
  split at failed
  · rw [bind_eq_error] at failed
    rcases failed with failed | ⟨ahead, -, failed⟩
    · exact slope_eq_error failed
    rw [bind_eq_error] at failed
    rcases failed with failed | ⟨y, -, failed⟩
    · exact eval_eq_error failed
    · cases failed
  · cases failed

theorem exists_probe_error {step : Float} {xs : List Float}
    (failed : Extremum.scan f step xs = .error issue) :
    ∃ x ∈ xs, Extremum.probe f step x = .error issue := by
  induction xs with
  | nil => cases failed
  | cons x rest ih =>
      rw [Extremum.scan, bind_eq_error] at failed
      rcases failed with failed | ⟨found, -, failed⟩
      · exact ⟨x, List.mem_cons_self, failed⟩
      · rw [bind_eq_error] at failed
        rcases failed with failed | ⟨others, -, failed⟩
        · obtain ⟨x', member, failed⟩ := ih failed
          exact ⟨x', List.mem_cons_of_mem x member, failed⟩
        · cases failed

theorem extrema_eq_error {low high : Float} (failed : f.extrema low high = .error issue) :
    ∃ details, issue = f.failure details := by
  obtain ⟨x, -, failed⟩ := exists_probe_error failed
  exact probe_eq_error failed

theorem kind_of_tangent (failed : f.tangent x = .error issue) : issue.kind = .evaluationError := by
  rcases tangent_eq_error failed with failed | failed
  · obtain ⟨details, rfl⟩ := eval_eq_error failed
    rfl
  · obtain ⟨details, rfl⟩ := slope_eq_error failed
    rfl

theorem kind_of_extrema {low high : Float} (failed : f.extrema low high = .error issue) :
    issue.kind = .evaluationError := by
  obtain ⟨details, rfl⟩ := extrema_eq_error failed
  rfl

end Formula

namespace Domain

theorem kind_of_ofText {text : String} {issue : Diagnostic} (failed : ofText text = .error issue) :
    issue.kind = .invalidDomain := by
  unfold ofText at failed
  split at failed
  · cases failed
  · cases failed
    rfl

theorem kind_of_pointOfText {domain : Domain} {text : String} {issue : Diagnostic}
    (failed : domain.pointOfText text = .error issue) : issue.kind = .invalidTangentPoint := by
  unfold pointOfText at failed
  split at failed
  · cases failed
  · cases failed
    rfl

end Domain

end PlotMarkup
