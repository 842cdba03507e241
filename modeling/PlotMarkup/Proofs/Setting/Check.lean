import PlotMarkup.Setting.Basic

namespace PlotMarkup

namespace Setting

namespace Value

variable {value : Value}

theorem sameVariant_toggle {on : Bool} :
    value.sameVariant (.toggle on) = true ↔ ∃ state, value = .toggle state := by
  cases value <;> simp [sameVariant]

theorem sameVariant_number {x : Float} :
    value.sameVariant (.number x) = true ↔ ∃ y, value = .number y := by
  cases value <;> simp [sameVariant]

theorem sameVariant_text {content : String} :
    value.sameVariant (.text content) = true ↔ ∃ text, value = .text text := by
  cases value <;> simp [sameVariant]

theorem sameVariant_curves {curves : List Curve} :
    value.sameVariant (.curves curves) = true ↔ ∃ list, value = .curves list := by
  cases value <;> simp [sameVariant]

end Value

structure Fits (s : Setting) (value : Value) : Prop where
  variant : value.sameVariant s.initial = true
  valid : value = s.initial ∨ s.check value = .ok ()

theorem fits_initial (s : Setting) : s.Fits s.initial :=
  ⟨by cases s.initial <;> rfl, .inl rfl⟩

theorem fits_of_check {s : Setting} {value : Value} (accepted : s.check value = .ok ()) :
    s.Fits value := by
  refine ⟨?_, .inr accepted⟩
  unfold check at accepted
  split at accepted
  · assumption
  · cases accepted

theorem kind_of_check {s : Setting} {value : Value} {issue : Diagnostic}
    (refused : s.check value = .error issue) : issue.kind = .typeMismatch := by
  unfold check at refused
  split at refused
  · split at refused
    · split at refused
      · unfold checkNumber at refused
        split at refused
        · cases refused; rfl
        · split at refused
          · cases refused; rfl
          · split at refused <;> cases refused; rfl
      · cases refused
    · unfold checkOption at refused
      split at refused <;> cases refused; rfl
    · cases refused
  · cases refused; rfl

end Setting

end PlotMarkup
