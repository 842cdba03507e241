import Mathlib.Data.List.Forall2
import PlotMarkup.Proofs.Analysis.Failure
import PlotMarkup.Proofs.Curve.Blocks

namespace PlotMarkup.Curve

def tangentNote : String := "tangent annotation skipped"

def extremaNote : String := "extrema annotation skipped"

inductive TangentAccount (c : Curve) (f : Formula) (domain : Domain) : List Diagnostic → Prop
  | unwanted (plain : c.wantsTangent = false) : TangentAccount c f domain []
  | drawn {x0 : Float} {line : Tangent} (wanted : c.wantsTangent = true)
      (point : domain.pointOfText c.tangentPoint = .ok x0) (touching : f.tangent x0 = .ok line) :
      TangentAccount c f domain []
  | badPoint {issue : Diagnostic} (wanted : c.wantsTangent = true)
      (failed : domain.pointOfText c.tangentPoint = .error issue)
      (kind : issue.kind = .invalidTangentPoint) :
      TangentAccount c f domain [issue.withNote tangentNote]
  | noTangent {x0 : Float} {issue : Diagnostic} (wanted : c.wantsTangent = true)
      (point : domain.pointOfText c.tangentPoint = .ok x0) (failed : f.tangent x0 = .error issue)
      (kind : issue.kind = .evaluationError) :
      TangentAccount c f domain [issue.withNote tangentNote]

inductive ExtremaAccount (c : Curve) (f : Formula) (domain : Domain) : List Diagnostic → Prop
  | unwanted (plain : c.extrema = false) : ExtremaAccount c f domain []
  | drawn {points : List Extremum} (wanted : c.extrema = true)
      (found : f.extrema domain.low domain.high = .ok points) : ExtremaAccount c f domain []
  | noExtrema {issue : Diagnostic} (wanted : c.extrema = true)
      (failed : f.extrema domain.low domain.high = .error issue)
      (kind : issue.kind = .evaluationError) :
      ExtremaAccount c f domain [issue.withNote extremaNote]

/-- The report on a curve. -/
inductive Account (c : Curve) : List Diagnostic → Prop
  | badExpression {issue : Diagnostic} (failed : Formula.ofText c.expression = .error issue)
      (kind : issue.kind = .invalidExpression) : Account c [issue]
  | badDomain {f : Formula} {issue : Diagnostic} (formula : Formula.ofText c.expression = .ok f)
      (failed : Domain.ofText c.domain = .error issue) (kind : issue.kind = .invalidDomain) :
      Account c [issue]
  | drawn {f : Formula} {domain : Domain} {tangent extrema : List Diagnostic}
      (formula : Formula.ofText c.expression = .ok f)
      (bounds : Domain.ofText c.domain = .ok domain)
      (first : TangentAccount c f domain tangent) (second : ExtremaAccount c f domain extrema) :
      Account c (tangent ++ extrema)

def Complete (c : Curve) : Prop :=
  ∃ f domain, Formula.ofText c.expression = .ok f ∧ Domain.ofText c.domain = .ok domain ∧
    (c.wantsTangent = true → ∃ x0 line,
      domain.pointOfText c.tangentPoint = .ok x0 ∧ f.tangent x0 = .ok line) ∧
    (c.extrema = true → ∃ points, f.extrema domain.low domain.high = .ok points)

variable (c : Curve) (f : Formula) (domain : Domain)

theorem tangentAccount_tangentPart :
    TangentAccount c f domain (Fragment.ofResult (c.tangentPart f domain)).issues := by
  rw [tangentPart]
  cases wanted : c.wantsTangent with
  | false => exact .unwanted wanted
  | true =>
      cases point : domain.pointOfText c.tangentPoint with
      | error issue => exact .badPoint wanted point (Domain.kind_of_pointOfText point)
      | ok x0 =>
          show TangentAccount c f domain (Fragment.ofResult
            (Except.mapError (·.withNote tangentNote)
              (f.tangent x0 >>= fun line => .ok (c.tangentClauses line)))).issues
          cases touching : f.tangent x0 with
          | error issue => exact .noTangent wanted point touching (Formula.kind_of_tangent touching)
          | ok line => exact .drawn wanted point touching

theorem extremaAccount_extremaPart :
    ExtremaAccount c f domain (Fragment.ofResult (c.extremaPart f domain)).issues := by
  rw [extremaPart]
  cases wanted : c.extrema with
  | false => exact .unwanted wanted
  | true =>
      cases found : f.extrema domain.low domain.high with
      | error issue => exact .noExtrema wanted found (Formula.kind_of_extrema found)
      | ok points => exact .drawn wanted found

theorem account_block : c.Account (Fragment.issuesOf c.block) := by
  cases made : c.block with
  | ok fragment =>
      obtain ⟨f, domain, formula, bounds, rfl⟩ := block_eq_ok.mp made
      exact .drawn formula bounds (tangentAccount_tangentPart c f domain)
        (extremaAccount_extremaPart c f domain)
  | error issue =>
      rw [block, bind_eq_error] at made
      rcases made with failed | ⟨f, formula, made⟩
      · exact .badExpression failed (Formula.kind_of_ofText failed)
      · rw [bind_eq_error] at made
        rcases made with failed | ⟨domain, -, made⟩
        · exact .badDomain formula failed (Domain.kind_of_ofText failed)
        · cases made

variable {c f domain} {issues : List Diagnostic}

theorem TangentAccount.eq_nil_iff (account : TangentAccount c f domain issues) :
    issues = [] ↔ (c.wantsTangent = true → ∃ x0 line,
      domain.pointOfText c.tangentPoint = .ok x0 ∧ f.tangent x0 = .ok line) := by
  cases account with
  | unwanted plain => simp [plain]
  | drawn wanted point touching => simp [point, touching]
  | badPoint wanted failed => simp [wanted, failed]
  | noTangent wanted point failed => simp [wanted, point, failed]

theorem ExtremaAccount.eq_nil_iff (account : ExtremaAccount c f domain issues) :
    issues = [] ↔ (c.extrema = true → ∃ points, f.extrema domain.low domain.high = .ok points) := by
  cases account with
  | unwanted plain => simp [plain]
  | drawn wanted found => simp [found]
  | noExtrema wanted failed => simp [wanted, failed]

theorem Account.eq_nil_iff (account : c.Account issues) : issues = [] ↔ c.Complete := by
  cases account with
  | badExpression failed => simp [Complete, failed]
  | badDomain formula failed => simp [Complete, failed]
  | drawn formula bounds first second =>
      rw [List.append_eq_nil_iff, first.eq_nil_iff, second.eq_nil_iff]
      simp [Complete, formula, bounds]

theorem Account.kind_ne_typeMismatch (account : c.Account issues) :
    ∀ issue ∈ issues, issue.kind ≠ .typeMismatch := by
  have tangents : ∀ {f domain issues}, TangentAccount c f domain issues →
      ∀ issue ∈ issues, issue.kind ≠ .typeMismatch := by
    intro f domain issues account
    cases account <;> simp_all [Diagnostic.withNote, Diagnostic.updateContext]
  have extremas : ∀ {f domain issues}, ExtremaAccount c f domain issues →
      ∀ issue ∈ issues, issue.kind ≠ .typeMismatch := by
    intro f domain issues account
    cases account <;> simp_all [Diagnostic.withNote, Diagnostic.updateContext]
  cases account with
  | badExpression failed kind => simp [kind]
  | badDomain formula failed kind => simp [kind]
  | drawn formula bounds first second =>
      exact List.forall_mem_append.mpr ⟨tangents first, extremas second⟩

theorem issues_of_accounts (curves : List Curve) :
    ∃ accounts : List (List Diagnostic), List.Forall₂ Account curves accounts ∧
      (Curve.fragment curves).issues = accounts.zipIdx.flatMap fun (issues, index) =>
        issues.map (·.inFunction index) := by
  refine ⟨curves.map fun c => Fragment.issuesOf c.block, ?_, ?_⟩
  · rw [List.forall₂_map_right_iff, List.forall₂_same]
    exact fun c _ => account_block c
  · rw [issues_fragment, issuesFrom, List.zipIdx_map, List.flatMap_map]
    rfl

theorem issuesFrom_eq_nil (index : Nat) (curves : List Curve) :
    issuesFrom index curves = [] ↔ ∀ c ∈ curves, c.Complete := by
  induction curves generalizing index with
  | nil => simp [issuesFrom]
  | cons c rest ih =>
      rw [issuesFrom_cons, List.append_eq_nil_iff, List.map_eq_nil_iff, ih,
        (account_block c).eq_nil_iff, List.forall_mem_cons]

end PlotMarkup.Curve
