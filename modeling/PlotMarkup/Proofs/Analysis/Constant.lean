import PlotMarkup.Proofs.Analysis.Scan
import PlotMarkup.Proofs.Expr.Evaluation

namespace PlotMarkup

namespace Expr

variable {e node : Expr}

theorem value_eq_of_unused (unused : e.usesVariable = false) (x x' : Float) :
    e.value x' = e.value x := by
  induction e with
  | number value => rfl
  | var => cases unused
  | negate inner ih => rw [value, value, ih unused]
  | binary left op right ihLeft ihRight =>
      obtain ⟨unusedLeft, unusedRight⟩ := Bool.or_eq_false_iff.mp unused
      rw [value, value, ihLeft unusedLeft, ihRight unusedRight]
  | call function argument ih => rw [value, value, ih unused]

theorem operation?_eq_of_unused (unused : e.usesVariable = false) (x x' : Float) :
    e.operation? x' = e.operation? x := by
  cases e with
  | number value => rfl
  | var => rfl
  | negate inner => rfl
  | binary left op right =>
      obtain ⟨unusedLeft, unusedRight⟩ := Bool.or_eq_false_iff.mp unused
      rw [operation?, operation?, value_eq_of_unused unusedLeft x, value_eq_of_unused unusedRight x]
  | call function argument =>
      rw [operation?, operation?, value_eq_of_unused (e := argument) unused x]

theorem value_of_operation? {x : Float} {op : Operation} (operation : e.operation? x = some op) :
    op.value = e.value x := by
  cases e <;> cases operation <;> rfl

theorem usesVariable_of_mem_postorder (unused : e.usesVariable = false)
    (member : node ∈ e.postorder) : node.usesVariable = false := by
  induction e with
  | number value =>
      obtain rfl := List.mem_singleton.mp member
      rfl
  | var => cases unused
  | negate inner ih =>
      rcases List.mem_append.mp member with inside | root
      · exact ih unused inside
      · rwa [List.mem_singleton.mp root]
  | binary left op right ihLeft ihRight =>
      obtain ⟨unusedLeft, unusedRight⟩ := Bool.or_eq_false_iff.mp unused
      rcases List.mem_append.mp member with inside | root
      · rcases List.mem_append.mp inside with inLeft | inRight
        · exact ihLeft unusedLeft inLeft
        · exact ihRight unusedRight inRight
      · rwa [List.mem_singleton.mp root]
  | call function argument ih =>
      rcases List.mem_append.mp member with inside | root
      · exact ih unused inside
      · rwa [List.mem_singleton.mp root]

end Expr

def NonFinite.moved (x : Float) (failure : NonFinite) : NonFinite :=
  { failure with point := x }

theorem Operation.run_eq (operation : Operation) (x x' : Float) :
    operation.run x' = (operation.run x).mapError (·.moved x') := by
  unfold run
  split <;> rfl

theorem Expr.eval_eq_of_unused {e : Expr} (unused : e.usesVariable = false) (x x' : Float) :
    e.eval x' = (e.eval x).mapError (·.moved x') := by
  induction e with
  | number value => rfl
  | var => cases unused
  | negate inner ih =>
      rw [eval, eval, ih unused, mapError_bind]
      rfl
  | binary left op right ihLeft ihRight =>
      obtain ⟨unusedLeft, unusedRight⟩ := Bool.or_eq_false_iff.mp unused
      simp only [eval, mapError_bind]
      rw [ihLeft unusedLeft, ihRight unusedRight]
      simp only [Operation.run_eq _ x x']
  | call function argument ih =>
      simp only [eval, mapError_bind]
      rw [ih unused]
      simp only [Operation.run_eq _ x x']

namespace Formula

/-- A formula has one finite value at all points.  Or it fails at all points, at the same node and
with the same operands, and reports the point. -/
inductive Constant (f : Formula) : Prop where
  | value (v : Float) (finite : v.isFinite = true) (same : ∀ x, f.eval x = .ok v)
  | failure (before : List Expr) (node : Expr) (after : List Expr) (op : Operation)
      (place : f.expr.postorder = before ++ node :: after)
      (first : ∀ earlier ∈ before, ∀ x, (earlier.value x).isFinite = true)
      (operation : ∀ x, node.operation? x = some op) (infinite : op.value.isFinite = false)
      (same : ∀ x, f.eval x = .error
        (f.failure (op.describe ++ " is not finite at x = " ++ Number.message x)))

variable {source : String} {f : Formula} {x y : Float}

theorem constant (read : ofText source = .ok f) (unused : f.expr.usesVariable = false) :
    f.Constant := by
  have numbers := Expr.finiteNumbers_of_parse (ofText_eq_ok.mp read).2
  have point : Float.isFinite 0 = true := by decide
  cases found : Expr.firstNonFinite? 0 f.expr.postorder with
  | none =>
      have finite := Expr.firstNonFinite?_eq_none.mp found
      refine .value _ (finite _ f.expr.self_mem_postorder) fun x => eval_eq_ok.mpr ?_
      rw [Expr.eval_eq_of_unused unused 0, Expr.eval_of_finite finite]
      rfl
  | some node =>
      obtain ⟨op, operation, failed⟩ := Expr.eval_of_first point numbers found
      obtain ⟨infinite, before, after, place, first⟩ := Expr.firstNonFinite?_eq_some.mp found
      have closed : ∀ part ∈ before ++ node :: after, part.usesVariable = false := by
        rw [← place]
        exact fun part => Expr.usesVariable_of_mem_postorder unused
      obtain ⟨closedBefore, closedNode, -⟩ := by
        simpa only [List.forall_mem_append, List.forall_mem_cons] using closed
      refine .failure before node after op place ?_ ?_ ?_ ?_
      · intro earlier member x
        rw [Expr.value_eq_of_unused (closedBefore earlier member) 0]
        exact first earlier member
      · intro x
        rw [Expr.operation?_eq_of_unused closedNode 0, operation]
      · rwa [Expr.value_of_operation? operation]
      · intro x
        have failed' : f.expr.eval x = .error ⟨op, x⟩ := by
          rw [Expr.eval_eq_of_unused unused 0, failed]
          rfl
        rw [eval_of_error failed', NonFinite.message]

theorem Constant.slope_eq_zero (constant : f.Constant) (made : f.eval x = .ok y) :
    f.slope x = .ok 0 := by
  cases constant with
  | value v finite same =>
      exact slope_eq_ok.mpr ⟨v, v, same _, same x, (quotient_self finite).symm, by decide⟩
  | failure before node after op place first operation infinite same =>
      rw [same] at made
      cases made

theorem Constant.eq_zero_of_slope (constant : f.Constant) {slope : Float}
    (made : f.slope x = .ok slope) : slope = 0 := by
  obtain ⟨ahead, here, -, value, -⟩ := slope_eq_ok.mp made
  rw [constant.slope_eq_zero value] at made
  exact (Except.ok.inj made).symm

theorem Constant.extrema_eq_nil (constant : f.Constant) {low high : Float} {points : List Extremum}
    (made : f.extrema low high = .ok points) : points = [] := by
  have straight : ∀ sample ∈ Extremum.samples low high,
      ¬Extremum.isCandidate f (Extremum.sampleStep low high) sample = true := by
    intro sample _ candidate
    obtain ⟨before, here, behind, middle, turns⟩ := Extremum.isCandidate_iff.mp candidate
    rw [constant.eq_zero_of_slope behind, constant.eq_zero_of_slope middle] at turns
    exact absurd turns (by decide)
  have all := (Extremum.scanned f low high).points points made
  rw [List.filter_eq_nil_iff.mpr straight] at all
  exact List.forall₂_nil_left_iff.mp all

/-- A formula without the variable is constant.  Its slope is zero wherever it has a value, and a
scan finds no extrema or fails. -/
theorem constant_of_unused (read : ofText source = .ok f) (unused : f.expr.usesVariable = false) :
    f.Constant ∧ (∀ x y, f.eval x = .ok y → f.slope x = .ok 0) ∧
      ∀ low high, f.extrema low high = .ok [] ∨
        ∃ issue, f.extrema low high = .error issue ∧ issue.kind = .evaluationError := by
  have constant := constant read unused
  refine ⟨constant, fun x y => constant.slope_eq_zero, fun low high => ?_⟩
  cases made : f.extrema low high with
  | ok points => exact .inl (congrArg _ (constant.extrema_eq_nil made))
  | error issue => exact .inr ⟨issue, rfl, kind_of_extrema made⟩

def below : Formula :=
  ⟨"-pi", .negate (.number circleConstant)⟩

def pole : Formula :=
  ⟨"pi/(e-e)", .binary (.number circleConstant) .div
    (.binary (.number eulerNumber) .sub (.number eulerNumber))⟩

theorem constant_of_unused_pi :
    (ofText "-pi" = .ok below ∧ below.expr.usesVariable = false ∧
      below.eval (0 / 0) = .ok (-circleConstant) ∧ below.slope (0 / 0) = .ok 0) ∧
    ofText "pi/(e-e)" = .ok pole ∧ pole.expr.usesVariable = false ∧ ∃ op : Operation,
      ∀ x, pole.eval x = .error
        (pole.failure (op.describe ++ " is not finite at x = " ++ Number.message x)) := by
  obtain ⟨read, read'⟩ : (ofText "-pi").toOption = some below ∧
      (ofText "pi/(e-e)").toOption = some pole := by
    decide +kernel
  have read := toOption_eq_some.mp read
  have read' := toOption_eq_some.mp read'
  obtain ⟨-, flat, -⟩ := constant_of_unused read rfl
  obtain ⟨constant, -⟩ := constant_of_unused read' rfl
  refine ⟨⟨read, rfl, rfl, flat _ _ rfl⟩, read', rfl, ?_⟩
  cases constant with
  | value v finite same =>
      have failed : (pole.eval 0).isOk = false := by decide
      rw [same] at failed
      cases failed
  | failure before node after op place first operation infinite same => exact ⟨op, same⟩

end Formula

end PlotMarkup
