import PlotMarkup.Analysis.Tangent
import PlotMarkup.Proofs.Analysis.Failure
import PlotMarkup.Proofs.Expr.Numerals

namespace PlotMarkup

open Number (Numeral Alike exists_spelling)

namespace Grammar

def Sum.line (slope intercept : Signed) : Sum :=
  .chain (.chain slope (.cons .times (.power (.plain .var)) .nil))
    (.cons .plus (.chain intercept .nil) .nil)

variable {negative negative' : Bool} {n n' : Numeral}

theorem Sum.word_line {slope intercept : Signed} : (line slope intercept).word =
    slope.word ++ .operator .mul :: .name "x" :: .operator .add :: intercept.word := by
  simp [line, Sum.word, SumRest.word, Product.word, ProductRest.word, Signed.word, Power.word,
    Primary.word, Additive.operator, Multiplicative.operator]

theorem Sum.tree_line {slope intercept : Signed} : (line slope intercept).tree =
    .binary (.binary slope.tree .mul .var) .add intercept.tree := rfl

theorem Sum.within_line :
    Within maxDepth (line (.numeral negative n) (.numeral negative' n')).loads := by
  cases negative <;> cases negative' <;>
    simp [Within, line, Signed.numeral, Sum.loads, SumRest.loads, Product.loads,
      ProductRest.loads, Signed.loads, Power.loads, Primary.loads, maxDepth]

end Grammar

theorem Expr.Spells.times_var_plus {rest : List Char} {word : List Token}
    (others : Spells rest word) : Spells ("*x + ".toList ++ rest)
      (.operator .mul :: .name "x" :: .operator .add :: word) := by
  have name : Token.Lexeme (.name "x") ['x'] (' ' :: '+' :: ' ' :: rest) :=
    .name (by decide) (by simp) (by intro c first; cases first; decide)
  have plus := (others.blank (c := ' ') (by decide)).lexeme (.symbol (c := '+') rfl)
  exact ((plus.blank (c := ' ') (by decide)).lexeme name).lexeme (.symbol (c := '*') rfl)

namespace Tangent

variable {line : Tangent}

theorem toList_text (slope : line.slope.isFinite = true)
    (intercept : line.intercept.isFinite = true) :
    line.text.toList = Number.finiteText .markup line.slope ++
      ("*x + ".toList ++ Number.finiteText .markup line.intercept) := by
  simp [text, Number.markup, Number.text, slope, intercept]

theorem exists_formula (slope : line.slope.isFinite = true)
    (intercept : line.intercept.isFinite = true) :
    ∃ f m b, Formula.ofText line.text = .ok f ∧ Alike m line.slope ∧ Alike b line.intercept ∧
      ∀ x, f.expr.eval x = (do
        let product ← (Operation.binary m .mul x).run x
        (Operation.binary product .add b).run x) := by
  obtain ⟨negative, n, spelled, finite, alike⟩ := exists_spelling slope
  obtain ⟨negative', n', spelled', finite', alike'⟩ := exists_spelling intercept
  let d := Grammar.Sum.line (.numeral negative n) (.numeral negative' n')
  have spells : Expr.Spells line.text.toList d.word := by
    have last := Expr.spells_nil.numeral finite' (by simp [Token.Detached]) negative'
    have first := last.times_var_plus.numeral finite (by
      intro c first
      cases first
      exact .inr rfl) negative
    rw [toList_text slope intercept, spelled, spelled', Grammar.Sum.word_line]
    simpa only [List.append_nil] using first
  have parsed := Expr.parse_of_spells spells Grammar.Sum.within_line
  refine ⟨⟨line.text, d.tree⟩, _, _, Formula.ofText_eq_ok.mpr ⟨rfl, parsed⟩, alike, alike', ?_⟩
  intro x
  show Expr.eval x (Grammar.Sum.tree _) = _
  rw [Grammar.Sum.tree_line, Expr.eval, Expr.eval, Grammar.Signed.eval_numeral,
    Grammar.Signed.eval_numeral]
  rfl

/-- The text of a line is read as a formula that has the heights of the line, wherever these and
the products they are made of are finite. -/
theorem eval_text (line : Tangent) (slope : line.slope.isFinite = true)
    (intercept : line.intercept.isFinite = true) :
    ∃ f, Formula.ofText line.text = .ok f ∧ ∀ x : Float, x.isFinite = true →
      ((line.slope * x).isFinite = true ∧ (line.slope * x + line.intercept).isFinite = true →
        ∃ v, f.eval x = .ok v ∧ (v == line.height x) = true) ∧
      (¬((line.slope * x).isFinite = true ∧
          (line.slope * x + line.intercept).isFinite = true) →
        ∃ issue, f.eval x = .error issue ∧ issue.kind = .evaluationError) := by
  obtain ⟨f, m, b, read, alike, alike', evaluates⟩ := exists_formula slope intercept
  refine ⟨f, read, fun x point => ?_⟩
  have product := alike.mul point
  have sum : Alike (m * x + b) (line.slope * x + line.intercept) :=
    product.add_left.trans alike'.add_right
  rw [← product.isFinite_eq]
  constructor
  · rintro ⟨finite, finite'⟩
    refine ⟨m * x + b, ?_, sum.beq finite'⟩
    rw [← sum.isFinite_eq] at finite'
    have first : (Operation.binary m .mul x).run x = .ok (m * x) := if_pos finite
    rw [Formula.eval_eq_ok, evaluates, first]
    exact if_pos finite'
  · intro infinite
    cases result : f.eval x with
    | error issue =>
        obtain ⟨details, rfl⟩ := Formula.eval_eq_error result
        exact ⟨_, rfl, rfl⟩
    | ok v =>
        rw [Formula.eval_eq_ok, evaluates, bind_eq_ok] at result
        obtain ⟨p, first, second⟩ := result
        obtain ⟨finite, rfl⟩ := Operation.run_eq_ok.mp first
        obtain ⟨finite', -⟩ := Operation.run_eq_ok.mp second
        exact absurd ⟨finite, sum.isFinite_eq ▸ finite'⟩ infinite

theorem eval_text_exponents : ∃ f, Formula.ofText "-1.5e+300*x + -2.5e-7" = .ok f ∧
    (∃ v, f.eval 2 = .ok v ∧ (v == height ⟨-1.5e300, -2.5e-7, 0, 0⟩ 2) = true) ∧
      ∃ issue, f.eval 1e9 = .error issue ∧ issue.kind = .evaluationError := by
  have written : text ⟨-1.5e300, -2.5e-7, 0, 0⟩ = "-1.5e+300*x + -2.5e-7" := by decide +kernel
  obtain ⟨f, read, values⟩ :=
    eval_text ⟨-1.5e300, -2.5e-7, 0, 0⟩ (by decide +kernel) (by decide)
  rw [written] at read
  exact ⟨f, read, (values 2 (by decide)).1 (by decide +kernel),
    (values 1e9 (by decide)).2 (by decide +kernel)⟩

end Tangent

end PlotMarkup
