import PlotMarkup.Proofs.Analysis.Domain
import PlotMarkup.Proofs.Expr.Characters
import PlotMarkup.Proofs.Expr.Evaluation

namespace PlotMarkup

open Number (isDecimalChar)

namespace Domain

theorem isDecimalChar_of_reads {part : String} {x : Float} (reads : Reads part x) {c : Char}
    (member : c ∈ part.toList) : Text.isBlank c = true ∨ isDecimalChar c = true := by
  obtain ⟨core, trimmed, read, finite⟩ := reads
  rw [Number.read?, String.toList_ofList] at read
  generalize part.toList = cs at trimmed member
  cases trimmed with
  | blank all => exact .inl (all c member)
  | framed before framed after =>
      rw [List.mem_append, List.mem_append] at member
      rcases member with (lead | inside) | trail
      · exact .inl (before c lead)
      · exact .inr (Number.isDecimalChar_of_readChars? read finite c inside)
      · exact .inl (after c trail)

variable {text : String} {domain : Domain}

theorem isDecimalChar_of_ofText (read : ofText text = .ok domain) {c : Char}
    (member : c ∈ text.toList) :
    Text.isBlank c = true ∨ isDecimalChar c = true ∨ c = ':' := by
  obtain ⟨left, right, rfl, -, -, lower, upper, -⟩ := ofText_eq_ok.mp read
  rw [toList_sides, List.mem_append, List.mem_cons] at member
  rcases member with member | colon | member
  · exact (isDecimalChar_of_reads lower member).imp_right .inl
  · exact .inr (.inr colon)
  · exact (isDecimalChar_of_reads upper member).imp_right .inl

theorem count_colon (read : ofText text = .ok domain) : text.toList.count ':' = 1 := by
  obtain ⟨left, right, rfl, noLeft, noRight, -⟩ := ofText_eq_ok.mp read
  rw [toList_sides, List.count_append, List.count_cons_self, List.count_eq_zero.mpr noLeft,
    List.count_eq_zero.mpr noRight]

end Domain

namespace Curve

def markupChars : List Char :=
  ['\x7b', '\x7d', '[', ']', '\\', '%', '$', '&', '#', ',', ';', '_', '~']

/-- The expression and the domain of a curve leave the markup around them alone. -/
structure Confined (c : Curve) : Prop where
  expression : ∀ char ∈ c.expression.toList,
    Text.isBlank char = true ∨ Expr.isFormulaChar char = true
  nested : ∀ front, front <+: c.expression.toList → front.count ')' ≤ front.count '('
  closed : c.expression.toList.count '(' = c.expression.toList.count ')'
  domain : ∀ char ∈ c.domain.toList,
    Text.isBlank char = true ∨ isDecimalChar char = true ∨ char = ':'
  colon : c.domain.toList.count ':' = 1
  inert : ∀ char ∈ markupChars, char ∉ c.expression.toList ∧ char ∉ c.domain.toList

theorem inert_of_chars {expression domain : List Char}
    (formula : ∀ char ∈ expression, Text.isBlank char = true ∨ Expr.isFormulaChar char = true)
    (decimal : ∀ char ∈ domain,
      Text.isBlank char = true ∨ isDecimalChar char = true ∨ char = ':') :
    ∀ char ∈ markupChars, char ∉ expression ∧ char ∉ domain := by
  have outside : markupChars.all (fun char => !Text.isBlank char && !Expr.isFormulaChar char &&
      !isDecimalChar char && char != ':') = true := by decide
  intro char special
  have excluded := List.all_eq_true.mp outside char special
  simp only [Bool.and_eq_true, Bool.not_eq_true', bne_iff_ne] at excluded
  obtain ⟨⟨⟨notBlank, notFormula⟩, notDecimal⟩, notColon⟩ := excluded
  constructor
  · intro member
    have inside := formula char member
    simp [notBlank, notFormula] at inside
  · intro member
    have inside := decimal char member
    simp [notBlank, notDecimal, notColon] at inside

theorem confined_of_block {c : Curve} {fragment : Fragment} (made : c.block = .ok fragment) :
    Confined c := by
  obtain ⟨f, domain, formula, bounds, -⟩ := block_eq_ok.mp made
  have parsed := (Formula.ofText_eq_ok.mp formula).2
  have expressionChars := fun char => Expr.isFormulaChar_of_parse parsed (c := char)
  have domainChars := fun char => Domain.isDecimalChar_of_ofText bounds (c := char)
  exact {
    expression := expressionChars
    nested := fun _ => Expr.count_close_le parsed
    closed := Expr.count_open_eq parsed
    domain := domainChars
    colon := Domain.count_colon bounds
    inert := inert_of_chars expressionChars domainChars }

def spacedCurve : Curve :=
  (ofExpression "sin(x)^2\u00A0+ 1.5e1*( x - pi )").withDomain " -2.5 : 1e1\n"

theorem confined_spacedCurve :
    ∃ fragment, spacedCurve.block = .ok fragment ∧ Confined spacedCurve := by
  have drawn : spacedCurve.block.isOk = true := by decide +kernel
  obtain ⟨fragment, made⟩ := exists_of_isOk drawn
  exact ⟨fragment, made, confined_of_block made⟩

end Curve

end PlotMarkup
