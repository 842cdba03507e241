import PlotMarkup.Curve.Basic
import PlotMarkup.Json.Record

/-!
# Curves in JSON

Every field is written.  A field that is absent has the value of a fresh curve.
-/

namespace PlotMarkup.Curve

/-- The names of the fields in their declared order. -/
def fieldNames : List String :=
  ["expression", "domain", "showLegend", "fill", "tangent", "dashed", "extrema", "color",
    "thickness", "tangentPoint"]

def toJson (c : Curve) : Json :=
  .object [
    ("expression", .text c.expression),
    ("domain", .text c.domain),
    ("showLegend", .bool c.showLegend),
    ("fill", .bool c.fill),
    ("tangent", .bool c.tangent),
    ("dashed", .bool c.dashed),
    ("extrema", .bool c.extrema),
    ("color", .text c.color),
    ("thickness", .text c.thickness),
    ("tangentPoint", .text c.tangentPoint)]

def ofJson? (value : Json) : Option Curve := do
  let fresh := ofExpression ""
  match ← Json.record? fieldNames 0 value with
  | [expression, domain, showLegend, fill, tangent, dashed, extrema, color, thickness,
      tangentPoint] =>
      return {
        expression := ← Json.orDefault? fresh.expression Json.text? expression
        domain := ← Json.orDefault? fresh.domain Json.text? domain
        showLegend := ← Json.orDefault? fresh.showLegend Json.bool? showLegend
        fill := ← Json.orDefault? fresh.fill Json.bool? fill
        tangent := ← Json.orDefault? fresh.tangent Json.bool? tangent
        dashed := ← Json.orDefault? fresh.dashed Json.bool? dashed
        extrema := ← Json.orDefault? fresh.extrema Json.bool? extrema
        color := ← Json.orDefault? fresh.color Json.text? color
        thickness := ← Json.orDefault? fresh.thickness Json.text? thickness
        tangentPoint := ← Json.orDefault? fresh.tangentPoint Json.text? tangentPoint }
  | _ => none

def listOfJson? (value : Json) : Option (List Curve) := do
  (← value.items?).mapM ofJson?

end PlotMarkup.Curve
