import PlotMarkup.Text.Blank

/-!
# Curves

One plotted function: its expression, the domain it is drawn on, its look, and the annotations that
are wanted with it.
-/

namespace PlotMarkup

structure Curve where
  expression : String
  /-- The domain, written `low:high`. -/
  domain : String
  showLegend : Bool
  fill : Bool
  tangent : Bool
  dashed : Bool
  extrema : Bool
  color : String
  thickness : String
  /-- Where the tangent touches; read only when a tangent is wanted. -/
  tangentPoint : String
deriving DecidableEq, Repr

namespace Curve

def colors : List String :=
  ["black", "red", "blue", "teal", "orange", "green", "purple"]

def thicknesses : List String :=
  ["very thin", "thin", "thick", "very thick"]

def defaultDomain : String := "-10:10"

def ofExpression (expression : String) : Curve where
  expression := expression
  domain := defaultDomain
  showLegend := false
  fill := false
  tangent := false
  dashed := false
  extrema := false
  color := "black"
  thickness := "thin"
  tangentPoint := ""

def withDomain (c : Curve) (domain : String) : Curve := { c with domain := domain }

def withColor (c : Curve) (color : String) : Curve := { c with color := color }

def withThickness (c : Curve) (thickness : String) : Curve := { c with thickness := thickness }

def withLegend (c : Curve) (shown : Bool) : Curve := { c with showLegend := shown }

def withFill (c : Curve) (fill : Bool) : Curve := { c with fill := fill }

def withDashed (c : Curve) (dashed : Bool) : Curve := { c with dashed := dashed }

def withExtrema (c : Curve) (extrema : Bool) : Curve := { c with extrema := extrema }

def withTangentAt (c : Curve) (point : String) : Curve :=
  { c with tangent := true, tangentPoint := point }

/-- A tangent is asked for and its point is given. -/
def wantsTangent (c : Curve) : Bool :=
  c.tangent && !Text.isBlankText c.tangentPoint

end Curve

end PlotMarkup
