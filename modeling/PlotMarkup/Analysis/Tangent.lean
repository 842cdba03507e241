import PlotMarkup.Expr.Formula

/-!
# Slopes and tangents

The slope at a point is a forward difference over a fixed step.  Both the scheme and the step show
in the output, in every tangent and extremum.
-/

namespace PlotMarkup

def slopeStep : Float := 0.0001

/-- `(f(x + h) - f(x)) / h` for the fixed step `h`. -/
def Formula.slope (f : Formula) (x : Float) : Except Diagnostic Float := do
  let ahead ← f.eval (x + slopeStep)
  let here ← f.eval x
  let slope := (ahead - here) / slopeStep
  if slope.isFinite then .ok slope
  else .error (f.failure ("derivative is not finite at x = " ++ Number.message x))

/-- A straight line and the point where it touches a curve. -/
structure Tangent where
  slope : Float
  intercept : Float
  x0 : Float
  y0 : Float
deriving DecidableEq

namespace Tangent

def height (line : Tangent) (x : Float) : Float :=
  line.slope * x + line.intercept

def text (line : Tangent) : String :=
  Number.markup line.slope ++ "*x + " ++ Number.markup line.intercept

end Tangent

def Formula.tangent (f : Formula) (x0 : Float) : Except Diagnostic Tangent := do
  let y0 ← f.eval x0
  let slope ← f.slope x0
  return ⟨slope, y0 - slope * x0, x0, y0⟩

end PlotMarkup
