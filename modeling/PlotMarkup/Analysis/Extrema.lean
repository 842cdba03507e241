import PlotMarkup.Analysis.Tangent
import PlotMarkup.Analysis.Domain
import PlotMarkup.Analysis.Json
import PlotMarkup.Number.Rounding

/-!
# The search for extrema

The interior of the domain is sampled in equal steps.  A sample where the slope has the opposite
sign of the slope one step before is an extremum; the change of the slope right after it tells a
minimum from a maximum.  Nothing is refined: extrema between samples can be missed, and flat
regions can yield neighbours.
-/

namespace PlotMarkup

namespace Extremum

/-- The number of steps that a domain is divided into, and the most samples taken. -/
def subdivisions : Nat := 100

def places : Int := 3

/-- At most `count` samples below `limit`: every sample is the one before plus the step. -/
def samplesFrom (step limit : Float) : Nat → Float → List Float
  | 0, _ => []
  | count + 1, x =>
      if x < limit then x :: samplesFrom step limit count (x + step) else []

def sampleStep (low high : Float) : Float :=
  (high - low) / Float.ofNat subdivisions

def samples (low high : Float) : List Float :=
  let step := sampleStep low high
  samplesFrom step (high - step) subdivisions (low + step)

def turns (before here : Float) : Bool :=
  (before < 0 && 0 < here) || (0 < before && here < 0)

/-- The kind of an extremum by the second difference of the values. -/
def Kind.ofCurvature (second : Float) : Kind :=
  if 0 < second then .minimum else .maximum

/-- The extremum at a sample, if there is one.  The slope one step ahead has to exist as well. -/
def probe (f : Formula) (step x : Float) : Except Diagnostic (Option Extremum) := do
  let before ← f.slope (x - step)
  let here ← f.slope x
  let _ ← f.slope (x + step)
  if turns before here then
    let ahead ← f.slope (x + slopeStep)
    let y ← f.eval x
    return some {
      x := Number.roundTo x places
      y := Number.roundTo y places
      kind := .ofCurvature ((ahead - here) / slopeStep) }
  else return none

def scan (f : Formula) (step : Float) : List Float → Except Diagnostic (List Extremum)
  | [] => .ok []
  | x :: rest => do
      let found ← probe f step x
      let others ← scan f step rest
      return found.toList ++ others

end Extremum

def Formula.extrema (f : Formula) (low high : Float) : Except Diagnostic (List Extremum) :=
  Extremum.scan f (Extremum.sampleStep low high) (Extremum.samples low high)

/-- The extrema of an expression on a domain; the domain is read first. -/
def extremaOfText (expression domain : String) : Except Diagnostic (List Extremum) := do
  let domain ← Domain.ofText domain
  let f ← Formula.ofText expression
  f.extrema domain.low domain.high

end PlotMarkup
