import PlotMarkup.Curve.Basic
import PlotMarkup.Analysis.Extrema
import PlotMarkup.Fragment.Json

/-!
# Curves in markup

A curve becomes a block of clauses: the plot, its legend entry, its tangent and its extrema.  A
curve whose expression or domain cannot be read has no block; an annotation that cannot be computed
is left out of it.  Curves do not influence one another.
-/

namespace PlotMarkup.Curve

def samples : Nat := 300

def style (c : Curve) : String :=
  ", ".intercalate
    ((if c.dashed then ["dashed"] else []) ++
      (if c.fill then ["fill=" ++ c.color ++ "!20, fill opacity=0.3"] else []) ++
      [c.color, c.thickness])

def plotClause (c : Curve) : String :=
  "\n\\addplot[domain=" ++ c.domain ++ ", " ++ c.style ++ ", samples=" ++ toString samples ++
    "] \x7b" ++ c.expression ++ "\x7d;"

def legendClause (c : Curve) : String :=
  if c.showLegend then "\n\\addlegendentry\x7b\\(" ++ c.expression ++ "\\)\x7d" else ""

def coordinate (x y : Float) : String :=
  "(" ++ Number.markup x ++ "," ++ Number.markup y ++ ")"

def tangentClauses (c : Curve) (line : Tangent) : String :=
  "\n\\addplot[" ++ c.color ++ ", dashed, domain=" ++ c.domain ++ "] \x7b" ++ line.text ++ "\x7d;" ++
    "\n\\addplot[" ++ c.color ++ ", only marks] coordinates \x7b" ++ coordinate line.x0 line.y0 ++
    "\x7d;"

def marksClause (c : Curve) (points : List Extremum) : String :=
  "\n\\addplot[" ++ c.color ++ ", only marks, mark=*, mark size=4pt] coordinates \x7b" ++
    " ".intercalate (points.map fun p => coordinate p.x p.y) ++ "\x7d;"

def labelClause (p : Extremum) : String :=
  let (anchor, y) :=
    match p.kind with
    | .minimum => ("below", p.y - 1)
    | .maximum => ("above", p.y + 1)
  "\n\\node[" ++ anchor ++ "] at (axis cs:" ++ Number.markup p.x ++ "," ++ Number.markup y ++
    ") \x7b" ++ p.kind.name ++ "\x7d;"

def extremaClauses (c : Curve) (points : List Extremum) : String :=
  if points = [] then ""
  else c.marksClause points ++ String.join (points.map labelClause)

def tangentPart (c : Curve) (f : Formula) (domain : Domain) : Except Diagnostic String :=
  if c.wantsTangent then
    Except.mapError (·.withNote "tangent annotation skipped") do
      let x0 ← domain.pointOfText c.tangentPoint
      let line ← f.tangent x0
      return c.tangentClauses line
  else .ok ""

def extremaPart (c : Curve) (f : Formula) (domain : Domain) : Except Diagnostic String :=
  if c.extrema then
    Except.mapError (·.withNote "extrema annotation skipped") do
      let points ← f.extrema domain.low domain.high
      return c.extremaClauses points
  else .ok ""

/-- The block of a curve, or the reason why there is none. -/
def block (c : Curve) : Except Diagnostic Fragment := do
  let f ← Formula.ofText c.expression
  let domain ← Domain.ofText c.domain
  return Fragment.ofText (c.plotClause ++ c.legendClause) ++
    Fragment.ofResult (c.tangentPart f domain) ++ Fragment.ofResult (c.extremaPart f domain)

/-- The blocks of a list of curves, one below the other; issues name the position of their curve. -/
def fragment (curves : List Curve) : Fragment :=
  let blocks := curves.map block
  ⟨"\n".intercalate (blocks.filterMap Fragment.textOf?),
    blocks.zipIdx.flatMap fun (block, index) =>
      (Fragment.issuesOf block).map (·.inFunction index)⟩

end PlotMarkup.Curve
