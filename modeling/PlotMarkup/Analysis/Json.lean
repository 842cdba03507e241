import PlotMarkup.Json.Record

/-!
# Extrema

A point of a graph and its kind, with its record in JSON.
-/

namespace PlotMarkup

namespace Extremum

inductive Kind where
  | minimum
  | maximum
deriving DecidableEq, Repr

def Kind.all : List Kind := [.minimum, .maximum]

def Kind.name : Kind → String
  | .minimum => "minimum"
  | .maximum => "maximum"

def Kind.ofName? (name : String) : Option Kind :=
  Kind.all.find? (·.name == name)

end Extremum

structure Extremum where
  x : Float
  y : Float
  kind : Extremum.Kind
deriving DecidableEq

namespace Extremum

def toJson (p : Extremum) : Json :=
  .object [("x", .real p.x), ("y", .real p.y), ("kind", .text p.kind.name)]

def ofJson? (value : Json) : Option Extremum := do
  match ← Json.record? ["x", "y", "kind"] 3 value with
  | [x, y, kind] =>
      return {
        x := ← (← x).number?
        y := ← (← y).number?
        kind := ← (← kind).variant? >>= Kind.ofName? }
  | _ => none

end Extremum

end PlotMarkup
