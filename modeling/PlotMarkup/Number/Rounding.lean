import PlotMarkup.Number.Binary64

/-!
# Rounding to decimal places

The value is scaled by a power of ten, rounded to a whole number and scaled back, each step in
binary64.
-/

namespace PlotMarkup.Number

/-- `accumulated * base ^ exponent` by repeated squaring, every product rounded. -/
def powerFrom (accumulated base : Float) (exponent : Nat) : Float :=
  let accumulated := if exponent % 2 = 1 then accumulated * base else accumulated
  if exponent < 2 then accumulated
  else powerFrom accumulated (base * base) (exponent / 2)
termination_by exponent

/-- `10 ^ places`; a negative power is the reciprocal of the positive one. -/
def tenPower (places : Int) : Float :=
  let power := powerFrom 1 10 places.natAbs
  if places < 0 then 1 / power else power

/-- Rounds to a number of decimal places, halves away from zero; a zero result has no sign. -/
def roundTo (x : Float) (places : Int) : Float :=
  let factor := tenPower places
  let rounded := roundHalfAway (x * factor) / factor
  if rounded == 0 then 0 else rounded

end PlotMarkup.Number
