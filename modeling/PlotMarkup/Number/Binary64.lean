/-!
# Binary64 magnitudes

A finite double is a sign and a natural number times a power of two.  The exact algorithms of this
library (shortest decimal text, rounding to a whole number) work on that pair in `Nat` and `Int`;
nothing below approximates.
-/

namespace PlotMarkup.Number

/-- The absolute value of a finite double: `significand * 2 ^ exponent`. -/
structure Magnitude where
  significand : Nat
  exponent : Int
deriving DecidableEq, Repr

/-- The sign bit; it is set for `-0` as well. -/
def isNegative (x : Float) : Bool :=
  Nat.pow 2 63 ≤ x.toBits.toNat

/--
Splits the bits below the sign.  A biased exponent of zero marks the subnormal numbers, which have
no leading one bit and share the exponent of the smallest normal ones.
-/
def magnitude (x : Float) : Magnitude :=
  let bits : Nat := x.toBits.toNat
  let fraction : Nat := bits % Nat.pow 2 52
  let biased : Nat := bits / Nat.pow 2 52 % Nat.pow 2 11
  if biased = 0 then ⟨fraction, -1074⟩ else ⟨Nat.pow 2 52 + fraction, (biased : Int) - 1075⟩

/--
The value `significand * 2 ^ exponent / 10 ^ scale` as a numerator and a denominator, each a product
of powers with natural exponents.
-/
def Magnitude.scaled (v : Magnitude) (scale : Int) : Nat × Nat :=
  (Nat.pow 2 v.exponent.toNat * Nat.pow 10 (-scale).toNat,
    Nat.pow 2 (-v.exponent).toNat * Nat.pow 10 scale.toNat)

/-- The nearest whole number; halves go away from zero, and the sign survives on a zero. -/
def roundHalfAway (x : Float) : Float :=
  if x.isFinite then
    let v := magnitude x
    if 0 ≤ v.exponent then x
    else
      let unit := Nat.pow 2 (-v.exponent).toNat
      let whole := Float.ofNat ((2 * v.significand + unit) / (2 * unit))
      if isNegative x then -whole else whole
  else x

end PlotMarkup.Number
