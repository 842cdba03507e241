import PlotMarkup.Number.Binary64

/-!
# Shortest decimals

The reals that round to a given double form an interval around it.  Its shortest decimal is the
point of the coarsest decimal grid that meets the interval, and of two such points the nearer one.
-/

namespace PlotMarkup.Number

/-- The decimal number `digits * 10 ^ exponent`. -/
structure Decimal where
  digits : Nat
  exponent : Int
deriving DecidableEq, Repr

/-- Which of two equally near grid points is written. -/
inductive Tie where
  | up
  | even
deriving DecidableEq, Repr

/--
Whether `candidate * 10 ^ scale` rounds to `v`.  Everything is compared in quarters of the last
binary place: the upper end lies two quarters above the value, the lower end two below it, or one
below it where the neighbour underneath is half as far away.  The ends round to even significands.
-/
def Magnitude.absorbs (v : Magnitude) (scale : Int) (candidate : Nat) : Bool :=
  let (numerator, denominator) := v.scaled scale
  let gap := if v.significand = Nat.pow 2 52 ∧ v.exponent ≠ -1074 then 1 else 2
  let lower := (4 * v.significand - gap) * numerator
  let upper := (4 * v.significand + 2) * numerator
  let point := 4 * candidate * denominator
  if v.significand % 2 = 0 then lower ≤ point && point ≤ upper
  else lower < point && point < upper

/-- The point of the grid of step `10 ^ scale` that rounds to `v` and lies nearest to it, if any. -/
def Magnitude.gridPoint? (tie : Tie) (v : Magnitude) (scale : Int) : Option Nat :=
  let (numerator, denominator) := v.scaled scale
  let below := v.significand * numerator / denominator
  let rest := v.significand * numerator % denominator
  let preferUpper :=
    denominator < 2 * rest ||
      (denominator == 2 * rest && (match tie with | .up => true | .even => below % 2 == 1))
  let (first, second) := if preferUpper then (below + 1, below) else (below, below + 1)
  if v.absorbs scale first then some first
  else if v.absorbs scale second then some second
  else none

/-- Refines the grid by one place at a time, at most `places` times, until it meets the interval. -/
def Magnitude.refine (tie : Tie) (v : Magnitude) : Nat → Int → Decimal
  | 0, scale => ⟨v.significand * (v.scaled scale).1 / (v.scaled scale).2, scale⟩
  | places + 1, scale =>
      match v.gridPoint? tie scale with
      | some digits => ⟨digits, scale⟩
      | none => v.refine tie places (scale - 1)

/--
A power of ten above the value: the binary length times the decimal logarithm of two, which
`30103 / 100000` exceeds.
-/
def Magnitude.coarseScale (v : Magnitude) : Int :=
  ((v.significand.log2 + 1 + v.exponent) * 30103).fdiv 100000 + 1

/--
The shortest decimal of a positive magnitude.  Seventeen digits tell any two doubles apart and the
first grid is at most three places too coarse, so the search ends within its bound.
-/
def Magnitude.shortest (tie : Tie) (v : Magnitude) : Decimal :=
  v.refine tie 24 v.coarseScale

end PlotMarkup.Number
