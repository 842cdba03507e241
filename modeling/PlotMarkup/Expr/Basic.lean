/-!
# Expressions

Formulas in the single variable `x`: the tree, its operators and built-in functions.  Angles are in
degrees on both sides, so that `sin(deg(x))` is the sine of `x` radians.
-/

namespace PlotMarkup

inductive Operator where
  | add
  | sub
  | mul
  | div
  | pow
deriving DecidableEq, Repr

namespace Operator

def symbol : Operator → String
  | add => "+"
  | sub => "-"
  | mul => "*"
  | div => "/"
  | pow => "^"

def apply : Operator → Float → Float → Float
  | add, left, right => left + right
  | sub, left, right => left - right
  | mul, left, right => left * right
  | div, left, right => left / right
  | pow, left, right => Float.pow left right

end Operator

/-- The circle constant and the base of the natural logarithm, to the nearest double. -/
def circleConstant : Float := 3.141592653589793

def eulerNumber : Float := 2.718281828459045

def toRadians (degrees : Float) : Float := degrees * (circleConstant / 180)

def toDegrees (radians : Float) : Float := radians * (180 / circleConstant)

inductive Builtin where
  | sin
  | cos
  | tan
  | asin
  | acos
  | atan
  | deg
  | rad
  | sqrt
  | ln
  | log10
  | exp
  | abs
deriving DecidableEq, Repr

namespace Builtin

def name : Builtin → String
  | sin => "sin"
  | cos => "cos"
  | tan => "tan"
  | asin => "asin"
  | acos => "acos"
  | atan => "atan"
  | deg => "deg"
  | rad => "rad"
  | sqrt => "sqrt"
  | ln => "ln"
  | log10 => "log10"
  | exp => "exp"
  | abs => "abs"

def ofName? : String → Option Builtin
  | "sin" => some sin
  | "cos" => some cos
  | "tan" => some tan
  | "asin" => some asin
  | "acos" => some acos
  | "atan" => some atan
  | "deg" => some deg
  | "rad" => some rad
  | "sqrt" => some sqrt
  | "ln" => some ln
  | "log" => some ln
  | "log10" => some log10
  | "exp" => some exp
  | "abs" => some abs
  | _ => none

def apply : Builtin → Float → Float
  | sin, x => Float.sin (toRadians x)
  | cos, x => Float.cos (toRadians x)
  | tan, x => Float.tan (toRadians x)
  | asin, x => toDegrees (Float.asin x)
  | acos, x => toDegrees (Float.acos x)
  | atan, x => toDegrees (Float.atan x)
  | deg, x => toDegrees x
  | rad, x => toRadians x
  | sqrt, x => Float.sqrt x
  | ln, x => Float.log x
  | log10, x => Float.log10 x
  | exp, x => Float.exp x
  | abs, x => Float.abs x

end Builtin

inductive Expr where
  | number (value : Float)
  | var
  | negate (inner : Expr)
  | binary (left : Expr) (op : Operator) (right : Expr)
  | call (function : Builtin) (argument : Expr)
deriving DecidableEq

namespace Expr

def constant? : String → Option Float
  | "pi" => some circleConstant
  | "e" => some eulerNumber
  | _ => none

def usesVariable : Expr → Bool
  | number _ => false
  | var => true
  | negate inner => inner.usesVariable
  | binary left _ right => left.usesVariable || right.usesVariable
  | call _ argument => argument.usesVariable

/-- The number of nodes on the longest path to a leaf. -/
def height : Expr → Nat
  | number _ => 1
  | var => 1
  | negate inner => inner.height + 1
  | binary left _ right => max left.height right.height + 1
  | call _ argument => argument.height + 1

end Expr

end PlotMarkup
