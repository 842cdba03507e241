import PlotMarkup.Expr.Parse

/-!
# Values of expressions

`Expr.value` is plain binary64 arithmetic.  `Expr.eval` computes the same values and stops at the
first operator or function, operands before operators and left before right, whose result is an
infinity or not a number.
-/

namespace PlotMarkup

inductive Operation where
  | binary (left : Float) (op : Operator) (right : Float)
  | call (function : Builtin) (argument : Float)
deriving DecidableEq

namespace Operation

def value : Operation → Float
  | binary left op right => op.apply left right
  | call function argument => function.apply argument

def describe : Operation → String
  | binary left op right =>
      Number.message left ++ " " ++ op.symbol ++ " " ++ Number.message right
  | call function argument => function.name ++ "(" ++ Number.message argument ++ ")"

end Operation

/-- An operation without a finite result, met while evaluating at a point. -/
structure NonFinite where
  operation : Operation
  point : Float
deriving DecidableEq

def NonFinite.message (failure : NonFinite) : String :=
  failure.operation.describe ++ " is not finite at x = " ++ Number.message failure.point

def Operation.run (operation : Operation) (x : Float) : Except NonFinite Float :=
  if operation.value.isFinite then .ok operation.value else .error ⟨operation, x⟩

namespace Expr

/-- The value at `x` without any check. -/
def value (x : Float) : Expr → Float
  | number value => value
  | var => x
  | negate inner => -inner.value x
  | binary left op right => op.apply (left.value x) (right.value x)
  | call function argument => function.apply (argument.value x)

/-- The value at `x`, if every operation on the way to it is finite. -/
def eval (x : Float) : Expr → Except NonFinite Float
  | number value => .ok value
  | var => .ok x
  | negate inner => do
      let value ← inner.eval x
      return -value
  | binary left op right => do
      let left ← left.eval x
      let right ← right.eval x
      (Operation.binary left op right).run x
  | call function argument => do
      let argument ← argument.eval x
      (Operation.call function argument).run x

end Expr

end PlotMarkup
