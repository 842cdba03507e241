import PlotMarkup.Expr.Eval
import PlotMarkup.Diagnostic.Basic

/-!
# Formulas

An expression together with the text it was read from.  Failures of reading and of evaluation are
diagnostics that carry that text.
-/

namespace PlotMarkup

structure Formula where
  source : String
  expr : Expr
deriving DecidableEq

namespace Formula

def ofText (source : String) : Except Diagnostic Formula :=
  match Expr.parse source with
  | .ok expr => .ok ⟨source, expr⟩
  | .error e => .error ((Diagnostic.invalidExpression e.message).withExpression source)

def failure (f : Formula) (details : String) : Diagnostic :=
  (Diagnostic.evaluationError details).withExpression f.source

def eval (f : Formula) (x : Float) : Except Diagnostic Float :=
  match f.expr.eval x with
  | .ok value => .ok value
  | .error e => .error (f.failure e.message)

end Formula

end PlotMarkup
