import PlotMarkup.Number.Text

/-!
# Diagnostics

What went wrong, where, and what to do about it.  A diagnostic never stops the generation of a
document: the fragment or annotation it speaks of is left out and the diagnostic is reported next
to the text.
-/

namespace PlotMarkup

namespace Diagnostic

inductive Kind where
  | invalidExpression
  | evaluationError
  /-- The domain is not two numbers in increasing order. -/
  | invalidDomain
  /-- The tangent point is no number or lies outside the domain. -/
  | invalidTangentPoint
  | unknownSetting
  | typeMismatch
  | invalidConfig
  | internal
deriving DecidableEq, Repr

def Kind.all : List Kind :=
  [.invalidExpression, .evaluationError, .invalidDomain, .invalidTangentPoint, .unknownSetting,
    .typeMismatch, .invalidConfig, .internal]

def Kind.code : Kind → String
  | .invalidExpression => "INVALID_EXPRESSION"
  | .evaluationError => "EVALUATION_ERROR"
  | .invalidDomain => "INVALID_DOMAIN"
  | .invalidTangentPoint => "INVALID_TANGENT_POINT"
  | .unknownSetting => "UNKNOWN_SETTING"
  | .typeMismatch => "TYPE_MISMATCH"
  | .invalidConfig => "INVALID_CONFIG"
  | .internal => "INTERNAL"

def Kind.ofCode? (code : String) : Option Kind :=
  Kind.all.find? (·.code == code)

inductive Severity where
  /-- One annotation is missing. -/
  | warning
  /-- A fragment is missing. -/
  | error
  /-- Nothing could be generated. -/
  | fatal
deriving DecidableEq, Repr

def Severity.all : List Severity := [.warning, .error, .fatal]

def Severity.name : Severity → String
  | .warning => "warning"
  | .error => "error"
  | .fatal => "fatal"

def Severity.ofName? (name : String) : Option Severity :=
  Severity.all.find? (·.name == name)

structure Context where
  setting : Option String
  function : Option Nat
  expression : Option String
  notes : List String
deriving DecidableEq, Repr

def Context.empty : Context := ⟨none, none, none, []⟩

end Diagnostic

structure Diagnostic where
  kind : Diagnostic.Kind
  message : String
  suggestion : Option String
  context : Option Diagnostic.Context
  severity : Diagnostic.Severity
deriving DecidableEq, Repr

namespace Diagnostic

def ofMessage (kind : Kind) (message : String) : Diagnostic :=
  ⟨kind, message, none, none, .error⟩

def withSuggestion (d : Diagnostic) (suggestion : String) : Diagnostic :=
  { d with suggestion := some suggestion }

def withSeverity (d : Diagnostic) (severity : Severity) : Diagnostic :=
  { d with severity := severity }

/-- Changes the context, which is an empty one at first. -/
def updateContext (d : Diagnostic) (update : Context → Context) : Diagnostic :=
  { d with context := some (update (d.context.getD .empty)) }

def inSetting (d : Diagnostic) (id : String) : Diagnostic :=
  d.updateContext fun context => { context with setting := some id }

def inFunction (d : Diagnostic) (index : Nat) : Diagnostic :=
  d.updateContext fun context => { context with function := some index }

def withExpression (d : Diagnostic) (expression : String) : Diagnostic :=
  d.updateContext fun context => { context with expression := some expression }

def withNote (d : Diagnostic) (note : String) : Diagnostic :=
  d.updateContext fun context => { context with notes := context.notes ++ [note] }

/-! ## The diagnostics of this library -/

def invalidExpression (details : String) : Diagnostic :=
  (ofMessage .invalidExpression ("Invalid expression: " ++ details)).withSuggestion
    "Use x, numbers, + - * / ^, parentheses and sin, cos, tan, deg, sqrt, ln, log, exp, abs"

def evaluationError (details : String) : Diagnostic :=
  (ofMessage .evaluationError ("Evaluation error: " ++ details)).withSuggestion
    "Check the domain for poles, negative roots or logarithms of non-positive values"

def invalidDomain (domain reason : String) : Diagnostic :=
  (ofMessage .invalidDomain ("Invalid domain '" ++ domain ++ "': " ++ reason)).withSuggestion
    "Write the domain as min:max with min < max, e.g. -10:10"

def invalidTangentPoint (point reason : String) : Diagnostic :=
  ((ofMessage .invalidTangentPoint
      ("Invalid tangent point '" ++ point ++ "': " ++ reason)).withSuggestion
    "Use a number inside the function's domain").withSeverity .warning

def unknownSetting (id : String) : Diagnostic :=
  ((ofMessage .unknownSetting ("Unknown setting: " ++ id)).withSuggestion
    "Use catalog() to list available settings").inSetting id

def typeMismatch (id expected got : String) : Diagnostic :=
  (ofMessage .typeMismatch
    ("Setting '" ++ id ++ "' expects " ++ expected ++ ", got " ++ got)).inSetting id

def outOfRange (id : String) (value low high : Float) : Diagnostic :=
  (ofMessage .typeMismatch
    ("Setting '" ++ id ++ "' must lie in [" ++ Number.markup low ++ ", " ++ Number.markup high ++
      "], got " ++ Number.markup value)).inSetting id

def offStep (id : String) (value low step : Float) : Diagnostic :=
  (ofMessage .typeMismatch
    ("Setting '" ++ id ++ "' moves in steps of " ++ Number.markup step ++ " from " ++
      Number.markup low ++ ", got " ++ Number.markup value)).inSetting id

def invalidConfig (details : String) : Diagnostic :=
  ((ofMessage .invalidConfig ("Invalid configuration: " ++ details)).withSuggestion
    "Expected \x7b\"settings\": \x7bid: value\x7d, \"functions\": [...]\x7d").withSeverity .fatal

def internal (details : String) : Diagnostic :=
  ((ofMessage .internal ("Internal error: " ++ details)).withSuggestion
    "This is a bug, please report it").withSeverity .fatal

def line (d : Diagnostic) : String :=
  "[" ++ d.kind.code ++ "] " ++ d.message ++
    match d.suggestion with
    | some suggestion => " (suggestion: " ++ suggestion ++ ")"
    | none => ""

end Diagnostic

end PlotMarkup
