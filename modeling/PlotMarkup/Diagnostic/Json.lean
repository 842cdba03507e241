import PlotMarkup.Diagnostic.Basic
import PlotMarkup.Json.Record

/-!
# Diagnostics in JSON

What is absent is left out: a missing suggestion or context, and notes when there are none.  A
context with nothing in it is still written.
-/

namespace PlotMarkup.Diagnostic

def Context.toJson (context : Context) : Json :=
  .ofFields [
    ("setting", context.setting.map .text),
    ("function", context.function.map fun index => .integer index),
    ("expression", context.expression.map .text),
    ("notes", if context.notes = [] then none else some (.array (context.notes.map .text)))]

def toJson (d : Diagnostic) : Json :=
  .ofFields [
    ("kind", some (.text d.kind.code)),
    ("message", some (.text d.message)),
    ("suggestion", d.suggestion.map .text),
    ("context", d.context.map Context.toJson),
    ("severity", some (.text d.severity.name))]

def Context.ofJson? (value : Json) : Option Context := do
  match ← Json.record? ["setting", "function", "expression", "notes"] 3 value with
  | [setting, function, expression, notes] =>
      return {
        setting := ← Json.orDefault? none (Json.nullable? Json.text?) setting
        function := ← Json.orDefault? none (Json.nullable? Json.index?) function
        expression := ← Json.orDefault? none (Json.nullable? Json.text?) expression
        notes := ← Json.orDefault? [] (fun notes => do (← notes.items?).mapM Json.text?) notes }
  | _ => none

def ofJson? (value : Json) : Option Diagnostic := do
  match ← Json.record? ["kind", "message", "suggestion", "context", "severity"] 5 value with
  | [kind, message, suggestion, context, severity] =>
      return {
        kind := ← (← kind).variant? >>= Kind.ofCode?
        message := ← (← message).text?
        suggestion := ← Json.orDefault? none (Json.nullable? Json.text?) suggestion
        context := ← Json.orDefault? none (Json.nullable? Context.ofJson?) context
        severity := ← (← severity).variant? >>= Severity.ofName? }
  | _ => none

end PlotMarkup.Diagnostic
