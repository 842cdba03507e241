import PlotMarkup.SortedMap
import PlotMarkup.Store.Basic
import PlotMarkup.Json.Reader
import PlotMarkup.Json.Writer

/-!
# Configurations

A configuration document names values for settings and, apart from them, curves.  As JSON it is an
object such as `{"settings": {"title": "T"}, "functions": [{"expression": "x^2"}]}`.
-/

namespace PlotMarkup

open Setting (Value)

structure Config where
  settings : SortedMap Value
  curves : List Curve

namespace Config

def empty : Config := ⟨.empty, []⟩

def toJson (config : Config) : Json :=
  .object [
    ("settings", .object (config.settings.entries.map fun (id, value) => (id, value.toJson))),
    ("functions", .array (config.curves.map Curve.toJson))]

/-- A reader enters 127 lists and objects; the document and its map of settings are two of them. -/
def mostNested : Nat := 125

/--
The value of a setting.  It is kept as a whole until its variant is known, which bounds its nesting.
The other parts of a document nest as far as they are read, and are passed over beyond that.
-/
def valueOfJson? (value : Json) : Option Value :=
  if value.nesting ≤ mostNested then Value.ofJson? value else none

/-- Values by id; of a repeated id the last one counts. -/
def settingsOfJson? : Json → Option (SortedMap Value)
  | .object fields => do
      let entries ← fields.mapM fun (id, value) => (valueOfJson? value).map fun value => (id, value)
      return SortedMap.ofList entries
  | _ => none

def ofJson? (value : Json) : Option Config := do
  match ← Json.record? ["settings", "functions"] 0 value with
  | [settings, functions] =>
      return {
        settings := ← Json.orDefault? .empty settingsOfJson? settings
        curves := ← Json.orDefault? [] Curve.listOfJson? functions }
  | _ => none

def text (config : Config) : String :=
  config.toJson.pretty

def ofText (text : String) : Except Diagnostic Config :=
  match Json.read? text with
  | none => .error (.invalidConfig "not a JSON document")
  | some value =>
      match ofJson? value with
      | none => .error (.invalidConfig "not a map of settings and a list of functions")
      | some config => .ok config

end Config

namespace Store

/-- Attempts a write; a refused one adds its diagnostic and leaves the store as it is. -/
def attempt (write : Store → Except Diagnostic Store) (state : Store × List Diagnostic) :
    Store × List Diagnostic :=
  match write state.1 with
  | .ok store => (store, state.2)
  | .error issue => (state.1, state.2 ++ [issue])

/--
Writes all values of a configuration in the order of their ids, then its curves if it has any.
Refused entries are reported and do not keep the others from being written.
-/
def apply (store : Store) (config : Config) : Store × List Diagnostic :=
  let written := config.settings.entries.foldl
    (fun state entry => attempt (·.set entry.1 entry.2) state) (store, [])
  if config.curves = [] then written else attempt (·.setCurves config.curves) written

end Store

end PlotMarkup
