import PlotMarkup.Curve.Json
import PlotMarkup.Number.Text

/-!
# Setting values

The state of a toggle, the position of a slider, a text, or the list of plotted curves.  A setting
accepts values of one variant only, that of its initial value.
-/

namespace PlotMarkup.Setting

inductive Value where
  | toggle (on : Bool)
  | number (x : Float)
  | text (content : String)
  | curves (list : List Curve)
deriving DecidableEq

namespace Value

def typeName : Value → String
  | toggle _ => "Bool"
  | number _ => "Number"
  | text _ => "Text"
  | curves _ => "Functions"

def sameVariant : Value → Value → Bool
  | toggle _, toggle _ => true
  | number _, number _ => true
  | text _, text _ => true
  | curves _, curves _ => true
  | _, _ => false

/-- Equality that compares numbers as numbers: the two zeros are equal, not-a-number is not. -/
def equal : Value → Value → Bool
  | toggle first, toggle second => first == second
  | number first, number second => first == second
  | text first, text second => first == second
  | curves first, curves second => first == second
  | _, _ => false

def toggle? : Value → Option Bool
  | toggle on => some on
  | _ => none

def number? : Value → Option Float
  | number x => some x
  | _ => none

def text? : Value → Option String
  | text content => some content
  | _ => none

def curves? : Value → Option (List Curve)
  | curves list => some list
  | _ => none

/-- Only a toggle that is on enables anything. -/
def isEnabled (value : Value) : Bool :=
  value.toggle?.getD false

def display : Value → String
  | toggle true => "true"
  | toggle false => "false"
  | number x => Number.markup x
  | text content => content
  | curves list => "[" ++ toString list.length ++ " functions]"

def toJson : Value → Json
  | toggle on => .bool on
  | number x => .real x
  | text content => .text content
  | curves list => .array (list.map Curve.toJson)

/-- A value is told by its form alone.  All of it has to be readable, passed over or not. -/
def ofJson? (value : Json) : Option Value :=
  if value.isComplete then
    match value with
    | .bool on => some (toggle on)
    | .text content => some (text content)
    | .array items => (items.mapM Curve.ofJson?).map curves
    | other => other.number?.map number
  else none

end Value

end PlotMarkup.Setting
