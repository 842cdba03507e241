import PlotMarkup.Setting.Value
import PlotMarkup.Fragment.Json
import PlotMarkup.Number.Rounding

/-!
# Settings

A setting is one configurable option of a plot: how it is presented, which values it accepts, and
how its value becomes markup.  Its entry in a listing is everything but the markup.
-/

namespace PlotMarkup

namespace Setting

inductive Category where
  | basic
  | axis
  | function
  | shapes
  | grid
  | style
  | other
deriving DecidableEq, Repr

def Category.all : List Category :=
  [.basic, .axis, .function, .shapes, .grid, .style, .other]

def Category.name : Category → String
  | .basic => "basic"
  | .axis => "axis"
  | .function => "function"
  | .shapes => "shapes"
  | .grid => "grid"
  | .style => "style"
  | .other => "other"

def Category.ofName? (name : String) : Option Category :=
  Category.all.find? (·.name == name)

inductive Control where
  | toggle
  | text
  | slider
  | dropdown
  | color
deriving DecidableEq, Repr

def Control.name : Control → String
  | .toggle => "toggle"
  | .text => "text"
  | .slider => "slider"
  | .dropdown => "dropdown"
  | .color => "color"

structure Slider where
  low : Float
  high : Float
  step : Float
deriving DecidableEq

/--
Whether a value is a whole number of steps above the lower end, up to a billionth of a step.  A
step that is not positive allows everything.
-/
def Slider.allows (slider : Slider) (x : Float) : Bool :=
  if slider.step ≤ 0 then true
  else
    let steps := (x - slider.low) / slider.step
    Float.abs (steps - Number.roundHalfAway steps) < 1e-9

/-- Where the fragment of a setting goes. -/
inductive Placement where
  /-- Before all others, if the setting is enabled. -/
  | leading
  /-- In the order of the catalog. -/
  | inline
  /-- After all others, if the setting is enabled. -/
  | trailing
deriving DecidableEq, Repr

def Placement.name : Placement → String
  | .leading => "leading"
  | .inline => "inline"
  | .trailing => "trailing"

end Setting

structure Setting where
  id : String
  name : String
  description : String
  category : Setting.Category
  control : Setting.Control
  initial : Setting.Value
  slider : Option Setting.Slider
  /-- The texts to choose from; any text if there are none. -/
  options : List String
  placement : Setting.Placement
  /-- The toggle that has to be on for the fragment to appear. -/
  shownIf : Option String
  markup : Setting.Value → Except Diagnostic Fragment

namespace Setting

def plain (id : String) (control : Control) (initial : Value)
    (markup : Value → Except Diagnostic Fragment) : Setting where
  id := id
  name := id
  description := ""
  category := .other
  control := control
  initial := initial
  slider := none
  options := []
  placement := .inline
  shownIf := none
  markup := markup

def ofToggle (id : String) (on : Bool) (markup : Value → Except Diagnostic Fragment) : Setting :=
  plain id .toggle (.toggle on) markup

def ofText (id text : String) (markup : Value → Except Diagnostic Fragment) : Setting :=
  plain id .text (.text text) markup

def ofSlider (id : String) (x : Float) (slider : Slider)
    (markup : Value → Except Diagnostic Fragment) : Setting :=
  { plain id .slider (.number x) markup with slider := some slider }

def ofOptions (id text : String) (options : List String)
    (markup : Value → Except Diagnostic Fragment) : Setting :=
  { plain id .dropdown (.text text) markup with options := options }

def ofColor (id color : String) (markup : Value → Except Diagnostic Fragment) : Setting :=
  plain id .color (.text color) markup

def ofCurves (id : String) (markup : Value → Except Diagnostic Fragment) : Setting :=
  plain id .text (.curves []) markup

def named (s : Setting) (name description : String) : Setting :=
  { s with name := name, description := description }

def inCategory (s : Setting) (category : Category) : Setting :=
  { s with category := category }

def placed (s : Setting) (placement : Placement) : Setting :=
  { s with placement := placement }

def onlyIf (s : Setting) (toggle : String) : Setting :=
  { s with shownIf := some toggle }

def mismatch (s : Setting) (value : Value) : Diagnostic :=
  .typeMismatch s.id s.initial.typeName value.typeName

/-- Checks a number against a slider: it is finite, in range and at a step. -/
def checkNumber (s : Setting) (slider : Slider) (x : Float) : Except Diagnostic Unit :=
  if !x.isFinite then .error (.typeMismatch s.id "a finite number" (Number.message x))
  else if x < slider.low ∨ slider.high < x then .error (.outOfRange s.id x slider.low slider.high)
  else if !slider.allows x then .error (.offStep s.id x slider.low slider.step)
  else .ok ()

def checkOption (s : Setting) (text : String) : Except Diagnostic Unit :=
  if s.options = [] ∨ text ∈ s.options then .ok ()
  else
    .error (.typeMismatch s.id ("one of " ++ ", ".intercalate s.options) ("'" ++ text ++ "'"))

def check (s : Setting) (value : Value) : Except Diagnostic Unit :=
  if value.sameVariant s.initial then
    match value with
    | .number x =>
        match s.slider with
        | some slider => s.checkNumber slider x
        | none => .ok ()
    | .text text => s.checkOption text
    | _ => .ok ()
  else .error (s.mismatch value)

/-- The fragment of a value; a failure names the setting. -/
def render (s : Setting) (value : Value) : Except Diagnostic Fragment :=
  if value.sameVariant s.initial then (s.markup value).mapError (·.inSetting s.id)
  else .error (s.mismatch value)

def Slider.toJson (slider : Slider) : Json :=
  .object [("min", .real slider.low), ("max", .real slider.high), ("step", .real slider.step)]

def toJson (s : Setting) : Json :=
  .ofFields [
    ("id", some (.text s.id)),
    ("name", some (.text s.name)),
    ("description", some (.text s.description)),
    ("category", some (.text s.category.name)),
    ("kind", some (.text s.control.name)),
    ("default", some s.initial.toJson),
    ("bounds", s.slider.map Slider.toJson),
    ("options", if s.options = [] then none else some (.array (s.options.map .text))),
    ("placement", some (.text s.placement.name)),
    ("shown_if", s.shownIf.map .text)]

end Setting

end PlotMarkup
