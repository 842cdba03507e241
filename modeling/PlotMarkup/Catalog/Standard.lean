import PlotMarkup.Catalog.Basic
import PlotMarkup.Curve.Markup

/-!
# The standard catalog

The settings of a plot in a `pgfplots` document, in the order of their fragments.  The axis options
are open until the fragment of `axis_allaround` closes them, and the curves come after that.
-/

namespace PlotMarkup.Catalog

open Setting (Value)

/-! ## Reading values -/

def wrongVariant (expected : String) (value : Value) : Diagnostic :=
  .ofMessage .typeMismatch ("expected " ++ expected ++ ", got " ++ value.typeName)

def toggleOf (value : Value) : Except Diagnostic Bool :=
  match value.toggle? with
  | some on => .ok on
  | none => .error (wrongVariant "Bool" value)

def textOf (value : Value) : Except Diagnostic String :=
  match value.text? with
  | some text => .ok text
  | none => .error (wrongVariant "Text" value)

def numberOf (value : Value) : Except Diagnostic Float :=
  match value.number? with
  | some x => .ok x
  | none => .error (wrongVariant "Number" value)

def curvesOf (value : Value) : Except Diagnostic (List Curve) :=
  match value.curves? with
  | some list => .ok list
  | none => .error (wrongVariant "Functions" value)

/-! ## Kinds of fragments -/

def choice (on off : String) (value : Value) : Except Diagnostic Fragment := do
  return .ofText (if ← toggleOf value then on else off)

def braced (key : String) (value : Value) : Except Diagnostic Fragment := do
  let text ← textOf value
  return .ofText ("\n  " ++ key ++ "=\x7b" ++ text ++ "\x7d,")

def verbatim (key : String) (value : Value) : Except Diagnostic Fragment := do
  let text ← textOf value
  return .ofText ("\n  " ++ key ++ "=" ++ text ++ ",")

def centimetres (key : String) (value : Value) : Except Diagnostic Fragment := do
  let x ← numberOf value
  return .ofText ("\n  " ++ key ++ "=\x7b" ++ Number.markup x ++ "cm\x7d,")

/-! ## Document and picture -/

def preamble : String :=
  "\n\\usepackage\x7bpgfplots\x7d\n\\pgfplotsset\x7bcompat=1.16\x7d\n\\begin\x7bdocument\x7d" ++
    "\n\\begin\x7btikzpicture\x7d\n \n\\begin\x7baxis\x7d["

/-- The opening of a document without the package and the axis. -/
def bareOpening : String :=
  "\n\\begin\x7bdocument\x7d\n\\begin\x7btikzpicture\x7d\n "

def closing : String :=
  "\n\\end\x7baxis\x7d\\end\x7btikzpicture\x7d\\end\x7bdocument\x7d"

/-- Reserved for plots in three dimensions; it has no markup yet. -/
def dimension : Setting :=
  ((Setting.ofToggle "dimension" false (choice "" "")).named "3D"
    "Whether the graph is drawn in 2D or 3D").inCategory .basic

def documentSetup : Setting :=
  (((Setting.ofToggle "documentSetup" true (choice preamble bareOpening)).named "Use pgfplots"
    "Whether to include the pgfplots package and open the axis").inCategory .basic).placed .leading

def documentClose : Setting :=
  (((Setting.ofToggle "documentClose" true (choice closing closing)).named "Document Close"
    "Include the document closing").inCategory .basic).placed .trailing

def title : Setting :=
  ((Setting.ofText "title" "My graph: \\(\\sum\\)" (braced "title")).named "Title"
    "Name displayed above the graph").inCategory .basic

/-- Picture sizes are whole centimetres up to twenty. -/
def sizes : Setting.Slider := ⟨1, 20, 1⟩

def width : Setting :=
  ((Setting.ofSlider "size_x_cm" 10 sizes (centimetres "width")).named "Display size width"
    "Width of the final image in cm").inCategory .basic

def height : Setting :=
  ((Setting.ofSlider "size_y_cm" 10 sizes (centimetres "height")).named "Display size height"
    "Height of the final image in cm").inCategory .basic

/-! ## Axes -/

def axisLabels : Setting :=
  ((Setting.ofToggle "show_axis_label" true (choice "\n" "")).named "Show axis labels"
    "Whether to show the axis labels").inCategory .axis

def axisLabelX : Setting :=
  (((Setting.ofText "axis_label_x" "x" (braced "xlabel")).named "X-Axis Label"
    "Name displayed for the x-axis").inCategory .axis).onlyIf "show_axis_label"

def axisLabelY : Setting :=
  (((Setting.ofText "axis_label_y" "y" (braced "ylabel")).named "Y-Axis Label"
    "Name displayed for the y-axis").inCategory .axis).onlyIf "show_axis_label"

/-- Reserved for hiding the axes; it has no markup yet. -/
def axes : Setting :=
  ((Setting.ofToggle "showAxis" true (choice "" "")).named "Show Axes"
    "Display coordinate axes").inCategory .axis

def xMin : Setting :=
  ((Setting.ofText "xmin" "-0.5" (verbatim "xmin")).named "X-Axis Min"
    "Minimum value for the x-axis").inCategory .axis

def xMax : Setting :=
  ((Setting.ofText "xmax" "10" (verbatim "xmax")).named "X-Axis Max"
    "Maximum value for the x-axis").inCategory .axis

def yMin : Setting :=
  ((Setting.ofText "ymin" "-0.5" (verbatim "ymin")).named "Y-Axis Min"
    "Minimum value for the y-axis").inCategory .axis

def yMax : Setting :=
  ((Setting.ofText "ymax" "5" (verbatim "ymax")).named "Y-Axis Max"
    "Maximum value for the y-axis").inCategory .axis

/-- Closes the axis options. -/
def frame : Setting :=
  ((Setting.ofToggle "axis_allaround" true
    (choice "\n]" " \n  axis lines = middle,\n]")).named "Axis all around"
    "Whether the axis frames the whole graph").inCategory .axis

/-! ## Grid -/

def largeGrid : Setting :=
  ((Setting.ofToggle "showLargeGrid" false (choice "\n   grid=major," "\n")).named
    "Show large grid" "Display the major coordinate grid").inCategory .grid

def smallGrid : Setting :=
  ((Setting.ofToggle "showSmallGrid" false (choice "\n grid=both," "")).named
    "Show small grid" "Display the minor coordinate grid").inCategory .grid

def minorTicks (value : Value) : Except Diagnostic Fragment := do
  let x ← numberOf value
  return .ofText ("\n  minor tick num=" ++ Number.markup x ++ ",")

def gridSize : Setting :=
  (((Setting.ofSlider "gridSize" 5 ⟨1, 10, 1⟩ minorTicks).named "Grid Size"
    "Number of minor ticks between major ticks").inCategory .grid).onlyIf "showSmallGrid"

/-! ## Curves -/

def curvesMarkup (value : Value) : Except Diagnostic Fragment := do
  return Curve.fragment (← curvesOf value)

def curves : Setting :=
  ((Setting.ofCurves curvesId curvesMarkup).named "Functions"
    "Mathematical functions to plot").inCategory .function

/-! ## All of them -/

def standardSettings : List Setting :=
  [dimension, documentSetup, title, width, height, axisLabels, axisLabelX, axisLabelY,
    documentClose, axes, largeGrid, smallGrid, gridSize, xMin, xMax, yMin, yMax, frame, curves]

def withStandard (catalog : Catalog) : Catalog :=
  catalog.registerAll standardSettings

def standard : Catalog := empty.withStandard

end PlotMarkup.Catalog
