import PlotMarkup.Proofs.Catalog.Rendering
import PlotMarkup.Proofs.Curve.Blocks
import PlotMarkup.Proofs.Store.Assembly
import PlotMarkup.Proofs.Store.Session

/-!
# The layout of standard documents

A document of the standard catalog is laid out by the values of its settings alone (`Sheet.text`):
the opening of the picture, the options of its axis, the bracket that closes them, the curves and
the closing.  Every state of a session holds the values of one sheet, and its document is the text
of that sheet.
-/

namespace PlotMarkup

open Setting (Value)

/-- The values that the document of a plot is made of. -/
structure Sheet where
  setup : Bool
  title : String
  width : Float
  height : Float
  labels : Bool
  labelX : String
  labelY : String
  largeGrid : Bool
  smallGrid : Bool
  gridSize : Float
  xMin : String
  xMax : String
  yMin : String
  yMax : String
  framed : Bool
  curves : List Curve
  close : Bool

namespace Sheet

def entries (sheet : Sheet) : List (Setting × Value) :=
  [(Catalog.documentSetup, .toggle sheet.setup), (Catalog.title, .text sheet.title),
    (Catalog.width, .number sheet.width), (Catalog.height, .number sheet.height),
    (Catalog.axisLabels, .toggle sheet.labels), (Catalog.axisLabelX, .text sheet.labelX),
    (Catalog.axisLabelY, .text sheet.labelY), (Catalog.documentClose, .toggle sheet.close),
    (Catalog.largeGrid, .toggle sheet.largeGrid), (Catalog.smallGrid, .toggle sheet.smallGrid),
    (Catalog.gridSize, .number sheet.gridSize), (Catalog.xMin, .text sheet.xMin),
    (Catalog.xMax, .text sheet.xMax), (Catalog.yMin, .text sheet.yMin),
    (Catalog.yMax, .text sheet.yMax), (Catalog.frame, .toggle sheet.framed),
    (Catalog.curves, .curves sheet.curves)]

def opening (sheet : Sheet) : String :=
  if sheet.setup then
    "\n\\usepackage\x7bpgfplots\x7d\n\\pgfplotsset\x7bcompat=1.16\x7d\n\\begin\x7bdocument\x7d" ++
      "\n\\begin\x7btikzpicture\x7d\n \n\\begin\x7baxis\x7d["
  else ""

def sizeLines (sheet : Sheet) : List String :=
  ["\n  title=\x7b" ++ sheet.title ++ "\x7d,",
    "\n  width=\x7b" ++ Number.markup sheet.width ++ "cm\x7d,",
    "\n  height=\x7b" ++ Number.markup sheet.height ++ "cm\x7d,"]

def labelLines (sheet : Sheet) : List String :=
  if sheet.labels then
    ["\n", "\n  xlabel=\x7b" ++ sheet.labelX ++ "\x7d,", "\n  ylabel=\x7b" ++ sheet.labelY ++ "\x7d,"]
  else []

def gridLines (sheet : Sheet) : List String :=
  (if sheet.largeGrid then "\n   grid=major," else "\n") ::
    if sheet.smallGrid then
      ["\n grid=both,", "\n  minor tick num=" ++ Number.markup sheet.gridSize ++ ","]
    else []

def rangeLines (sheet : Sheet) : List String :=
  ["\n  xmin=" ++ sheet.xMin ++ ",", "\n  xmax=" ++ sheet.xMax ++ ",",
    "\n  ymin=" ++ sheet.yMin ++ ",", "\n  ymax=" ++ sheet.yMax ++ ","]

def frameLines (sheet : Sheet) : List String :=
  if sheet.framed then [] else [" \n  axis lines = middle,"]

def optionLines (sheet : Sheet) : List String :=
  sheet.sizeLines ++ sheet.labelLines ++ sheet.gridLines ++ sheet.rangeLines ++ sheet.frameLines

def bracket : String := "\n]"

def closing (sheet : Sheet) : String :=
  if sheet.close then "\n\\end\x7baxis\x7d\\end\x7btikzpicture\x7d\\end\x7bdocument\x7d" else ""

def text (sheet : Sheet) : String :=
  sheet.opening ++ String.join sheet.optionLines ++ bracket ++
    (Curve.fragment sheet.curves).text ++ sheet.closing

end Sheet

def Store.Holds (store : Store) (sheet : Sheet) : Prop :=
  ∀ entry ∈ sheet.entries, store.get entry.1.id = .ok entry.2

/-! ## The text of a document, setting by setting -/

namespace Catalog

variable {catalog : Catalog} {history : List Command} {s : Setting}

/-- What a setting adds to the text between the bookends. -/
def inlineText (catalog : Catalog) (history : List Command) (s : Setting) : String :=
  if s.placement = .inline && catalog.isVisibleAfter history s then
    (s.contribution (latest s history)).text
  else ""

theorem join_filter_map (select : Setting → Bool) (text : Setting → String)
    (settings : List Setting) :
    String.join ((settings.filter select).map text) =
      String.join (settings.map fun s => if select s then text s else "") := by
  induction settings with
  | nil => rfl
  | cons s rest ih =>
      rw [List.map_cons, String.join_cons, ← ih, List.filter_cons]
      split
      · rw [List.map_cons, String.join_cons]
      · rw [String.empty_append]

theorem text_inlinesAfter (catalog : Catalog) (history : List Command) :
    (Store.contributions (catalog.inlinesAfter history)).text =
      String.join (catalog.settings.map (catalog.inlineText history)) := by
  rw [Store.contributions, Fragment.assemble, inlinesAfter, List.map_map, List.map_map]
  exact join_filter_map _ _ _

theorem inlineText_of_made {fragment : Fragment} {value : Value} (inline : s.placement = .inline)
    (held : latest s history = value) (made : s.markup value = .ok fragment) :
    catalog.inlineText history s =
      if catalog.isVisibleAfter history s then fragment.text else "" := by
  rw [inlineText, inline, held, Setting.contribution, made]
  simp

theorem inlineText_of_bookend (bookend : s.placement ≠ .inline) :
    catalog.inlineText history s = "" := by
  simp [inlineText, bookend]

theorem inlineText_of_visible {fragment : Fragment} {value : Value} (inline : s.placement = .inline)
    (always : s.shownIf = none) (held : latest s history = value)
    (made : s.markup value = .ok fragment) : catalog.inlineText history s = fragment.text := by
  rw [inlineText_of_made inline held made, isVisibleAfter, always]
  rfl

theorem inlineText_of_always {text : String} {value : Value} (inline : s.placement = .inline)
    (always : s.shownIf = none) (held : latest s history = value)
    (made : s.markup value = .ok (.ofText text)) : catalog.inlineText history s = text :=
  inlineText_of_visible inline always held made

theorem inlineText_of_guard {text : String} {value : Value} {guard : Setting} {on : Bool}
    (inline : s.placement = .inline) (known : guard ∈ catalog.settings)
    (guarded : s.shownIf = some guard.id) (toggle : latest guard history = .toggle on)
    (held : latest s history = value) (made : s.markup value = .ok (.ofText text)) :
    catalog.inlineText history s = if on then text else "" := by
  have visible : catalog.isVisibleAfter history s = on := by
    rw [isVisibleAfter, guarded]
    show catalog.isOnAfter history guard.id = on
    rw [isOnAfter, get?_self known, Option.any_some, toggle]
    cases on <;> simp
  rw [inlineText_of_made inline held made, visible]
  rfl

theorem inlineText_of_silent {initially : Bool} (initial : s.initial = .toggle initially)
    (inline : s.placement = .inline) (always : s.shownIf = none) (markup : s.markup = choice "" "") :
    catalog.inlineText history s = "" := by
  have variant := (s.fits_latest history).variant
  rw [initial] at variant
  obtain ⟨on, held⟩ := Value.sameVariant_toggle.mp variant
  have made : s.markup (.toggle on) = .ok (.ofText "") := by
    rw [markup]
    cases on <;> rfl
  exact inlineText_of_always inline always held made

end Catalog

/-! ## The settings of the standard catalog, group by group -/

namespace Store

open Catalog (standard standardSettings standard_settings)

variable {history : List Command} {sheet : Sheet}

theorem settings_entries (sheet : Sheet) :
    sheet.entries.map Prod.fst =
      standardSettings.filter fun s => s.id ≠ "dimension" && s.id ≠ "showAxis" := rfl

theorem mem_entries {s : Setting} (member : s ∈ sheet.entries.map Prod.fst) :
    s ∈ standard.settings ∧ s.id ≠ "dimension" ∧ s.id ≠ "showAxis" := by
  rw [settings_entries, List.mem_filter] at member
  rw [standard_settings]
  simpa using member

theorem Holds.latest_eq {s : Setting} {value : Value}
    (holds : Holds ((ofCatalog standard).afterAll history) sheet) (row : Nat)
    (there : sheet.entries[row]? = some (s, value)) : latest s history = value := by
  have member := List.mem_of_getElem? there
  have known := (mem_entries (List.mem_map_of_mem member)).1
  have held := holds _ member
  rw [get_afterAll history (Catalog.get?_self known)] at held
  exact Except.ok.inj held

namespace Holds

variable (holds : Holds ((ofCatalog standard).afterAll history) sheet)
include holds

theorem sizes :
    standard.inlineText history Catalog.title ++ (standard.inlineText history Catalog.width ++
      standard.inlineText history Catalog.height) = String.join sheet.sizeLines := by
  have title : latest Catalog.title history = .text sheet.title :=
    holds.latest_eq 1 rfl
  have width : latest Catalog.width history = .number sheet.width :=
    holds.latest_eq 2 rfl
  have height : latest Catalog.height history = .number sheet.height :=
    holds.latest_eq 3 rfl
  rw [Catalog.inlineText_of_always rfl rfl title rfl,
    Catalog.inlineText_of_always rfl rfl width rfl,
    Catalog.inlineText_of_always rfl rfl height rfl]
  simp only [Sheet.sizeLines, String.join_cons, String.join_nil,
    String.append_empty, String.reduceAppend]

theorem labelling :
    standard.inlineText history Catalog.axisLabels ++
      (standard.inlineText history Catalog.axisLabelX ++
        standard.inlineText history Catalog.axisLabelY) = String.join sheet.labelLines := by
  have labels : latest Catalog.axisLabels history = .toggle sheet.labels :=
    holds.latest_eq 4 rfl
  have labelX : latest Catalog.axisLabelX history = .text sheet.labelX :=
    holds.latest_eq 5 rfl
  have labelY : latest Catalog.axisLabelY history = .text sheet.labelY :=
    holds.latest_eq 6 rfl
  have known : Catalog.axisLabels ∈ standard.settings :=
    standard_settings ▸ List.mem_of_getElem? (i := 5) rfl
  rw [Catalog.inlineText_of_always rfl rfl labels rfl,
    Catalog.inlineText_of_guard rfl known rfl labels labelX rfl,
    Catalog.inlineText_of_guard rfl known rfl labels labelY rfl, Sheet.labelLines]
  cases sheet.labels <;>
    simp only [String.join_cons, String.join_nil, String.append_empty,
      String.reduceAppend, reduceIte, Bool.false_eq_true]

theorem grid :
    standard.inlineText history Catalog.largeGrid ++
      (standard.inlineText history Catalog.smallGrid ++
        standard.inlineText history Catalog.gridSize) = String.join sheet.gridLines := by
  have largeGrid : latest Catalog.largeGrid history = .toggle sheet.largeGrid :=
    holds.latest_eq 8 rfl
  have smallGrid : latest Catalog.smallGrid history = .toggle sheet.smallGrid :=
    holds.latest_eq 9 rfl
  have gridSize : latest Catalog.gridSize history = .number sheet.gridSize :=
    holds.latest_eq 10 rfl
  have known : Catalog.smallGrid ∈ standard.settings :=
    standard_settings ▸ List.mem_of_getElem? (i := 11) rfl
  rw [Catalog.inlineText_of_always rfl rfl largeGrid rfl,
    Catalog.inlineText_of_always rfl rfl smallGrid rfl,
    Catalog.inlineText_of_guard rfl known rfl smallGrid gridSize rfl, Sheet.gridLines]
  cases sheet.smallGrid <;>
    simp only [String.join_cons, String.join_nil, String.append_empty,
      reduceIte, Bool.false_eq_true]

theorem range :
    standard.inlineText history Catalog.xMin ++ (standard.inlineText history Catalog.xMax ++
      (standard.inlineText history Catalog.yMin ++ standard.inlineText history Catalog.yMax)) =
        String.join sheet.rangeLines := by
  have xMin : latest Catalog.xMin history = .text sheet.xMin :=
    holds.latest_eq 11 rfl
  have xMax : latest Catalog.xMax history = .text sheet.xMax :=
    holds.latest_eq 12 rfl
  have yMin : latest Catalog.yMin history = .text sheet.yMin :=
    holds.latest_eq 13 rfl
  have yMax : latest Catalog.yMax history = .text sheet.yMax :=
    holds.latest_eq 14 rfl
  rw [Catalog.inlineText_of_always rfl rfl xMin rfl,
    Catalog.inlineText_of_always rfl rfl xMax rfl, Catalog.inlineText_of_always rfl rfl yMin rfl,
    Catalog.inlineText_of_always rfl rfl yMax rfl]
  simp only [Sheet.rangeLines, String.join_cons, String.join_nil,
    String.append_empty, String.reduceAppend]

theorem frame :
    standard.inlineText history Catalog.frame = String.join sheet.frameLines ++ Sheet.bracket := by
  have framed : latest Catalog.frame history = .toggle sheet.framed :=
    holds.latest_eq 15 rfl
  rw [Catalog.inlineText_of_always rfl rfl framed rfl, Sheet.frameLines, Sheet.bracket]
  cases sheet.framed <;> rfl

theorem plots :
    standard.inlineText history Catalog.curves = (Curve.fragment sheet.curves).text := by
  have curves : latest Catalog.curves history = .curves sheet.curves :=
    holds.latest_eq 16 rfl
  exact Catalog.inlineText_of_visible rfl rfl curves rfl

theorem join_inlineText :
    String.join (standardSettings.map (standard.inlineText history)) =
      String.join sheet.optionLines ++ Sheet.bracket ++ (Curve.fragment sheet.curves).text := by
  simp only [Sheet.optionLines, String.join_append, ← holds.sizes, ← holds.labelling,
    ← holds.grid, ← holds.range, ← holds.plots]
  simp only [String.append_assoc, ← holds.frame]
  simp only [standardSettings, List.map_cons, List.map_nil, String.join_cons, String.join_nil,
    Catalog.inlineText_of_silent (s := Catalog.dimension) rfl rfl rfl rfl,
    Catalog.inlineText_of_silent (s := Catalog.axes) rfl rfl rfl rfl,
    Catalog.inlineText_of_bookend (s := Catalog.documentSetup) (by decide),
    Catalog.inlineText_of_bookend (s := Catalog.documentClose) (by decide),
    String.empty_append, String.append_empty]

end Holds

theorem text_afterAll (holds : Holds ((ofCatalog standard).afterAll history) sheet) :
    ((ofCatalog standard).afterAll history).document.text = sheet.text := by
  have opening : (contributions (Catalog.bookendAfter history standard.leading?)).text =
      sheet.opening := by
    have setup : latest Catalog.documentSetup history = .toggle sheet.setup :=
      holds.latest_eq 0 rfl
    have leading : standard.leading? = some Catalog.documentSetup := by
      rw [Catalog.leading?, standard_settings]
      rfl
    rw [leading, Catalog.bookendAfter, setup, Sheet.opening]
    cases sheet.setup <;> rfl
  have closing : (contributions (Catalog.bookendAfter history standard.trailing?)).text =
      sheet.closing := by
    have close : latest Catalog.documentClose history = .toggle sheet.close :=
      holds.latest_eq 7 rfl
    have trailing : standard.trailing? = some Catalog.documentClose := by
      rw [Catalog.trailing?, standard_settings]
      rfl
    rw [trailing, Catalog.bookendAfter, close, Sheet.closing]
    cases sheet.close <;> rfl
  have inlines : (contributions (standard.inlinesAfter history)).text =
      String.join sheet.optionLines ++ Sheet.bracket ++ (Curve.fragment sheet.curves).text := by
    rw [Catalog.text_inlinesAfter, standard_settings, holds.join_inlineText]
  rw [document_eq_contributions, Catalog.shown, contributions_append, contributions_append]
  show (contributions _).text ++ (contributions _).text ++ (contributions _).text = _
  rw [opening, inlines, closing, Sheet.text]
  simp only [String.append_assoc]

/-! ## Every state of a session is laid out -/

theorem holds_of_latest (latest : ∀ entry ∈ sheet.entries, latest entry.1 history = entry.2) :
    Holds ((ofCatalog standard).afterAll history) sheet := by
  intro entry member
  have known := (mem_entries (List.mem_map_of_mem member)).1
  rw [get_afterAll history (Catalog.get?_self known), latest entry member]

theorem exists_holds (history : List Command) :
    ∃ sheet, Holds ((ofCatalog standard).afterAll history) sheet := by
  obtain ⟨setup, setupHeld⟩ :=
    Value.sameVariant_toggle.mp (Catalog.documentSetup.fits_latest history).variant
  obtain ⟨title, titleHeld⟩ :=
    Value.sameVariant_text.mp (Catalog.title.fits_latest history).variant
  obtain ⟨width, widthHeld⟩ :=
    Value.sameVariant_number.mp (Catalog.width.fits_latest history).variant
  obtain ⟨height, heightHeld⟩ :=
    Value.sameVariant_number.mp (Catalog.height.fits_latest history).variant
  obtain ⟨labels, labelsHeld⟩ :=
    Value.sameVariant_toggle.mp (Catalog.axisLabels.fits_latest history).variant
  obtain ⟨labelX, labelXHeld⟩ :=
    Value.sameVariant_text.mp (Catalog.axisLabelX.fits_latest history).variant
  obtain ⟨labelY, labelYHeld⟩ :=
    Value.sameVariant_text.mp (Catalog.axisLabelY.fits_latest history).variant
  obtain ⟨largeGrid, largeGridHeld⟩ :=
    Value.sameVariant_toggle.mp (Catalog.largeGrid.fits_latest history).variant
  obtain ⟨smallGrid, smallGridHeld⟩ :=
    Value.sameVariant_toggle.mp (Catalog.smallGrid.fits_latest history).variant
  obtain ⟨gridSize, gridSizeHeld⟩ :=
    Value.sameVariant_number.mp (Catalog.gridSize.fits_latest history).variant
  obtain ⟨xMin, xMinHeld⟩ :=
    Value.sameVariant_text.mp (Catalog.xMin.fits_latest history).variant
  obtain ⟨xMax, xMaxHeld⟩ :=
    Value.sameVariant_text.mp (Catalog.xMax.fits_latest history).variant
  obtain ⟨yMin, yMinHeld⟩ :=
    Value.sameVariant_text.mp (Catalog.yMin.fits_latest history).variant
  obtain ⟨yMax, yMaxHeld⟩ :=
    Value.sameVariant_text.mp (Catalog.yMax.fits_latest history).variant
  obtain ⟨framed, framedHeld⟩ :=
    Value.sameVariant_toggle.mp (Catalog.frame.fits_latest history).variant
  obtain ⟨curves, curvesHeld⟩ :=
    Value.sameVariant_curves.mp (Catalog.curves.fits_latest history).variant
  obtain ⟨close, closeHeld⟩ :=
    Value.sameVariant_toggle.mp (Catalog.documentClose.fits_latest history).variant
  refine ⟨⟨setup, title, width, height, labels, labelX, labelY, largeGrid, smallGrid, gridSize,
    xMin, xMax, yMin, yMax, framed, curves, close⟩, holds_of_latest ?_⟩
  simp only [Sheet.entries, List.forall_mem_cons, List.not_mem_nil, false_implies, implies_true,
    and_true]
  exact ⟨setupHeld, titleHeld, widthHeld, heightHeld, labelsHeld, labelXHeld, labelYHeld,
    closeHeld, largeGridHeld, smallGridHeld, gridSizeHeld, xMinHeld, xMaxHeld, yMinHeld, yMaxHeld,
    framedHeld, curvesHeld⟩

theorem Holds.transfer {store other : Store} (holds : store.Holds sheet)
    (same : ∀ id, id ≠ "dimension" → id ≠ "showAxis" → other.get id = store.get id) :
    other.Holds sheet := by
  intro entry member
  obtain ⟨-, notDimension, notAxes⟩ := mem_entries (List.mem_map_of_mem member)
  rw [same _ notDimension notAxes, holds entry member]

end Store

/-! ## Parts of a text -/

def Within (part whole : String) : Prop :=
  ∃ before after, whole = before ++ part ++ after

theorem Within.append_left {part whole : String} (within : Within part whole) (lead : String) :
    Within part (lead ++ whole) := by
  obtain ⟨before, after, rfl⟩ := within
  exact ⟨lead ++ before, after, by simp only [String.append_assoc]⟩

theorem Within.append_right {part whole : String} (within : Within part whole) (rest : String) :
    Within part (whole ++ rest) := by
  obtain ⟨before, after, rfl⟩ := within
  exact ⟨before, after ++ rest, by simp only [String.append_assoc]⟩

theorem within_join {part : String} {parts : List String} (member : part ∈ parts) :
    Within part (String.join parts) := by
  obtain ⟨before, after, rfl⟩ := List.append_of_mem member
  exact ⟨String.join before, String.join after, by
    rw [String.join_append, String.join_cons, String.append_assoc]⟩

theorem within_intercalate {part : String} {parts : List String} (member : part ∈ parts) :
    Within part ("\n".intercalate parts) := by
  obtain ⟨before, after, rfl⟩ := List.append_of_mem member
  have left : ∃ lead, "\n".intercalate (before ++ [part]) = lead ++ part := by
    cases before with
    | nil => exact ⟨"", by simp⟩
    | cons first rest =>
        refine ⟨"\n".intercalate (first :: rest) ++ "\n", ?_⟩
        rw [String.intercalate_append_of_ne_nil (by simp) (by simp)]
        simp
  obtain ⟨lead, left⟩ := left
  cases after with
  | nil => exact ⟨lead, "", by rw [left, String.append_empty]⟩
  | cons next rest =>
      refine ⟨lead, "\n" ++ "\n".intercalate (next :: rest), ?_⟩
      rw [List.append_cons, String.intercalate_append_of_ne_nil (by simp) (by simp), left,
        String.append_assoc]

namespace Store

open Catalog (standard)

structure LaidOut (store : Store) : Prop where
  sheet : ∃ sheet, store.Holds sheet
  text : ∀ sheet, store.Holds sheet → store.document.text = sheet.text
  blind : ∀ others, (∀ id, id ≠ "dimension" → id ≠ "showAxis" →
      ((ofCatalog standard).actAll others).get id = store.get id) →
    ((ofCatalog standard).actAll others).document.text = store.document.text
  split : ∀ sheet, store.Holds sheet → ∃ options plots,
    store.document.text = options ++ Sheet.bracket ++ plots ∧
      (∀ line ∈ sheet.optionLines, Within line options) ∧
      ∀ c ∈ sheet.curves, ∀ fragment, c.block = .ok fragment → Within fragment.text plots

theorem laidOut_actAll (actions : List Action) :
    LaidOut ((ofCatalog standard).actAll actions) := by
  have texts : ∀ actions sheet, Holds ((ofCatalog standard).actAll actions) sheet →
      ((ofCatalog standard).actAll actions).document.text = sheet.text := by
    intro actions sheet holds
    rw [actAll_eq_afterAll] at holds ⊢
    exact text_afterAll holds
  have sheets : ∃ sheet, Holds ((ofCatalog standard).actAll actions) sheet := by
    rw [actAll_eq_afterAll]
    exact exists_holds _
  constructor
  case sheet => exact sheets
  case text => exact texts actions
  case blind =>
    intro others same
    obtain ⟨sheet, holds⟩ := sheets
    rw [texts actions sheet holds, texts others sheet (holds.transfer same)]
  case split =>
    intro sheet holds
    refine ⟨sheet.opening ++ String.join sheet.optionLines,
      (Curve.fragment sheet.curves).text ++ sheet.closing, ?_, ?_, ?_⟩
    · rw [texts actions sheet holds, Sheet.text, String.append_assoc]
    · intro line member
      exact (within_join member).append_left _
    · intro c member fragment made
      rw [Curve.text_fragment]
      have drawn : fragment.text ∈ Curve.blockTexts sheet.curves :=
        List.mem_filterMap.mpr ⟨c, member, by rw [Curve.blockText?, made]; rfl⟩
      exact (within_intercalate drawn).append_right _

end Store

end PlotMarkup
