import PlotMarkup.Store.Basic
import PlotMarkup.Text.Tidy

/-!
# Documents

A document is the fragments of its settings one after another: the leading setting first, then the
inline settings in the order of the catalog, the trailing setting last.
-/

namespace PlotMarkup

open Setting (Value)

namespace Store

/-- A bookend appears only when it is enabled, and is rendered as such. -/
def bookend (store : Store) (s? : Option Setting) : List (Setting × Value) :=
  match s? with
  | some s => if store.isEnabled s.id then [(s, .toggle true)] else []
  | none => []

/-- The inline settings whose toggle is on, with their values. -/
def inlines (store : Store) : List (Setting × Value) :=
  ((store.catalog.settings.filter (·.placement == .inline)).filter store.isVisible).map
    fun s => (s, store.valueOf s)

/-- The settings that contribute to the document, in order, with the values they show. -/
def emitted (store : Store) : List (Setting × Value) :=
  store.bookend store.catalog.leading? ++ store.inlines ++ store.bookend store.catalog.trailing?

/-- The fragment of a setting; a setting that cannot be rendered contributes its diagnostic only. -/
def emit (s : Setting) (value : Value) : Fragment :=
  match s.render value with
  | .ok fragment => ⟨fragment.text, fragment.issues.map (·.inSetting s.id)⟩
  | .error issue => ⟨"", [issue]⟩

def document (store : Store) : Fragment :=
  let fragments := store.emitted.map fun (s, value) => emit s value
  ⟨String.join (fragments.map Fragment.text), fragments.flatMap Fragment.issues⟩

def tidyDocument (store : Store) : String :=
  Text.tidy store.document.text

end Store

end PlotMarkup
