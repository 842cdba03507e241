import PlotMarkup.Catalog.Basic
import PlotMarkup.SortedMap

/-!
# Stores

The current values of the settings of a catalog.  Every write is checked by its setting; a write
that is refused changes nothing.
-/

namespace PlotMarkup

open Setting (Value)

namespace Store

/-- Replaces the value of an id, or adds the id at the end. -/
def assign (id : String) (value : Value) : List (String × Value) → List (String × Value)
  | [] => [(id, value)]
  | entry :: rest => if entry.1 = id then (id, value) :: rest else entry :: assign id value rest

end Store

structure Store where
  catalog : Catalog
  /-- The value of each setting, in the order of the catalog. -/
  values : List (String × Value)

namespace Store

def ofCatalog (catalog : Catalog) : Store :=
  ⟨catalog, catalog.settings.map fun s => (s.id, s.initial)⟩

def lookup? (store : Store) (id : String) : Option Value :=
  store.values.lookup id

def valueOf (store : Store) (s : Setting) : Value :=
  (store.lookup? s.id).getD s.initial

def get (store : Store) (id : String) : Except Diagnostic Value := do
  let s ← store.catalog.require id
  return store.valueOf s

/-- Gives an id a value without a check. -/
def put (store : Store) (id : String) (value : Value) : Store :=
  { store with values := assign id value store.values }

def set (store : Store) (id : String) (value : Value) : Except Diagnostic Store := do
  let s ← store.catalog.require id
  s.check value
  return store.put s.id value

def setCurves (store : Store) (curves : List Curve) : Except Diagnostic Store :=
  store.set Catalog.curvesId (.curves curves)

def curves (store : Store) : List Curve :=
  ((store.lookup? Catalog.curvesId).bind Value.curves?).getD []

def isEnabled (store : Store) (id : String) : Bool :=
  ((store.lookup? id).map Value.isEnabled).getD false

/-- Whether the toggle that a setting depends on, if any, is on. -/
def isVisible (store : Store) (s : Setting) : Bool :=
  (s.shownIf.map store.isEnabled).getD true

def restore (store : Store) (s : Setting) : Store :=
  store.put s.id s.initial

def reset (store : Store) (id : String) : Except Diagnostic Store := do
  let s ← store.catalog.require id
  return store.restore s

def resetAll (store : Store) : Store :=
  store.catalog.settings.foldl restore store

def snapshot (store : Store) : SortedMap Value :=
  SortedMap.ofList store.values

end Store

end PlotMarkup
