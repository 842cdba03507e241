import PlotMarkup.Setting.Basic
import PlotMarkup.SortedMap
import PlotMarkup.Catalog.Similarity

/-!
# Catalogs

A catalog is an ordered list of settings with different ids, and an index of their positions.
Registering a setting under a known id replaces the one there and keeps its place; the order is
that of the fragments in a document.
-/

namespace PlotMarkup

namespace Catalog

/-- An index holds the ids of the settings and no others, each with the position of its setting. -/
def Indexed (settings : List Setting) (index : SortedMap Nat) : Prop :=
  ∀ id slot, index.get? id = some slot ↔ (settings.map Setting.id)[slot]? = some id

variable {settings : List Setting} {index : SortedMap Nat} {s : Setting}

theorem ids_set {slot : Nat} (known : (settings.map Setting.id)[slot]? = some s.id) :
    (settings.set slot s).map Setting.id = settings.map Setting.id := by
  rw [List.map_set]
  apply List.ext_getElem?
  intro position
  rw [List.getElem?_set]
  split
  · rename_i here
    subst here
    split
    · exact known.symm
    · rename_i outside
      exact (List.getElem?_eq_none (Nat.le_of_not_lt outside)).symm
  · rfl

theorem Indexed.set (indexed : Indexed settings index) {slot : Nat}
    (known : index.get? s.id = some slot) : Indexed (settings.set slot s) index := by
  intro id position
  rw [ids_set ((indexed s.id slot).mp known)]
  exact indexed id position

theorem Indexed.append (indexed : Indexed settings index) (new : index.get? s.id = none) :
    Indexed (settings ++ [s]) (index.insert s.id settings.length) := by
  intro id slot
  have length : (settings.map Setting.id).length = settings.length := List.length_map _
  rw [SortedMap.get?_insert, List.map_append, List.getElem?_append, length]
  by_cases inside : slot < settings.length
  · rw [if_pos inside, ← indexed]
    split
    · rename_i same
      subst same
      simp only [new, reduceCtorEq, iff_false, Option.some.injEq]
      omega
    · rfl
  · have last : (([s].map Setting.id)[slot - settings.length]? = some id) ↔
        slot = settings.length ∧ s.id = id := by
      cases gap : slot - settings.length with
      | zero => simp [show slot = settings.length by omega]
      | succ => simp [show slot ≠ settings.length by omega]
    rw [if_neg inside, last]
    split
    · rename_i same
      simp [same, eq_comm]
    · rename_i other
      have beyond : index.get? id ≠ some slot := by
        rw [Ne, indexed, List.getElem?_eq_none (by omega)]
        exact nofun
      simp [beyond, Ne.symm other]

end Catalog

structure Catalog where
  settings : List Setting
  index : SortedMap Nat
  indexed : Catalog.Indexed settings index

namespace Catalog

def curvesId : String := "functions"

def empty : Catalog := ⟨[], .empty, by simp [Indexed, SortedMap.get?, SortedMap.empty]⟩

def register (catalog : Catalog) (s : Setting) : Catalog :=
  match known : catalog.index.get? s.id with
  | some slot => ⟨catalog.settings.set slot s, catalog.index, catalog.indexed.set known⟩
  | none =>
      ⟨catalog.settings ++ [s], catalog.index.insert s.id catalog.settings.length,
        catalog.indexed.append known⟩

def registerAll (catalog : Catalog) (settings : List Setting) : Catalog :=
  settings.foldl register catalog

def ids (catalog : Catalog) : List String :=
  catalog.settings.map Setting.id

def size (catalog : Catalog) : Nat :=
  catalog.settings.length

def get? (catalog : Catalog) (id : String) : Option Setting :=
  (catalog.index.get? id).bind fun slot => catalog.settings[slot]?

def contains? (catalog : Catalog) (id : String) : Bool :=
  (catalog.index.get? id).isSome

/-- The registered ids that resemble one, best first. -/
def findSimilar (catalog : Catalog) (id : String) : List String :=
  rank id catalog.ids

/-- The diagnostic for an unknown id, with the best guess at what was meant. -/
def unknown (catalog : Catalog) (id : String) : Diagnostic :=
  match catalog.findSimilar id with
  | [] => .unknownSetting id
  | best :: _ => (Diagnostic.unknownSetting id).withSuggestion ("Did you mean '" ++ best ++ "'?")

def require (catalog : Catalog) (id : String) : Except Diagnostic Setting :=
  match catalog.get? id with
  | some s => .ok s
  | none => .error (catalog.unknown id)

def leading? (catalog : Catalog) : Option Setting :=
  catalog.settings.find? (·.placement == .leading)

def trailing? (catalog : Catalog) : Option Setting :=
  catalog.settings.find? (·.placement == .trailing)

def listing (catalog : Catalog) : Option Setting.Category → List Setting
  | none => catalog.settings
  | some category => catalog.settings.filter (·.category == category)

def listingJson (catalog : Catalog) (category : Option Setting.Category) : Json :=
  .array ((catalog.listing category).map Setting.toJson)

end Catalog

end PlotMarkup
