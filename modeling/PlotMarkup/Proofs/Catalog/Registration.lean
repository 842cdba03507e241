import Mathlib.Data.Finset.Card
import Mathlib.Data.List.Induction
import PlotMarkup.Catalog.Standard
import PlotMarkup.Proofs.Catalog.Lookup

namespace PlotMarkup.Catalog

open Setting (Placement Category)

def idsOf (history : List Setting) : List String :=
  (history.map Setting.id).eraseDups

def lastOf? (history : List Setting) (id : String) : Option Setting :=
  history.reverse.find? (·.id == id)

def remaining (history : List Setting) : List Setting :=
  (idsOf history).filterMap (lastOf? history)

/-- The first setting of a list that has a placement, or none if no setting has it. -/
def FirstPlaced (placement : Placement) (settings : List Setting) : Option Setting → Prop
  | some s => s.placement = placement ∧ ∃ before after, settings = before ++ s :: after ∧
      ∀ t ∈ before, t.placement ≠ placement
  | none => ∀ s ∈ settings, s.placement ≠ placement

variable {catalog : Catalog} {history : List Setting} {id : String} {s t : Setting}

theorem idsOf_append (history : List Setting) (s : Setting) :
    idsOf (history ++ [s]) =
      if s.id ∈ idsOf history then idsOf history else idsOf history ++ [s.id] := by
  rw [idsOf, List.map_append, List.map_singleton, List.eraseDups_append]
  by_cases known : s.id ∈ history.map Setting.id
  · have none : [s.id].removeAll (history.map Setting.id) = [] := by
      simpa [List.removeAll] using known
    rw [none, idsOf, if_pos (List.mem_eraseDups.mpr known)]
    exact List.append_nil _
  · have one : [s.id].removeAll (history.map Setting.id) = [s.id] := by
      simpa [List.removeAll] using known
    rw [one, idsOf, if_neg (mt List.mem_eraseDups.mp known)]
    rfl

theorem lastOf?_append (history : List Setting) (s : Setting) (id : String) :
    lastOf? (history ++ [s]) id = if id = s.id then some s else lastOf? history id := by
  rw [lastOf?, List.reverse_append, List.reverse_singleton, List.singleton_append, List.find?_cons]
  by_cases same : id = s.id
  · simp [same]
  · simp [same, beq_eq_false_iff_ne.mpr (Ne.symm same), lastOf?]

theorem lastOf?_eq_none : lastOf? history id = none ↔ id ∉ history.map Setting.id := by
  simp [lastOf?]

theorem mem_register_self (catalog : Catalog) (s : Setting) :
    s ∈ (catalog.register s).settings := by
  cases known : catalog.index.get? s.id with
  | none =>
      rw [settings_register_of_new (index_eq_none.mp known)]
      exact List.mem_append_right _ List.mem_cons_self
  | some slot =>
      obtain ⟨t, found, -⟩ := index_eq_some.mp known
      rw [settings_register_of_slot known]
      exact List.mem_set (List.getElem?_eq_some_iff.mp found).1 s

theorem mem_register_of_ne (other : t.id ≠ s.id) :
    t ∈ (catalog.register s).settings ↔ t ∈ catalog.settings := by
  have apart : t ≠ s := fun same => other (congrArg Setting.id same)
  cases known : catalog.index.get? s.id with
  | none => simp [settings_register_of_new (index_eq_none.mp known), apart]
  | some slot =>
      rw [settings_register_of_slot known]
      constructor
      · intro member
        exact (List.mem_or_eq_of_mem_set member).resolve_right apart
      · intro member
        obtain ⟨position, found⟩ := List.getElem?_of_mem member
        have elsewhere : slot ≠ position := by
          rintro rfl
          obtain ⟨u, found', same⟩ := index_eq_some.mp known
          rw [found, Option.some.injEq] at found'
          exact other (found' ▸ same)
        refine List.mem_of_getElem? (i := position) ?_
        rw [List.getElem?_set_ne elsewhere, found]

theorem get?_register (catalog : Catalog) (s : Setting) (id : String) :
    (catalog.register s).get? id = if id = s.id then some s else catalog.get? id := by
  split
  · rename_i same
    exact get?_eq_some.mpr ⟨catalog.mem_register_self s, same.symm⟩
  · rename_i other
    ext t
    rw [get?_eq_some, get?_eq_some]
    exact and_congr_left fun same => mem_register_of_ne (same ▸ other)

theorem ids_register (catalog : Catalog) (s : Setting) :
    (catalog.register s).ids = if s.id ∈ catalog.ids then catalog.ids else catalog.ids ++ [s.id] := by
  cases known : catalog.index.get? s.id with
  | none =>
      have new := index_eq_none.mp known
      rw [if_neg new, ids, settings_register_of_new new, List.map_append]
      rfl
  | some slot =>
      have here := (catalog.indexed s.id slot).mp known
      have member : s.id ∈ catalog.ids := List.mem_of_getElem? here
      rw [if_pos member, ids, settings_register_of_slot known, ids_set here]
      rfl

theorem registerAll_append (catalog : Catalog) (history : List Setting) (s : Setting) :
    catalog.registerAll (history ++ [s]) = (catalog.registerAll history).register s := by
  simp [registerAll]

theorem ids_registerAll (history : List Setting) : (empty.registerAll history).ids = idsOf history := by
  induction history using List.reverseRecOn with
  | nil => rfl
  | append_singleton history s ih => rw [registerAll_append, ids_register, ih, idsOf_append]

theorem get?_registerAll (history : List Setting) (id : String) :
    (empty.registerAll history).get? id = lastOf? history id := by
  induction history using List.reverseRecOn with
  | nil => rfl
  | append_singleton history s ih => rw [registerAll_append, get?_register, ih, lastOf?_append]

theorem settings_eq_filterMap (catalog : Catalog) :
    catalog.settings = catalog.ids.filterMap catalog.get? := by
  rw [ids, List.filterMap_map]
  have each : ∀ s ∈ catalog.settings, (catalog.get? ∘ Setting.id) s = some s :=
    fun s member => get?_self member
  rw [List.filterMap_congr each, List.filterMap_some]

theorem settings_registerAll_empty (history : List Setting) :
    (empty.registerAll history).settings = remaining history := by
  rw [settings_eq_filterMap, ids_registerAll, remaining]
  exact List.filterMap_congr fun id _ => get?_registerAll history id

theorem firstPlaced_find? (placement : Placement) (settings : List Setting) :
    FirstPlaced placement settings (settings.find? (·.placement == placement)) := by
  cases found : settings.find? (·.placement == placement) with
  | none => simpa [FirstPlaced] using found
  | some s =>
      obtain ⟨here, before, after, rfl, none⟩ := List.find?_eq_some_iff_append.mp found
      exact ⟨by simpa using here, before, after, rfl, by simpa using none⟩

structure Represents (history : List Setting) (catalog : Catalog) : Prop where
  index : ∀ id slot, catalog.index.get? id = some slot ↔ (idsOf history)[slot]? = some id
  position : ∀ id slot, catalog.index.get? id = some slot →
    ∃ s, catalog.settings[slot]? = some s ∧ s.id = id ∧
      ∀ slot' t, catalog.settings[slot']? = some t → t.id = id → slot' = slot
  ids : catalog.ids = idsOf history
  once : catalog.ids.Nodup
  registered : ∀ id, id ∈ catalog.ids ↔ id ∈ history.map Setting.id
  get : ∀ id, catalog.get? id = lastOf? history id
  found : ∀ id, (lastOf? history id).isSome ↔ id ∈ history.map Setting.id
  contains : ∀ id, catalog.contains? id ↔ id ∈ history.map Setting.id
  required : ∀ id s, catalog.require id = .ok s ↔ lastOf? history id = some s
  unknown : ∀ id, id ∉ history.map Setting.id →
    ∃ issue, catalog.require id = .error issue ∧ issue.kind = .unknownSetting
  size : catalog.size = (history.map Setting.id).toFinset.card
  settings : catalog.settings = remaining history
  leading : FirstPlaced .leading (remaining history) catalog.leading?
  trailing : FirstPlaced .trailing (remaining history) catalog.trailing?
  listing : catalog.listing none = remaining history ∧
    (catalog.listing none).map Setting.id = idsOf history
  category : ∀ c, catalog.listing (some c) = (catalog.listing none).filter (·.category = c)

theorem represents_registerAll (history : List Setting) :
    Represents history (empty.registerAll history) := by
  have ids := ids_registerAll history
  have settings := settings_registerAll_empty history
  have registered (id : String) :
      id ∈ (empty.registerAll history).ids ↔ id ∈ history.map Setting.id := by
    rw [ids, idsOf, List.mem_eraseDups]
  have found (id : String) : (lastOf? history id).isSome ↔ id ∈ history.map Setting.id := by
    rw [← Option.ne_none_iff_isSome, Ne, lastOf?_eq_none, not_not]
  refine ⟨?_, ?_, ids, distinct _, registered, get?_registerAll history, found, ?_, ?_, ?_, ?_,
    settings, ?_, ?_, ⟨settings, ids⟩, fun c => rfl⟩
  · intro id slot
    rw [← ids]
    exact (empty.registerAll history).indexed id slot
  · intro id slot known
    obtain ⟨s, here, same⟩ := index_eq_some.mp known
    refine ⟨s, here, same, fun slot' t there same' => ?_⟩
    exact Option.some.inj ((index_eq_some.mpr ⟨t, there, same'⟩).symm.trans known)
  · intro id
    rw [contains?, ← Option.ne_none_iff_isSome, Ne, index_eq_none, not_not, registered]
  · intro id s
    rw [require_eq_ok, get?_registerAll]
  · intro id absent
    refine ⟨_, require_eq_error.mpr ⟨?_, rfl⟩, unknown_kind _ id⟩
    rw [get?_registerAll, lastOf?_eq_none]
    exact absent
  · have same : (empty.registerAll history).ids.toFinset = (history.map Setting.id).toFinset := by
      ext id
      rw [List.mem_toFinset, List.mem_toFinset, registered]
    have once : (empty.registerAll history).ids.Nodup := distinct _
    rw [← same, List.toFinset_card_of_nodup once]
    exact (List.length_map _).symm
  · rw [← settings]
    exact firstPlaced_find? .leading _
  · rw [← settings]
    exact firstPlaced_find? .trailing _

-- The title keeps its place when another setting takes over its id and becomes the leading one.
example : ((empty.registerAll [title, width, title.placed .leading, height]).leading?.map
    Setting.id, (empty.registerAll [title, width, title.placed .leading, height]).ids) =
      (some "title", ["title", "size_x_cm", "size_y_cm"]) := by
  decide +kernel

end PlotMarkup.Catalog
