import Mathlib.Data.List.Nodup
import PlotMarkup.Catalog.Basic
import PlotMarkup.Proofs.Outcome

namespace PlotMarkup

namespace Catalog

variable {catalog : Catalog} {id : String} {s : Setting}

theorem getElem?_ids (catalog : Catalog) (slot : Nat) :
    catalog.ids[slot]? = catalog.settings[slot]?.map Setting.id :=
  List.getElem?_map

theorem index_eq_some {slot : Nat} :
    catalog.index.get? id = some slot ↔ ∃ s, catalog.settings[slot]? = some s ∧ s.id = id := by
  rw [catalog.indexed, ← ids, getElem?_ids, Option.map_eq_some_iff]

theorem distinct (catalog : Catalog) : (catalog.settings.map Setting.id).Nodup := by
  rw [List.nodup_iff_getElem?_ne_getElem?]
  intro first second before inside same
  have there := List.getElem?_eq_getElem inside
  have known := (catalog.indexed _ second).mpr there
  have known' := (catalog.indexed _ first).mpr (same.trans there)
  rw [known, Option.some.injEq] at known'
  omega

theorem eq_of_id (catalog : Catalog) {s t : Setting} (first : s ∈ catalog.settings)
    (second : t ∈ catalog.settings) (same : s.id = t.id) : s = t :=
  List.inj_on_of_nodup_map catalog.distinct first second same

theorem get?_eq_some : catalog.get? id = some s ↔ s ∈ catalog.settings ∧ s.id = id := by
  rw [get?, Option.bind_eq_some_iff]
  constructor
  · rintro ⟨slot, known, found⟩
    obtain ⟨t, found', same⟩ := index_eq_some.mp known
    obtain rfl : t = s := Option.some.inj (found'.symm.trans found)
    exact ⟨List.mem_of_getElem? found, same⟩
  · rintro ⟨member, same⟩
    obtain ⟨slot, found⟩ := List.getElem?_of_mem member
    exact ⟨slot, index_eq_some.mpr ⟨s, found, same⟩, found⟩

theorem index_eq_none : catalog.index.get? id = none ↔ id ∉ catalog.ids := by
  rw [Option.eq_none_iff_forall_ne_some, List.mem_iff_getElem?, not_exists]
  exact forall_congr' fun slot => not_congr (catalog.indexed id slot)

theorem get?_eq_none : catalog.get? id = none ↔ id ∉ catalog.ids := by
  rw [Option.eq_none_iff_forall_ne_some, ids, List.mem_map]
  simp only [Ne, get?_eq_some, not_exists]

theorem get?_eq_find? (catalog : Catalog) (id : String) :
    catalog.get? id = catalog.settings.find? (·.id == id) := by
  cases found : catalog.settings.find? (·.id == id) with
  | none => simpa [get?_eq_none, ids] using found
  | some s =>
      have same : s.id = id := by simpa using List.find?_some found
      exact get?_eq_some.mpr ⟨List.mem_of_find?_eq_some found, same⟩

theorem get?_self (member : s ∈ catalog.settings) : catalog.get? s.id = some s :=
  get?_eq_some.mpr ⟨member, rfl⟩

theorem require_eq_ok : catalog.require id = .ok s ↔ catalog.get? id = some s := by
  unfold require
  split <;> rename_i found <;> simp [found]

theorem require_eq_error {issue : Diagnostic} :
    catalog.require id = .error issue ↔ catalog.get? id = none ∧ issue = catalog.unknown id := by
  unfold require
  split <;> rename_i found <;> simp [found, eq_comm]

theorem unknown_kind (catalog : Catalog) (id : String) :
    (catalog.unknown id).kind = .unknownSetting := by
  unfold unknown
  split <;> rfl

theorem settings_register_of_new (new : s.id ∉ catalog.ids) :
    (catalog.register s).settings = catalog.settings ++ [s] := by
  unfold register
  split
  · rename_i known
    rw [index_eq_none.mpr new] at known
    cases known
  · rfl

theorem settings_register_of_slot {slot : Nat} (known : catalog.index.get? s.id = some slot) :
    (catalog.register s).settings = catalog.settings.set slot s := by
  unfold register
  split
  · rename_i known'
    rw [Option.some.inj (known.symm.trans known')]
  · rename_i new
    rw [known] at new
    cases new

end Catalog

end PlotMarkup
