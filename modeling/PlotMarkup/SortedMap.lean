/-!
# Maps in the order of their keys

A finite map from texts as the list of its entries with increasing keys, so that equal maps are
equal as values.
-/

namespace PlotMarkup

namespace SortedMap

variable {α : Type}

def Increasing (entries : List (String × α)) : Prop :=
  entries.Pairwise (·.1 < ·.1)

/-- Puts an entry where its key belongs, in place of any other with that key. -/
def insertEntry (key : String) (value : α) : List (String × α) → List (String × α)
  | [] => [(key, value)]
  | (other, kept) :: rest =>
      if key < other then (key, value) :: (other, kept) :: rest
      else if key = other then (key, value) :: rest
      else (other, kept) :: insertEntry key value rest

theorem mem_insertEntry {key : String} {value : α} {entries : List (String × α)}
    {entry : String × α} (h : entry ∈ insertEntry key value entries) :
    entry = (key, value) ∨ entry ∈ entries := by
  induction entries with
  | nil => simp_all [insertEntry]
  | cons head rest ih =>
      unfold insertEntry at h
      split at h
      · simpa using h
      · split at h
        · simp only [List.mem_cons] at h ⊢
          exact h.imp_right .inr
        · simp only [List.mem_cons] at h ⊢
          rcases h with h | h
          · exact .inr (.inl h)
          · exact (ih h).imp_right .inr

theorem increasing_insertEntry {key : String} {value : α} {entries : List (String × α)}
    (h : Increasing entries) : Increasing (insertEntry key value entries) := by
  induction entries with
  | nil => simp [insertEntry, Increasing]
  | cons head rest ih =>
      obtain ⟨above, sorted⟩ := List.pairwise_cons.mp h
      unfold insertEntry
      split
      · rename_i below
        refine List.pairwise_cons.mpr ⟨fun entry member => ?_, h⟩
        rcases List.mem_cons.mp member with rfl | member
        · exact below
        · exact String.lt_trans below (above entry member)
      · split
        · rename_i same
          refine List.pairwise_cons.mpr ⟨fun entry member => ?_, sorted⟩
          exact same ▸ above entry member
        · rename_i notBelow notSame
          refine List.pairwise_cons.mpr ⟨fun entry member => ?_, ih sorted⟩
          rcases mem_insertEntry member with rfl | member
          · exact Std.lt_of_le_of_ne (Std.not_lt.mp notBelow) (Ne.symm notSame)
          · exact above entry member

theorem lookup_insertEntry (key other : String) (value : α) (entries : List (String × α)) :
    (insertEntry key value entries).lookup other =
      if other = key then some value else entries.lookup other := by
  have head (key : String) (value : α) (rest : List (String × α)) :
      ((key, value) :: rest).lookup other =
        if other = key then some value else rest.lookup other := by
    by_cases same : other = key <;> simp [List.lookup_cons, same, beq_eq_false_iff_ne.mpr]
  induction entries with
  | nil => exact head key value []
  | cons entry rest ih =>
      obtain ⟨first, kept⟩ := entry
      unfold insertEntry
      split
      · exact head ..
      · split
        · rename_i found
          subst found
          simp only [head]
          split <;> rfl
        · rename_i apart
          simp only [head, ih]
          by_cases here : other = first
          · have elsewhere : other ≠ key := fun same => apart (same.symm.trans here)
            rw [if_pos here, if_neg elsewhere, if_pos here]
          · rw [if_neg here, if_neg here]

end SortedMap

structure SortedMap (α : Type) where
  entries : List (String × α)
  increasing : SortedMap.Increasing entries

namespace SortedMap

variable {α : Type}

def empty : SortedMap α := ⟨[], .nil⟩

def insert (map : SortedMap α) (key : String) (value : α) : SortedMap α :=
  ⟨insertEntry key value map.entries, increasing_insertEntry map.increasing⟩

/-- The map of a list of entries; of several with one key the last counts. -/
def ofList (entries : List (String × α)) : SortedMap α :=
  entries.foldl (fun map entry => map.insert entry.1 entry.2) empty

def get? (map : SortedMap α) (key : String) : Option α :=
  map.entries.lookup key

theorem get?_insert (map : SortedMap α) (key other : String) (value : α) :
    (map.insert key value).get? other = if other = key then some value else map.get? other :=
  lookup_insertEntry key other value map.entries

end SortedMap

end PlotMarkup
