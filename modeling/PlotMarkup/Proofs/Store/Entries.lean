import PlotMarkup.Store.Basic

namespace PlotMarkup

open Setting (Value)

namespace Store

theorem keys_assign (id : String) (value : Value) (entries : List (String × Value)) :
    (assign id value entries).map Prod.fst =
      if id ∈ entries.map Prod.fst then entries.map Prod.fst
      else entries.map Prod.fst ++ [id] := by
  induction entries with
  | nil => simp [assign]
  | cons entry rest ih =>
      by_cases same : entry.1 = id
      · simp [assign, same]
      · have other : id ≠ entry.1 := Ne.symm same
        simp only [assign, same, if_false, List.map_cons, ih, List.mem_cons, other, false_or]
        split <;> simp

theorem lookup_cons {α : Type} (id other : String) (value : α) (rest : List (String × α)) :
    ((id, value) :: rest).lookup other =
      if other = id then some value else rest.lookup other := by
  rw [List.lookup_cons]
  by_cases same : other = id
  · simp [same]
  · simp [same, beq_eq_false_iff_ne.mpr same]

theorem lookup_assign (id other : String) (value : Value) (entries : List (String × Value)) :
    (assign id value entries).lookup other =
      if other = id then some value else entries.lookup other := by
  induction entries with
  | nil => rw [assign, lookup_cons]
  | cons entry rest ih =>
      obtain ⟨key, kept⟩ := entry
      by_cases same : key = id
      · rw [assign, if_pos same, lookup_cons, lookup_cons, same]
        split <;> rfl
      · simp only [assign, if_neg same, lookup_cons, ih]
        by_cases here : other = key
        · have elsewhere : other ≠ id := fun there => same (here.symm.trans there)
          rw [if_pos here, if_neg elsewhere, if_pos here]
        · rw [if_neg here, if_neg here]

theorem mem_assign {id : String} {value : Value} {entries : List (String × Value)}
    {entry : String × Value} (member : entry ∈ assign id value entries) :
    entry = (id, value) ∨ entry ∈ entries := by
  induction entries with
  | nil => simpa [assign] using member
  | cons head rest ih =>
      unfold assign at member
      split at member
      · rcases List.mem_cons.mp member with rfl | member
        · exact .inl rfl
        · exact .inr (List.mem_cons_of_mem _ member)
      · rcases List.mem_cons.mp member with rfl | member
        · exact .inr List.mem_cons_self
        · exact (ih member).imp_right (List.mem_cons_of_mem _)

theorem lookup_eq_none {α : Type} {id : String} {entries : List (String × α)} :
    entries.lookup id = none ↔ id ∉ entries.map Prod.fst := by
  rw [List.lookup_eq_none_iff, List.mem_map]
  constructor
  · rintro absent ⟨entry, member, rfl⟩
    simpa using absent entry member
  · intro absent entry member
    exact bne_iff_ne.mpr fun same => absent ⟨entry, member, same.symm⟩

theorem lookup_of_mem {id : String} {value : Value} {entries : List (String × Value)}
    (distinct : (entries.map Prod.fst).Nodup) (member : (id, value) ∈ entries) :
    entries.lookup id = some value := by
  induction entries with
  | nil => cases member
  | cons entry rest ih =>
      obtain ⟨key, kept⟩ := entry
      obtain ⟨fresh, distinct⟩ := List.nodup_cons.mp distinct
      rw [lookup_cons]
      rcases List.mem_cons.mp member with same | later
      · cases same
        rw [if_pos rfl]
      · have known : id ∈ rest.map Prod.fst := List.mem_map.mpr ⟨_, later, rfl⟩
        have other : id ≠ key := fun same => fresh (same ▸ known)
        rw [if_neg other, ih distinct later]

theorem entries_eq {entries entries' : List (String × Value)}
    (keys : entries.map Prod.fst = entries'.map Prod.fst) (distinct : (entries.map Prod.fst).Nodup)
    (values : ∀ id ∈ entries.map Prod.fst, entries.lookup id = entries'.lookup id) :
    entries = entries' := by
  induction entries generalizing entries' with
  | nil => exact (List.map_eq_nil_iff.mp keys.symm).symm
  | cons entry rest ih =>
      obtain ⟨key, value⟩ := entry
      obtain ⟨⟨key', value'⟩, rest', rfl, here, tails⟩ := List.map_eq_cons_iff.mp keys.symm
      obtain rfl : key' = key := here
      obtain ⟨fresh, distinct⟩ := List.nodup_cons.mp distinct
      have first := values key' List.mem_cons_self
      rw [lookup_cons, lookup_cons, if_pos rfl, if_pos rfl] at first
      obtain rfl := Option.some.inj first
      rw [ih tails.symm distinct]
      intro id member
      have other : id ≠ key' := fun same => fresh (same ▸ member)
      have same := values id (List.mem_cons_of_mem _ member)
      rwa [lookup_cons, lookup_cons, if_neg other, if_neg other] at same

end Store

end PlotMarkup
