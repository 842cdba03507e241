import PlotMarkup.Proofs.Store.Session

namespace PlotMarkup

open Setting (Value)

namespace SortedMap

theorem nodup_keys {α : Type} (map : SortedMap α) : (map.entries.map Prod.fst).Nodup := by
  rw [List.nodup_iff_pairwise_ne, List.pairwise_map]
  exact map.increasing.imp String.ne_of_lt

end SortedMap

/-- Why a catalog refuses an entry, if it does: the id is unknown, or its setting rejects the value. -/
def Catalog.refusal? (catalog : Catalog) (entry : String × Value) : Option Diagnostic :=
  match catalog.get? entry.1 with
  | none => some (catalog.unknown entry.1)
  | some s =>
      match s.check entry.2 with
      | .ok () => none
      | .error issue => some issue

namespace Config

variable {config : Config} {s : Setting}

def curveEntries (config : Config) : List (String × Value) :=
  if config.curves = [] then [] else [(Catalog.curvesId, .curves config.curves)]

/-- What a configuration gives a setting: its curves if they are accepted, else what it names. -/
def given? (config : Config) (s : Setting) : Option Value :=
  if s.id = Catalog.curvesId ∧ config.curves ≠ [] ∧ (s.check (.curves config.curves)).isOk then
    some (.curves config.curves)
  else (config.settings.get? s.id).filter fun value => (s.check value).isOk

end Config

namespace Store

variable {store store' : Store} {config : Config} {s : Setting} {issue : Diagnostic}
variable {entries entries' : List (String × Value)}

theorem set_eq (store : Store) (entry : String × Value) :
    store.set entry.1 entry.2 =
      match store.catalog.refusal? entry with
      | none => .ok (store.put entry.1 entry.2)
      | some issue => .error issue := by
  unfold Catalog.refusal?
  cases registered : store.catalog.get? entry.1 with
  | none => exact set_eq_error.mpr (.inl ⟨registered, rfl⟩)
  | some s =>
      cases outcome : s.check entry.2 with
      | ok => simpa [outcome] using set_eq_ok.mpr ⟨s, registered, outcome, rfl⟩
      | error issue => simpa [outcome] using set_eq_error.mpr (.inr ⟨s, registered, outcome⟩)

theorem set_eq_error_iff {id : String} {value : Value} :
    store.set id value = .error issue ↔ store.catalog.refusal? (id, value) = some issue := by
  rw [set_eq store (id, value)]
  cases store.catalog.refusal? (id, value) <;> simp

def write (store : Store) (entries : List (String × Value)) : Store × List Diagnostic :=
  entries.foldl (fun state entry => attempt (·.set entry.1 entry.2) state) (store, [])

theorem apply_eq_write (store : Store) (config : Config) :
    store.apply config = store.write (config.settings.entries ++ config.curveEntries) := by
  unfold apply write Config.curveEntries
  rw [List.foldl_append]
  split <;> rfl

theorem issues_write (store : Store) (entries : List (String × Value)) :
    (store.write entries).2 = entries.filterMap store.catalog.refusal? := by
  suffices collected : ∀ issues, (entries.foldl
      (fun state entry => attempt (·.set entry.1 entry.2) state) (store, issues)).2 =
        issues ++ entries.filterMap store.catalog.refusal? from collected []
  induction entries generalizing store with
  | nil => simp
  | cons entry rest ih =>
      intro issues
      rw [List.foldl_cons, attempt, set_eq, List.filterMap_cons]
      cases store.catalog.refusal? entry with
      | none => exact ih (store.put entry.1 entry.2) issues
      | some issue => simp [ih store]

theorem write_eq_afterAll (store : Store) (entries : List (String × Value)) :
    (store.write entries).1 = store.afterAll (entries.map fun entry => .set entry.1 entry.2) :=
  attempt_entries store [] entries

theorem catalog_write (store : Store) (entries : List (String × Value)) :
    (store.write entries).1.catalog = store.catalog := by
  rw [write_eq_afterAll, catalog_afterAll]

theorem Sound.write (sound : store.Sound) (entries : List (String × Value)) :
    (store.write entries).1.Sound := by
  rw [write_eq_afterAll]
  exact sound.afterAll _

theorem gives?_set (s : Setting) (entry : String × Value) :
    (Command.set entry.1 entry.2).gives? s =
      if entry.1 = s.id then (some entry.2).filter fun value => (s.check value).isOk else none := by
  simp [Command.gives?, Command.resets, Command.writes?, Command.target?, Command.value?]

theorem lookup?_write (member : s ∈ store.catalog.settings) (entries : List (String × Value)) :
    (store.write entries).1.lookup? s.id =
      (entries.reverse.findSome? fun entry => (Command.set entry.1 entry.2).gives? s).or
        (store.lookup? s.id) := by
  rw [write_eq_afterAll]
  induction entries using List.reverseRecOn with
  | nil => rfl
  | append_singleton entries entry ih =>
      have known : s ∈ (store.afterAll
          (entries.map fun entry => .set entry.1 entry.2)).catalog.settings := by
        rw [catalog_afterAll]
        exact member
      rw [List.map_append, List.map_singleton, afterAll_append, lookup?_after _ known, ih,
        List.reverse_append, List.reverse_singleton, List.singleton_append, List.findSome?_cons]
      cases (Command.set entry.1 entry.2).gives? s <;> rfl

theorem findSome?_reverse_of_distinct (distinct : (entries.map Prod.fst).Nodup) (s : Setting) :
    (entries.reverse.findSome? fun entry => (Command.set entry.1 entry.2).gives? s) =
      (entries.lookup s.id).filter fun value => (s.check value).isOk := by
  induction entries with
  | nil => rfl
  | cons entry rest ih =>
      obtain ⟨fresh, distinct⟩ := List.nodup_cons.mp distinct
      rw [List.reverse_cons, List.findSome?_append, ih distinct, List.findSome?_singleton,
        gives?_set, lookup_cons]
      by_cases same : s.id = entry.1
      · rw [same, lookup_eq_none.mpr fresh]
        simp
      · simp [same, Ne.symm same]

theorem lookup_perm (distinct : (entries.map Prod.fst).Nodup) (same : entries.Perm entries')
    (id : String) : entries'.lookup id = entries.lookup id := by
  have distinct' := (same.map Prod.fst).nodup_iff.mp distinct
  by_cases known : id ∈ entries.map Prod.fst
  · obtain ⟨⟨key, value⟩, member, rfl⟩ := List.mem_map.mp known
    rw [lookup_of_mem distinct member, lookup_of_mem distinct' (same.mem_iff.mp member)]
  · have unknown : id ∉ entries'.map Prod.fst := fun member =>
      known ((same.map Prod.fst).mem_iff.mpr member)
    rw [lookup_eq_none.mpr known, lookup_eq_none.mpr unknown]

theorem lookup?_write_of_perm (member : s ∈ store.catalog.settings)
    (same : config.settings.entries.Perm entries) :
    (store.write (entries ++ config.curveEntries)).1.lookup? s.id =
      (config.given? s).or (store.lookup? s.id) := by
  have distinct := (same.map Prod.fst).nodup_iff.mp config.settings.nodup_keys
  rw [lookup?_write member, List.reverse_append, List.findSome?_append,
    findSome?_reverse_of_distinct distinct, lookup_perm config.settings.nodup_keys same]
  unfold Config.given? Config.curveEntries SortedMap.get?
  by_cases none : config.curves = []
  · simp [none]
  · by_cases here : s.id = Catalog.curvesId
    · cases accepted : (s.check (.curves config.curves)).isOk <;>
        simp [none, here, accepted, gives?_set]
    · simp [none, here, Ne.symm here, gives?_set]

theorem Sound.eq_of_lookup? (sound : store.Sound) (sound' : store'.Sound)
    (catalog : store'.catalog = store.catalog)
    (same : ∀ s ∈ store.catalog.settings, store'.lookup? s.id = store.lookup? s.id) :
    store' = store := by
  have values : store'.values = store.values := by
    apply entries_eq
    · rw [sound'.keys, sound.keys, catalog]
    · rw [sound'.keys]
      exact store'.catalog.distinct
    · intro id known
      rw [sound'.keys, catalog] at known
      obtain ⟨s, member, rfl⟩ := List.mem_map.mp known
      exact same s member
  calc store' = ⟨store'.catalog, store'.values⟩ := rfl
    _ = store := by rw [catalog, values]

theorem lookup?_apply (member : s ∈ store.catalog.settings) (config : Config) :
    (store.apply config).1.lookup? s.id = (config.given? s).or (store.lookup? s.id) := by
  rw [apply_eq_write]
  exact lookup?_write_of_perm member (.refl _)

theorem catalog_apply (store : Store) (config : Config) :
    (store.apply config).1.catalog = store.catalog := by
  rw [apply_eq_write, catalog_write]

theorem Sound.apply (sound : store.Sound) (config : Config) : (store.apply config).1.Sound := by
  rw [apply_eq_write]
  exact sound.write _

theorem issues_apply (store : Store) (config : Config) : (store.apply config).2 =
    (config.settings.entries ++ config.curveEntries).filterMap store.catalog.refusal? := by
  rw [apply_eq_write, issues_write]

theorem Sound.write_of_perm (sound : store.Sound) (same : entries.Perm config.settings.entries) :
    (store.write (entries ++ config.curveEntries)).1 = (store.apply config).1 := by
  apply (sound.apply config).eq_of_lookup? (sound.write _)
  · rw [catalog_write, catalog_apply]
  · intro s member
    rw [catalog_apply] at member
    rw [lookup?_write_of_perm member same.symm, lookup?_apply member]

theorem Sound.apply_apply (sound : store.Sound) (config : Config) :
    (store.apply config).1.apply config = store.apply config := by
  apply Prod.ext
  · apply (sound.apply config).eq_of_lookup? ((sound.apply config).apply config)
      (catalog_apply _ config)
    intro s member
    have known : s ∈ store.catalog.settings := by rwa [catalog_apply] at member
    rw [lookup?_apply member, lookup?_apply known]
    cases config.given? s <;> rfl
  · rw [issues_apply, issues_apply, catalog_apply]

theorem refusal?_eq_none (member : s ∈ store.catalog.settings) {value : Value} :
    store.catalog.refusal? (s.id, value) = none ↔ (s.check value).isOk := by
  rw [Catalog.refusal?, Catalog.get?_self member]
  cases outcome : s.check value <;> simp [outcome, Except.isOk, Except.toBool]

theorem Sound.apply_insert (sound : store.Sound) (nonempty : config.curves ≠ [])
    (alone : config.settings.get? Catalog.curvesId = none ∨
      store.catalog.refusal? (Catalog.curvesId, .curves config.curves) = none) :
    (store.apply config).1 =
      (store.apply ⟨config.settings.insert Catalog.curvesId (.curves config.curves), []⟩).1 := by
  apply (sound.apply _).eq_of_lookup? (sound.apply config)
  · rw [catalog_apply, catalog_apply]
  · intro s member
    rw [catalog_apply] at member
    rw [lookup?_apply member, lookup?_apply member]
    congr 1
    simp only [Config.given?, SortedMap.get?_insert]
    by_cases here : s.id = Catalog.curvesId
    · rw [← here, refusal?_eq_none member] at alone
      rw [← here]
      cases accepted : (s.check (.curves config.curves)).isOk <;>
        simp_all [Option.filter]
    · simp [here]

structure Updates (catalog : Catalog) (config : Config) (store : Store) : Prop where
  held : ∀ id s, catalog.get? id = some s → ∃ previous, store.get id = .ok previous ∧
    (store.apply config).1.get id = .ok ((config.given? s).getD previous)
  issues : (store.apply config).2 =
    (config.settings.entries ++ config.curveEntries).filterMap catalog.refusal?
  refused : ∀ id value issue,
    store.set id value = .error issue ↔ catalog.refusal? (id, value) = some issue
  anyOrder : ∀ entries, entries.Perm config.settings.entries →
    (store.write (entries ++ config.curveEntries)).1 = (store.apply config).1 ∧
      (store.write (entries ++ config.curveEntries)).2.Perm (store.apply config).2
  again : (store.apply config).1.apply config = store.apply config
  curvesAsEntry : config.curves ≠ [] → config.settings.get? Catalog.curvesId = none ∨
      catalog.refusal? (Catalog.curvesId, .curves config.curves) = none →
    (store.apply config).1 =
      (store.apply ⟨config.settings.insert Catalog.curvesId (.curves config.curves), []⟩).1

theorem Sound.updates (sound : store.Sound) (config : Config) :
    Updates store.catalog config store where
  held := by
    intro id s registered
    obtain ⟨member, rfl⟩ := Catalog.get?_eq_some.mp registered
    have known : s ∈ (store.apply config).1.catalog.settings := by
      rw [catalog_apply]
      exact member
    refine ⟨(store.lookup? s.id).getD s.initial, Store.get_eq_ok.mpr ⟨s, registered, rfl⟩, ?_⟩
    apply Store.get_eq_ok.mpr
    refine ⟨s, Catalog.get?_self known, ?_⟩
    rw [lookup?_apply member]
    cases config.given? s <;> rfl
  issues := issues_apply store config
  refused := fun _ _ _ => set_eq_error_iff
  anyOrder := by
    intro entries same
    refine ⟨sound.write_of_perm same, ?_⟩
    rw [issues_write, issues_apply]
    exact (same.append_right _).filterMap _
  again := sound.apply_apply config
  curvesAsEntry := sound.apply_insert

theorem updates_actAll (catalog : Catalog) (actions : List Action) (config : Config) :
    Updates catalog config ((ofCatalog catalog).actAll actions) := by
  have updates := (sound_actAll catalog actions).updates config
  rwa [catalog_actAll] at updates

end Store

end PlotMarkup
