import Mathlib.Data.List.Induction
import PlotMarkup.Proofs.Catalog.Lookup
import PlotMarkup.Proofs.Setting.Check
import PlotMarkup.Proofs.Store.Entries

namespace PlotMarkup

open Setting (Value)

namespace Store

variable {store store' : Store} {id : String} {value : Value} {s : Setting} {issue : Diagnostic}

theorem lookup?_put (store : Store) (id other : String) (value : Value) :
    (store.put id value).lookup? other = if other = id then some value else store.lookup? other :=
  lookup_assign id other value store.values

theorem get_eq_ok : store.get id = .ok value ↔
    ∃ s, store.catalog.get? id = some s ∧ value = (store.lookup? id).getD s.initial := by
  rw [get, bind_eq_ok]
  constructor
  · rintro ⟨s, required, same⟩
    cases same
    have registered := Catalog.require_eq_ok.mp required
    obtain ⟨-, rfl⟩ := Catalog.get?_eq_some.mp registered
    exact ⟨s, registered, rfl⟩
  · rintro ⟨s, registered, rfl⟩
    refine ⟨s, Catalog.require_eq_ok.mpr registered, ?_⟩
    obtain ⟨-, rfl⟩ := Catalog.get?_eq_some.mp registered
    rfl

theorem set_eq_ok : store.set id value = .ok store' ↔
    ∃ s, store.catalog.get? id = some s ∧ s.check value = .ok () ∧
      store' = store.put id value := by
  simp only [set, bind_eq_ok, Catalog.require_eq_ok]
  constructor
  · rintro ⟨s, registered, ⟨⟩, accepted, same⟩
    cases same
    obtain ⟨-, rfl⟩ := Catalog.get?_eq_some.mp registered
    exact ⟨s, registered, accepted, rfl⟩
  · rintro ⟨s, registered, accepted, rfl⟩
    obtain ⟨-, rfl⟩ := Catalog.get?_eq_some.mp registered
    exact ⟨s, registered, (), accepted, rfl⟩

theorem set_eq_error : store.set id value = .error issue ↔
    (store.catalog.get? id = none ∧ issue = store.catalog.unknown id) ∨
      ∃ s, store.catalog.get? id = some s ∧ s.check value = .error issue := by
  simp only [set, bind_eq_error, Catalog.require_eq_ok, Catalog.require_eq_error]
  constructor
  · rintro (unknown | ⟨s, registered, refused | ⟨_, _, contra⟩⟩)
    · exact .inl unknown
    · exact .inr ⟨s, registered, refused⟩
    · cases contra
  · rintro (unknown | ⟨s, registered, refused⟩)
    · exact .inl unknown
    · exact .inr ⟨s, registered, .inl refused⟩

theorem reset_eq_ok : store.reset id = .ok store' ↔
    ∃ s, store.catalog.get? id = some s ∧ store' = store.put id s.initial := by
  simp only [reset, bind_eq_ok, Catalog.require_eq_ok]
  constructor
  · rintro ⟨s, registered, same⟩
    cases same
    obtain ⟨-, rfl⟩ := Catalog.get?_eq_some.mp registered
    exact ⟨s, registered, rfl⟩
  · rintro ⟨s, registered, rfl⟩
    obtain ⟨-, rfl⟩ := Catalog.get?_eq_some.mp registered
    exact ⟨s, registered, rfl⟩

theorem reset_eq_error : store.reset id = .error issue ↔
    store.catalog.get? id = none ∧ issue = store.catalog.unknown id := by
  simp only [reset, bind_eq_error, Catalog.require_eq_error]
  constructor
  · rintro (unknown | ⟨s, registered, contra⟩)
    · exact unknown
    · cases contra
  · exact .inl

end Store

inductive Command where
  | set (id : String) (value : Value)
  | setCurves (curves : List Curve)
  | reset (id : String)
  | resetAll

namespace Command

def run (store : Store) : Command → Except Diagnostic Store
  | set id value => store.set id value
  | setCurves curves => store.setCurves curves
  | reset id => store.reset id
  | resetAll => .ok store.resetAll

def target? : Command → Option String
  | set id _ => some id
  | setCurves _ => some Catalog.curvesId
  | reset id => some id
  | resetAll => none

def value? : Command → Option Value
  | set _ value => some value
  | setCurves curves => some (.curves curves)
  | _ => none

def writes? (s : Setting) (c : Command) : Option Value :=
  if c.target? = some s.id then c.value?.filter fun value => (s.check value).isOk else none

def resets (s : Setting) : Command → Bool
  | reset id => id == s.id
  | resetAll => true
  | _ => false

theorem writes?_eq_some {s : Setting} {c : Command} {value : Value} :
    c.writes? s = some value ↔
      c.target? = some s.id ∧ c.value? = some value ∧ s.check value = .ok () := by
  have isOk : (s.check value).isOk = true ↔ s.check value = .ok () := by
    cases s.check value <;> simp [Except.isOk, Except.toBool]
  simp [writes?, Option.filter_eq_some_iff, isOk]

/-- The value that a setting has after a command, if the command affects it. -/
def gives? (s : Setting) (c : Command) : Option Value :=
  if c.resets s then some s.initial else c.writes? s

theorem gives?_of_accepted {s : Setting} {value : Value} (accepted : s.check value = .ok ()) :
    (set s.id value).gives? s = some value :=
  writes?_eq_some.mpr ⟨rfl, rfl, accepted⟩

theorem gives?_reset (s : Setting) : (reset s.id).gives? s = some s.initial :=
  if_pos (beq_self_eq_true s.id)

theorem gives?_of_other {s : Setting} {c : Command} {id : String} (target : c.target? = some id)
    (other : s.id ≠ id) : c.gives? s = none := by
  have elsewhere : c.target? ≠ some s.id := by
    rw [target]
    exact fun same => other (Option.some.inj same).symm
  have kept : ¬c.resets s = true := by
    cases c with
    | reset id' => exact fun same => elsewhere (congrArg some (eq_of_beq same))
    | resetAll => cases target
    | _ => exact Bool.false_ne_true
  rw [gives?, if_neg kept, writes?, if_neg elsewhere]

theorem fits_of_gives {s : Setting} {c : Command} {value : Value}
    (given : c.gives? s = some value) : s.Fits value := by
  unfold gives? at given
  split at given
  · cases given
    exact s.fits_initial
  · exact Setting.fits_of_check (writes?_eq_some.mp given).2.2

end Command

/-- The value that a history leaves a setting with: the last it accepted since it was reset. -/
def latest (s : Setting) (history : List Command) : Value :=
  ((history.reverse.takeWhile (!·.resets s)).findSome? (·.writes? s)).getD s.initial

theorem latest_append (s : Setting) (history : List Command) (c : Command) :
    latest s (history ++ [c]) = (c.gives? s).getD (latest s history) := by
  simp only [latest, Command.gives?, List.reverse_append, List.reverse_singleton,
    List.singleton_append, List.takeWhile_cons]
  cases c.resets s with
  | true => rfl
  | false => cases written : c.writes? s <;> simp [written]

namespace Store

def after (store : Store) (c : Command) : Store :=
  match c.run store with
  | .ok store' => store'
  | .error _ => store

def afterAll (store : Store) (history : List Command) : Store :=
  history.foldl after store

variable {store store' : Store} {c : Command} {s : Setting} {issue : Diagnostic}

inductive Effect (store : Store) (c : Command) : Store → Prop where
  | all (same : c = .resetAll) : Effect store c store.resetAll
  | single {s : Setting} {value : Value} (member : s ∈ store.catalog.settings)
      (target : c.target? = some s.id) (given : c.gives? s = some value) :
      Effect store c (store.put s.id value)

theorem effect_set {id : String} {value : Value} (done : store.set id value = .ok store') :
    Effect store (.set id value) store' := by
  obtain ⟨s, registered, accepted, rfl⟩ := set_eq_ok.mp done
  obtain ⟨member, rfl⟩ := Catalog.get?_eq_some.mp registered
  exact .single member rfl (Command.gives?_of_accepted accepted)

theorem effect_of_run (done : c.run store = .ok store') : Effect store c store' := by
  cases c with
  | set id value => exact effect_set done
  | setCurves curves =>
      cases effect_set done with
      | all same => cases same
      | single member target given => exact .single member target given
  | reset id =>
      obtain ⟨s, registered, rfl⟩ := reset_eq_ok.mp done
      obtain ⟨member, rfl⟩ := Catalog.get?_eq_some.mp registered
      exact .single member rfl (Command.gives?_reset s)
  | resetAll =>
      cases done
      exact .all rfl

theorem gives?_of_refused_set {id : String} {value : Value}
    (refused : store.set id value = .error issue) (member : s ∈ store.catalog.settings) :
    (Command.set id value).gives? s = none := by
  cases given : (Command.set id value).gives? s with
  | none => rfl
  | some value' =>
      obtain ⟨target, same, accepted⟩ := Command.writes?_eq_some.mp given
      cases target
      cases same
      rcases set_eq_error.mp refused with ⟨absent, -⟩ | ⟨t, registered, refused⟩
      · rw [Catalog.get?_self member] at absent
        cases absent
      · rw [Catalog.get?_self member] at registered
        cases registered
        rw [accepted] at refused
        cases refused

theorem gives?_of_refused (refused : c.run store = .error issue)
    (member : s ∈ store.catalog.settings) : c.gives? s = none := by
  cases c with
  | set id value => exact gives?_of_refused_set refused member
  | setCurves curves => exact gives?_of_refused_set refused member
  | reset id =>
      obtain ⟨absent, -⟩ := reset_eq_error.mp refused
      refine Command.gives?_of_other rfl ?_
      rintro rfl
      rw [Catalog.get?_self member] at absent
      cases absent
  | resetAll => cases refused

theorem lookup?_restoreAll {settings : List Setting}
    (unique : ∀ t ∈ settings, t.id = s.id → t = s) (member : s ∈ settings) (store : Store) :
    (settings.foldl restore store).lookup? s.id = some s.initial := by
  induction settings using List.reverseRecOn with
  | nil => cases member
  | append_singleton settings t ih =>
      rw [List.foldl_append, List.foldl_cons, List.foldl_nil, restore, lookup?_put]
      by_cases same : s.id = t.id
      · rw [if_pos same, unique t (by simp) same.symm]
      · have other : s ≠ t := fun equal => same (congrArg Setting.id equal)
        have earlier : s ∈ settings := by simpa [other] using member
        rw [if_neg same, ih (fun t known => unique t (List.mem_append_left _ known)) earlier]

theorem lookup?_resetAll (member : s ∈ store.catalog.settings) :
    store.resetAll.lookup? s.id = some s.initial :=
  lookup?_restoreAll (fun _ known same => store.catalog.eq_of_id known member same) member store

theorem lookup?_after (c : Command) (member : s ∈ store.catalog.settings) :
    (store.after c).lookup? s.id = (c.gives? s).or (store.lookup? s.id) := by
  unfold after
  split <;> rename_i outcome
  · cases effect_of_run outcome with
    | all same =>
        rw [same, lookup?_resetAll member]
        rfl
    | @single t value known target given =>
        rw [lookup?_put]
        by_cases same : s.id = t.id
        · obtain rfl := store.catalog.eq_of_id member known same
          rw [if_pos rfl, given, Option.some_or]
        · rw [if_neg same, Command.gives?_of_other target same, Option.none_or]
  · rw [gives?_of_refused outcome member, Option.none_or]

structure Sound (store : Store) : Prop where
  keys : store.values.map Prod.fst = store.catalog.ids
  fits : ∀ entry ∈ store.values, ∃ s,
    store.catalog.get? entry.1 = some s ∧ s.Fits entry.2

theorem sound_ofCatalog (catalog : Catalog) : (ofCatalog catalog).Sound where
  keys := by simp [ofCatalog, Catalog.ids]
  fits := by
    intro entry member
    obtain ⟨s, known, rfl⟩ := List.mem_map.mp member
    exact ⟨s, Catalog.get?_self known, s.fits_initial⟩

theorem Sound.put {value : Value} (sound : store.Sound) (member : s ∈ store.catalog.settings)
    (fits : s.Fits value) : (store.put s.id value).Sound where
  keys := by
    have known : s.id ∈ store.catalog.ids := List.mem_map_of_mem member
    show (assign s.id value store.values).map Prod.fst = store.catalog.ids
    rw [keys_assign, sound.keys, if_pos known]
  fits := by
    intro entry stored
    rcases mem_assign stored with rfl | stored
    · exact ⟨s, Catalog.get?_self member, fits⟩
    · exact sound.fits entry stored

theorem Sound.restoreAll {settings : List Setting} (sound : store.Sound)
    (known : settings ⊆ store.catalog.settings) :
    (settings.foldl restore store).Sound := by
  induction settings generalizing store with
  | nil => exact sound
  | cons s rest ih =>
      obtain ⟨member, known⟩ := List.cons_subset.mp known
      have restored : (store.restore s).Sound := sound.put member s.fits_initial
      exact ih restored known

theorem catalog_restoreAll (settings : List Setting) (store : Store) :
    (settings.foldl restore store).catalog = store.catalog := by
  induction settings generalizing store with
  | nil => rfl
  | cons s rest ih => exact ih _

theorem Sound.after (sound : store.Sound) (c : Command) : (store.after c).Sound := by
  unfold Store.after
  split <;> rename_i outcome
  · cases effect_of_run outcome with
    | all => exact sound.restoreAll (List.Subset.refl _)
    | single member target given => exact sound.put member (Command.fits_of_gives given)
  · exact sound

theorem catalog_after (store : Store) (c : Command) : (store.after c).catalog = store.catalog := by
  unfold after
  split <;> rename_i outcome
  · cases effect_of_run outcome with
    | all => exact catalog_restoreAll _ _
    | single => rfl
  · rfl

theorem lookup?_of_mem (sound : store.Sound) {entry : String × Value}
    (stored : entry ∈ store.values) : store.lookup? entry.1 = some entry.2 :=
  lookup_of_mem (sound.keys ▸ store.catalog.distinct) stored

theorem lookup?_ofCatalog {catalog : Catalog} (member : s ∈ catalog.settings) :
    (ofCatalog catalog).lookup? s.id = some s.initial :=
  lookup?_of_mem (sound_ofCatalog catalog) (List.mem_map.mpr ⟨s, member, rfl⟩)

theorem resetAll_eq (sound : store.Sound) : store.resetAll = ofCatalog store.catalog := by
  have reset : store.resetAll.Sound := sound.restoreAll (List.Subset.refl _)
  have catalog : store.resetAll.catalog = store.catalog := catalog_restoreAll _ _
  have keys : store.resetAll.values.map Prod.fst = store.catalog.ids := by
    rw [reset.keys, catalog]
  have values : store.resetAll.values = (ofCatalog store.catalog).values := by
    apply entries_eq
    · rw [keys, (sound_ofCatalog store.catalog).keys]
      rfl
    · rw [keys]
      exact store.catalog.distinct
    · intro id known
      rw [keys] at known
      obtain ⟨s, member, rfl⟩ := List.mem_map.mp known
      exact (lookup?_resetAll member).trans (lookup?_ofCatalog member).symm
  calc store.resetAll = ⟨store.resetAll.catalog, store.resetAll.values⟩ := rfl
    _ = ofCatalog store.catalog := by rw [catalog, values]; rfl

theorem afterAll_append (store : Store) (history : List Command) (c : Command) :
    store.afterAll (history ++ [c]) = (store.afterAll history).after c := by
  simp [afterAll]

theorem catalog_afterAll (store : Store) (history : List Command) :
    (store.afterAll history).catalog = store.catalog := by
  induction history using List.reverseRecOn with
  | nil => rfl
  | append_singleton history c ih => rw [afterAll_append, catalog_after, ih]

theorem Sound.afterAll (sound : store.Sound) (history : List Command) :
    (store.afterAll history).Sound := by
  induction history using List.reverseRecOn with
  | nil => exact sound
  | append_singleton history c ih =>
      rw [afterAll_append]
      exact ih.after c

theorem lookup?_afterAll {catalog : Catalog} (history : List Command)
    (member : s ∈ catalog.settings) :
    ((ofCatalog catalog).afterAll history).lookup? s.id = some (latest s history) := by
  induction history using List.reverseRecOn with
  | nil => exact lookup?_ofCatalog member
  | append_singleton history c ih =>
      have known : s ∈ ((ofCatalog catalog).afterAll history).catalog.settings := by
        rw [catalog_afterAll]
        exact member
      rw [afterAll_append, lookup?_after c known, ih, latest_append]
      cases c.gives? s <;> rfl

theorem get_afterAll {catalog : Catalog} (history : List Command) {id : String}
    (registered : catalog.get? id = some s) :
    ((ofCatalog catalog).afterAll history).get id = .ok (latest s history) := by
  obtain ⟨member, rfl⟩ := Catalog.get?_eq_some.mp registered
  refine get_eq_ok.mpr ⟨s, ?_, ?_⟩
  · rw [catalog_afterAll]
    exact registered
  · rw [lookup?_afterAll history member]
    rfl

theorem Sound.get_eq_ok {id : String} {value : Value} (sound : store.Sound) :
    store.get id = .ok value ↔ store.lookup? id = some value := by
  rw [Store.get_eq_ok]
  cases found : store.lookup? id with
  | none =>
      have absent : store.catalog.get? id = none := by
        rw [Catalog.get?_eq_none, ← sound.keys]
        exact lookup_eq_none.mp found
      simp [absent]
  | some stored =>
      have known : id ∈ store.catalog.ids := by
        rw [← sound.keys]
        by_contra absent
        rw [lookup?, lookup_eq_none.mpr absent] at found
        cases found
      obtain ⟨s, member, rfl⟩ := List.mem_map.mp known
      simp [Catalog.get?_self member, eq_comm]

theorem Sound.curves_of_get {curves : List Curve} (sound : store.Sound)
    (held : store.get Catalog.curvesId = .ok (.curves curves)) : store.curves = curves := by
  rw [Store.curves, sound.get_eq_ok.mp held]
  rfl

theorem Sound.curves_eq_nil (sound : store.Sound)
    (other : ∀ curves, store.get Catalog.curvesId ≠ .ok (.curves curves)) : store.curves = [] := by
  rw [Store.curves]
  cases found : store.lookup? Catalog.curvesId with
  | none => rfl
  | some value =>
      cases value with
      | curves list => exact absurd (sound.get_eq_ok.mpr found) (other list)
      | _ => rfl

theorem run_of_unregistered {id : String} (target : c.target? = some id)
    (absent : store.catalog.get? id = none) : c.run store = .error (store.catalog.unknown id) := by
  cases c with
  | resetAll => cases target
  | reset id =>
      cases target
      exact reset_eq_error.mpr ⟨absent, rfl⟩
  | _ =>
      cases target
      exact set_eq_error.mpr (.inl ⟨absent, rfl⟩)

theorem run_of_rejected {id : String} {value : Value} (target : c.target? = some id)
    (registered : store.catalog.get? id = some s) (brought : c.value? = some value)
    (rejected : s.check value = .error issue) : c.run store = .error issue := by
  cases c with
  | resetAll => cases target
  | reset id => cases brought
  | _ =>
      cases target
      cases brought
      exact set_eq_error.mpr (.inr ⟨s, registered, rejected⟩)

theorem refused_cases (refused : c.run store = .error issue) :
    (issue.kind = .unknownSetting ∧
      ∃ id, c.target? = some id ∧ store.catalog.get? id = none) ∨
    (issue.kind = .typeMismatch ∧ ∃ id s value, c.target? = some id ∧
      store.catalog.get? id = some s ∧ c.value? = some value ∧ s.check value = .error issue) := by
  cases c with
  | resetAll => cases refused
  | reset id =>
      obtain ⟨absent, rfl⟩ := reset_eq_error.mp refused
      exact .inl ⟨Catalog.unknown_kind _ _, _, rfl, absent⟩
  | _ =>
      rcases set_eq_error.mp refused with ⟨absent, rfl⟩ | ⟨s, registered, rejected⟩
      · exact .inl ⟨Catalog.unknown_kind _ _, _, rfl, absent⟩
      · exact .inr ⟨Setting.kind_of_check rejected, _, s, _, rfl, registered, rfl, rejected⟩

theorem lookup?_of_run {id : String} (done : c.run store = .ok store') (single : c ≠ .resetAll)
    (other : c.target? ≠ some id) : store'.lookup? id = store.lookup? id := by
  cases effect_of_run done with
  | all same => exact absurd same single
  | @single s value member target given =>
      have elsewhere : id ≠ s.id := by
        rintro rfl
        exact other target
      rw [lookup?_put, if_neg elsewhere]

structure Lawful (catalog : Catalog) (history : List Command) (store : Store) : Prop where
  keys : store.values.map Prod.fst = catalog.ids
  distinct : (store.values.map Prod.fst).Nodup
  fits : ∀ entry ∈ store.values, ∃ s, catalog.get? entry.1 = some s ∧
    entry.2.sameVariant s.initial = true ∧ (entry.2 = s.initial ∨ s.check entry.2 = .ok ())
  held : ∀ id s, catalog.get? id = some s → store.get id = .ok (latest s history)
  curves : ∀ list, store.get Catalog.curvesId = .ok (.curves list) → store.curves = list
  noCurves : (∀ list, store.get Catalog.curvesId ≠ .ok (.curves list)) → store.curves = []
  unregistered : ∀ (c : Command) (id : String), c.target? = some id → catalog.get? id = none →
    c.run store = .error (catalog.unknown id)
  rejected : ∀ (c : Command) (id : String) (s : Setting) (value : Value) (issue : Diagnostic),
    c.target? = some id → catalog.get? id = some s → c.value? = some value →
    s.check value = .error issue → c.run store = .error issue
  refused : ∀ (c : Command) (issue : Diagnostic), c.run store = .error issue →
    store.after c = store ∧
    ((issue.kind = .unknownSetting ∧ ∃ id, c.target? = some id ∧ catalog.get? id = none) ∨
      (issue.kind = .typeMismatch ∧ ∃ id s value, c.target? = some id ∧
        catalog.get? id = some s ∧ c.value? = some value ∧ s.check value = .error issue))
  others : ∀ (c : Command) (store' : Store) (id : String), c.run store = .ok store' →
    c ≠ .resetAll → c.target? ≠ some id → store'.lookup? id = store.lookup? id
  fresh : store.resetAll = ofCatalog catalog

theorem Sound.lawful {history : List Command} (sound : store.Sound)
    (held : ∀ id s, store.catalog.get? id = some s → store.get id = .ok (latest s history)) :
    Lawful store.catalog history store where
  keys := sound.keys
  distinct := by
    rw [sound.keys]
    exact store.catalog.distinct
  fits := by
    intro entry stored
    obtain ⟨s, registered, fits⟩ := sound.fits entry stored
    exact ⟨s, registered, fits.variant, fits.valid⟩
  held := held
  curves := fun _ => sound.curves_of_get
  noCurves := sound.curves_eq_nil
  unregistered := fun _ _ => run_of_unregistered
  rejected := fun _ _ _ _ _ => run_of_rejected
  refused := by
    intro c issue refused
    refine ⟨?_, refused_cases refused⟩
    rw [Store.after, refused]
  others := fun _ _ _ => lookup?_of_run
  fresh := resetAll_eq sound

theorem lawful_afterAll (catalog : Catalog) (history : List Command) :
    Lawful catalog history ((ofCatalog catalog).afterAll history) := by
  have same : ((ofCatalog catalog).afterAll history).catalog = catalog := catalog_afterAll _ _
  have lawful : Lawful ((ofCatalog catalog).afterAll history).catalog history
      ((ofCatalog catalog).afterAll history) := by
    apply ((sound_ofCatalog catalog).afterAll history).lawful
    intro id s registered
    rw [same] at registered
    exact get_afterAll history registered
  rw [same] at lawful
  exact lawful

end Store

end PlotMarkup
