import PlotMarkup.Proofs.Catalog.Rendering
import PlotMarkup.Proofs.Config.Application
import PlotMarkup.Proofs.Config.RoundTrip
import PlotMarkup.Store.Document

namespace PlotMarkup

open Setting (Value)

namespace SortedMap

variable {α : Type}

theorem get?_ofList {entries : List (String × α)} (distinct : (entries.map Prod.fst).Nodup)
    (key : String) : (ofList entries).get? key = entries.lookup key := by
  have step (map : SortedMap α) :
      (entries.foldl (fun map entry => map.insert entry.1 entry.2) map).get? key =
        (entries.lookup key).or (map.get? key) := by
    induction entries generalizing map with
    | nil => rfl
    | cons entry rest ih =>
        obtain ⟨fresh, distinct⟩ := List.nodup_cons.mp distinct
        rw [List.foldl_cons, ih distinct, get?_insert, Store.lookup_cons]
        by_cases same : key = entry.1
        · rw [if_pos same, if_pos same, Store.lookup_eq_none.mpr (same ▸ fresh)]
          rfl
        · rw [if_neg same, if_neg same]
  rw [ofList, step]
  cases entries.lookup key <;> rfl

end SortedMap

/-- The setting accepts its initial value, and a number only if it is finite. -/
structure Setting.Restorable (s : Setting) : Prop where
  initial : s.check s.initial = .ok ()
  bounded : s.initial.number?.isSome = true → s.slider.isSome = true

namespace Setting.Restorable

variable {s : Setting} {value : Value}

theorem check (restorable : s.Restorable) (fits : s.Fits value) : s.check value = .ok () := by
  rcases fits.valid with rfl | accepted
  · exact restorable.initial
  · exact accepted

theorem isFinite (restorable : s.Restorable) (fits : s.Fits value) {x : Float}
    (held : value.number? = some x) : x.isFinite = true := by
  cases value with
  | number y =>
      cases held
      have variant := fits.variant
      have numeric : s.initial.number?.isSome = true := by
        cases initial : s.initial <;> rw [initial] at variant
        case number => rfl
        all_goals cases variant
      obtain ⟨slider, bounds⟩ := Option.isSome_iff_exists.mp (restorable.bounded numeric)
      have accepted := restorable.check fits
      rw [Setting.check, if_pos variant] at accepted
      simp only [bounds, checkNumber] at accepted
      split at accepted
      · cases accepted
      · rename_i finite
        simpa using finite
  | toggle on => cases held
  | text content => cases held
  | curves list => cases held

end Setting.Restorable

theorem Catalog.restorable_standard : ∀ s ∈ standard.settings, s.Restorable := by
  have each : ∀ s ∈ standardSettings, s.check s.initial = .ok () ∧
      (s.initial.number?.isSome = true → s.slider.isSome = true) := by decide +kernel
  rw [standard_settings]
  intro s member
  exact ⟨(each s member).1, (each s member).2⟩

namespace Store

def saved (store : Store) : Config :=
  ⟨store.snapshot, []⟩

variable {store : Store}

theorem Sound.refusal?_of_mem (sound : store.Sound)
    (restorable : ∀ s ∈ store.catalog.settings, s.Restorable) {entry : String × Value}
    (stored : entry ∈ store.values) : store.catalog.refusal? entry = none := by
  obtain ⟨s, registered, fits⟩ := sound.fits entry stored
  obtain ⟨member, -⟩ := Catalog.get?_eq_some.mp registered
  simp [Catalog.refusal?, registered, (restorable s member).check fits]

theorem Sound.apply_saved (sound : store.Sound)
    (restorable : ∀ s ∈ store.catalog.settings, s.Restorable) :
    (ofCatalog store.catalog).apply store.saved = (store, []) := by
  have saved (id : String) : store.snapshot.get? id = store.lookup? id := by
    apply SortedMap.get?_ofList
    rw [sound.keys]
    exact store.catalog.distinct
  apply Prod.ext
  · apply sound.eq_of_lookup? ((sound_ofCatalog store.catalog).apply _) (catalog_apply _ _)
    intro s member
    have known : s.id ∈ store.values.map Prod.fst := by
      rw [sound.keys]
      exact List.mem_map_of_mem member
    obtain ⟨⟨id, value⟩, stored, rfl⟩ := List.mem_map.mp known
    have held := Store.lookup?_of_mem sound stored
    have accepted := (refusal?_eq_none member).mp (sound.refusal?_of_mem restorable stored)
    have given : store.saved.given? s = some value := by
      simp [Config.given?, Store.saved, saved, held, accepted]
    have fresh : s ∈ (ofCatalog store.catalog).catalog.settings := member
    rw [lookup?_apply fresh, given, held]
    rfl
  · rw [issues_apply, List.filterMap_eq_nil_iff]
    intro entry stored
    have stored : entry ∈ store.snapshot.entries := by
      simpa [Store.saved, Config.curveEntries] using stored
    exact sound.refusal?_of_mem restorable (SortedMap.mem_ofList stored)

theorem Sound.isFinite_saved (sound : store.Sound)
    (restorable : ∀ s ∈ store.catalog.settings, s.Restorable) :
    ∀ x ∈ store.saved.numbers, x.isFinite = true := by
  intro x held
  obtain ⟨entry, member, number⟩ := Config.mem_numbers.mp held
  obtain ⟨s, registered, fits⟩ := sound.fits entry (SortedMap.mem_ofList member)
  obtain ⟨known, -⟩ := Catalog.get?_eq_some.mp registered
  exact (restorable s known).isFinite fits number

/--
Whatever a session over the standard catalog went through, it can be written as a configuration
document and read back into a fresh session without a complaint, if the texts of its numbers are
read back as these numbers.
-/
theorem restored_actAll (actions : List Action) :
    let store := (ofCatalog Catalog.standard).actAll actions
    store.saved.Faithful → ∃ config restored,
      Config.ofText store.saved.text = .ok config ∧
      (ofCatalog Catalog.standard).apply config = (restored, []) ∧
      (∀ id, restored.get id = store.get id) ∧ restored.curves = store.curves ∧
      restored.document = store.document := by
  intro store faithful
  have sound : store.Sound := by
    show ((ofCatalog Catalog.standard).actAll actions).Sound
    rw [actAll_eq_afterAll]
    exact (sound_ofCatalog Catalog.standard).afterAll _
  have catalog : store.catalog = Catalog.standard := by
    show ((ofCatalog Catalog.standard).actAll actions).catalog = Catalog.standard
    rw [actAll_eq_afterAll, catalog_afterAll]
    rfl
  have restorable : ∀ s ∈ store.catalog.settings, s.Restorable := by
    rw [catalog]
    exact Catalog.restorable_standard
  have read : Config.ofText store.saved.text = .ok store.saved :=
    Config.ofText_text_of_finite faithful (sound.isFinite_saved restorable)
  have applied : (ofCatalog Catalog.standard).apply store.saved = (store, []) := by
    rw [← catalog]
    exact sound.apply_saved restorable
  exact ⟨store.saved, store, read, applied, fun _ => rfl, rfl, rfl⟩

theorem restored_actAll_edited :
    let actions : List Action := [.command (.set "title" (.text "\"5\"\n\\\x01é")),
      .command (.set "size_x_cm" (.number 12)), .command (.set "size_y_cm" (.number 50)),
      .configure ⟨SortedMap.ofList [("gridSize", .number 3), ("showSmallGrid", .toggle true)],
        [(Curve.ofExpression "x^2").withTangentAt "1", .ofExpression "x +"]⟩,
      .command (.reset "ymax"), .command (.set "xmin" (.text "true"))]
    let store := (ofCatalog Catalog.standard).actAll actions
    store.saved.Faithful ∧ store.saved.numbers = [3, 12, 10] ∧
    ∃ config restored,
      Config.ofText store.saved.text = .ok config ∧
      (ofCatalog Catalog.standard).apply config = (restored, []) ∧
      (∀ id, restored.get id = store.get id) ∧ restored.curves = store.curves ∧
      restored.document = store.document := by
  intro actions store
  have faithful : store.saved.Faithful := by decide +kernel
  exact ⟨faithful, by decide +kernel, restored_actAll actions faithful⟩

end Store

end PlotMarkup
