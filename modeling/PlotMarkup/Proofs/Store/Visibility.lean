import PlotMarkup.Proofs.Catalog.Rendering
import PlotMarkup.Proofs.Store.Assembly
import PlotMarkup.Proofs.Store.Session

namespace PlotMarkup

open Setting (Value)

namespace Store

/-- Two stores of one catalog agree on everything that is shown and on whether it is shown. -/
structure Agree (store store' : Store) : Prop where
  catalog : store'.catalog = store.catalog
  leading : ∀ s ∈ store.catalog.leading?, store'.isEnabled s.id = store.isEnabled s.id
  trailing : ∀ s ∈ store.catalog.trailing?, store'.isEnabled s.id = store.isEnabled s.id
  guards : ∀ s ∈ store.catalog.settings, s.placement = .inline → ∀ id ∈ s.shownIf,
    store'.isEnabled id = store.isEnabled id
  visible : ∀ s ∈ store.catalog.settings, s.placement = .inline → store.isVisible s = true →
    store'.valueOf s = store.valueOf s

section

variable {store store' : Store}

theorem bookend_congr {s? : Option Setting}
    (same : ∀ s ∈ s?, store'.isEnabled s.id = store.isEnabled s.id) :
    store'.bookend s? = store.bookend s? := by
  cases s? with
  | none => rfl
  | some s => simp only [bookend, same s rfl]

theorem Agree.isVisible (agree : Agree store store') {s : Setting}
    (member : s ∈ store.catalog.settings) (inline : s.placement = .inline) :
    store'.isVisible s = store.isVisible s := by
  have guards := agree.guards s member inline
  cases shownIf : s.shownIf with
  | none => simp [Store.isVisible, shownIf]
  | some id => simp [Store.isVisible, shownIf, guards id shownIf]

theorem Agree.inlines (agree : Agree store store') : store'.inlines = store.inlines := by
  have kept : (store.catalog.settings.filter (·.placement == .inline)).filter store'.isVisible =
      (store.catalog.settings.filter (·.placement == .inline)).filter store.isVisible := by
    apply List.filter_congr
    intro s member
    obtain ⟨member, inline⟩ := List.mem_filter.mp member
    exact agree.isVisible member (by simpa using inline)
  rw [Store.inlines, Store.inlines, agree.catalog, kept]
  apply List.map_congr_left
  intro s shown
  obtain ⟨member, visible⟩ := List.mem_filter.mp shown
  obtain ⟨member, inline⟩ := List.mem_filter.mp member
  rw [agree.visible s member (by simpa using inline) visible]

theorem Agree.emitted (agree : Agree store store') : store'.emitted = store.emitted := by
  rw [Store.emitted, Store.emitted, agree.inlines, agree.catalog, bookend_congr agree.leading,
    bookend_congr agree.trailing]

theorem Agree.document (agree : Agree store store') : store'.document = store.document := by
  rw [Store.document, Store.document, agree.emitted]

end

/-- Inline settings that are not shown, and that no other setting depends on. -/
structure Hidden (store : Store) (ids : List String) : Prop where
  inline : ∀ s ∈ store.catalog.settings, s.id ∈ ids → s.placement = .inline
  invisible : ∀ s ∈ store.catalog.settings, s.id ∈ ids → store.isVisible s = false
  noGuard : ∀ s ∈ store.catalog.settings, ∀ id ∈ s.shownIf, id ∉ ids

variable {store : Store} {ids : List String}

theorem lookup?_after_of_target {c : Command} {id other : String} (target : c.target? = some id)
    (apart : other ≠ id) : (store.after c).lookup? other = store.lookup? other := by
  cases done : c.run store with
  | error issue => simp [after, done]
  | ok store' =>
      have single : c ≠ .resetAll := by
        rintro rfl
        cases target
      have elsewhere : c.target? ≠ some other := by
        rw [target]
        exact fun same => apart (Option.some.inj same).symm
      simpa [after, done] using lookup?_of_run done single elsewhere

theorem lookup?_afterAll_of_targets {commands : List Command} {other : String}
    (targets : ∀ c ∈ commands, ∃ id ∈ ids, c.target? = some id) (apart : other ∉ ids) :
    (store.afterAll commands).lookup? other = store.lookup? other := by
  induction commands generalizing store with
  | nil => rfl
  | cons c rest ih =>
      obtain ⟨⟨id, member, target⟩, targets⟩ := List.forall_mem_cons.mp targets
      have other_ne : other ≠ id := fun same => apart (same ▸ member)
      calc ((store.after c).afterAll rest).lookup? other
          = (store.after c).lookup? other := ih targets
        _ = store.lookup? other := lookup?_after_of_target target other_ne

theorem Hidden.agree (hidden : store.Hidden ids) {commands : List Command}
    (targets : ∀ c ∈ commands, ∃ id ∈ ids, c.target? = some id) :
    Agree store (store.afterAll commands) := by
  have kept {other : String} (apart : other ∉ ids) :
      (store.afterAll commands).lookup? other = store.lookup? other :=
    lookup?_afterAll_of_targets targets apart
  have enabled {other : String} (apart : other ∉ ids) :
      (store.afterAll commands).isEnabled other = store.isEnabled other := by
    rw [isEnabled, isEnabled, kept apart]
  refine ⟨catalog_afterAll _ _, ?_, ?_, ?_, ?_⟩
  · intro s found
    obtain ⟨member, leading⟩ := Catalog.leading?_eq_some found
    refine enabled fun inside => ?_
    have inline := hidden.inline s member inside
    simp [leading] at inline
  · intro s found
    obtain ⟨member, trailing⟩ := Catalog.trailing?_eq_some found
    refine enabled fun inside => ?_
    have inline := hidden.inline s member inside
    simp [trailing] at inline
  · intro s member _ id shownIf
    exact enabled (hidden.noGuard s member id shownIf)
  · intro s member _ visible
    have shown : s.id ∉ ids := by
      intro inside
      rw [hidden.invisible s member inside] at visible
      cases visible
    rw [valueOf, valueOf, kept shown]

theorem hidden_standard {store : Store} (catalog : store.catalog = Catalog.standard)
    {guard : String} (off : store.isEnabled guard = false)
    (inline : ∀ s ∈ Catalog.standardSettings, s.id ∈ ids →
      s.placement = .inline ∧ s.shownIf = some guard)
    (noGuard : ∀ s ∈ Catalog.standardSettings, ∀ id ∈ s.shownIf, id ∉ ids) :
    store.Hidden ids := by
  have settings : store.catalog.settings = Catalog.standardSettings := by
    rw [catalog, Catalog.standard_settings]
  refine ⟨?_, ?_, ?_⟩ <;> rw [settings]
  · exact fun s member inside => (inline s member inside).1
  · intro s member inside
    rw [isVisible, (inline s member inside).2]
    exact off
  · exact noGuard

theorem document_actAll_append (before later : List Action) {guard : String}
    (off : ((ofCatalog Catalog.standard).actAll before).isEnabled guard = false)
    (inline : ∀ s ∈ Catalog.standardSettings, s.id ∈ ids →
      s.placement = .inline ∧ s.shownIf = some guard)
    (noGuard : ∀ s ∈ Catalog.standardSettings, ∀ id ∈ s.shownIf, id ∉ ids)
    (targets : ∀ c ∈ later.flatMap Action.commands, ∃ id ∈ ids, c.target? = some id) :
    ((ofCatalog Catalog.standard).actAll (before ++ later)).document =
      ((ofCatalog Catalog.standard).actAll before).document := by
  have catalog : ((ofCatalog Catalog.standard).actAll before).catalog = Catalog.standard := by
    rw [actAll_eq_afterAll, catalog_afterAll]
    rfl
  have split : (ofCatalog Catalog.standard).actAll (before ++ later) =
      ((ofCatalog Catalog.standard).actAll before).afterAll (later.flatMap Action.commands) := by
    rw [← actAll_eq_afterAll, actAll, List.foldl_append]
    rfl
  rw [split]
  exact ((hidden_standard catalog off inline noGuard).agree targets).document

/--
A document depends on nothing but the toggles that decide what is shown and the values that are
shown, whatever histories the stores have.  In a standard session the size of the grid and the
labels of the axes can be written to at will while they are hidden.
-/
theorem document_of_shown :
    (∀ store store' : Store, Agree store store' → store'.document = store.document) ∧
    (∀ before later : List Action,
      ((ofCatalog Catalog.standard).actAll before).isEnabled "showSmallGrid" = false →
      (∀ c ∈ later.flatMap Action.commands, ∃ id ∈ ["gridSize"], c.target? = some id) →
      ((ofCatalog Catalog.standard).actAll (before ++ later)).document =
        ((ofCatalog Catalog.standard).actAll before).document) ∧
    (∀ before later : List Action,
      ((ofCatalog Catalog.standard).actAll before).isEnabled "show_axis_label" = false →
      (∀ c ∈ later.flatMap Action.commands,
        ∃ id ∈ ["axis_label_x", "axis_label_y"], c.target? = some id) →
      ((ofCatalog Catalog.standard).actAll (before ++ later)).document =
        ((ofCatalog Catalog.standard).actAll before).document) := by
  refine ⟨fun _ _ agree => agree.document, ?_, ?_⟩
  · intro before later off targets
    exact document_actAll_append before later off (by decide) (by decide) targets
  · intro before later off targets
    exact document_actAll_append before later off (by decide) (by decide) targets

theorem document_of_shown_standard :
    let first : List Command := [.set "gridSize" (.number 3), .set "title" (.text "T")]
    let second : List Command :=
      [.set "title" (.text "T"), .set "gridSize" (.number 7), .set "dimension" (.toggle false)]
    let fresh := ofCatalog Catalog.standard
    let unlabelled : List Action := [.command (.set "show_axis_label" (.toggle false))]
    let labels : List Action := [.command (.set "axis_label_x" (.text "t")),
      .configure ⟨SortedMap.ofList [("axis_label_y", .text "v(t)")], []⟩]
    Agree (fresh.afterAll first) (fresh.afterAll second) ∧
    (fresh.afterAll second).document = (fresh.afterAll first).document ∧
    fresh.isEnabled "showSmallGrid" = false ∧
    (fresh.actAll ([] ++ [.command (.reset "gridSize")])).document = fresh.document ∧
    (fresh.actAll unlabelled).isEnabled "show_axis_label" = false ∧
    (fresh.actAll (unlabelled ++ labels)).document = (fresh.actAll unlabelled).document := by
  intro first second fresh unlabelled labels
  have agree : Agree (fresh.afterAll first) (fresh.afterAll second) :=
    ⟨by rw [catalog_afterAll, catalog_afterAll], by decide +kernel, by decide +kernel,
      by decide +kernel, by decide +kernel⟩
  have gridOff : fresh.isEnabled "showSmallGrid" = false := by decide +kernel
  have labelsOff : (fresh.actAll unlabelled).isEnabled "show_axis_label" = false := by
    decide +kernel
  refine ⟨agree, document_of_shown.1 _ _ agree, gridOff, ?_, labelsOff, ?_⟩
  · exact document_of_shown.2.1 [] [.command (.reset "gridSize")] gridOff (by decide +kernel)
  · exact document_of_shown.2.2 unlabelled labels labelsOff (by decide +kernel)

end Store

end PlotMarkup
