import PlotMarkup.Proofs.Catalog.Rendering
import PlotMarkup.Proofs.Setting.Slider
import PlotMarkup.Proofs.Store.Assembly
import PlotMarkup.Proofs.Store.Session

namespace PlotMarkup

open Setting (Value)
open Number (NearWhole quantity)

namespace Catalog

theorem steps_width : width.Steps 10 20 :=
  ⟨rfl, rfl, by omega, by omega, by omega⟩

theorem steps_height : height.Steps 10 20 :=
  ⟨rfl, rfl, by omega, by omega, by omega⟩

theorem steps_gridSize : gridSize.Steps 5 10 :=
  ⟨rfl, rfl, by omega, by omega, by omega⟩

theorem mem_shown_iff {catalog : Catalog} {history : List Command} {s : Setting} {value : Value}
    (member : s ∈ catalog.settings) (inline : s.placement = .inline) :
    (s, value) ∈ catalog.shown history ↔
      catalog.isVisibleAfter history s = true ∧ value = latest s history := by
  have no_bookend (s? : Option Setting) (bookend : ∀ t, s? = some t → t.placement ≠ .inline) :
      (s, value) ∉ bookendAfter history s? := by
    intro there
    exact bookend s (mem_bookendAfter there).1 inline
  have first := no_bookend catalog.leading? fun t found => by
    simp [(leading?_eq_some found).2]
  have last := no_bookend catalog.trailing? fun t found => by
    simp [(trailing?_eq_some found).2]
  have between : (s, value) ∈ catalog.inlinesAfter history ↔
      catalog.isVisibleAfter history s = true ∧ value = latest s history := by
    simp only [inlinesAfter, List.mem_map, List.mem_filter, Prod.mk.injEq]
    constructor
    · rintro ⟨t, ⟨-, shown⟩, rfl, rfl⟩
      simp_all
    · rintro ⟨visible, rfl⟩
      exact ⟨s, ⟨member, by simp [inline, visible]⟩, rfl, rfl⟩
  simp [shown, first, last, between]

end Catalog

namespace Store

open Catalog (standard width height gridSize steps_width steps_height steps_gridSize)

structure Shows (store : Store) (s : Setting) (top : Nat) (before after : String) (x : Float) :
    Prop where
  whole : NearWhole top x
  held : store.get s.id = .ok (.number x)
  shown : ∀ value, (s, value) ∈ store.emitted ↔ store.isVisible s = true ∧ value = .number x
  written : emit s (.number x) = .ofText (before ++ Number.markup x ++ after)

variable {s : Setting} {first top : Nat} {before after : String}

theorem exists_shows (steps : s.Steps first top) (member : s ∈ standard.settings)
    (inline : s.placement = .inline)
    (written : ∀ x, emit s (.number x) = .ofText (before ++ Number.markup x ++ after))
    (actions : List Action) :
    ∃ x, ((ofCatalog standard).actAll actions).Shows s top before after x := by
  rw [actAll_eq_afterAll]
  generalize actions.flatMap Action.commands = history
  obtain ⟨x, value, whole⟩ := steps.exists_of_fits (Setting.fits_latest s history)
  refine ⟨x, whole, ?_, ?_, written x⟩
  · rw [get_afterAll history (Catalog.get?_self member), value]
  · intro other
    rw [emitted_afterAll, isVisible_afterAll, Catalog.mem_shown_iff member inline, value]

theorem shows_actAll (actions : List Action) :
    (∃ x, ((ofCatalog standard).actAll actions).Shows width 20 "\n  width=\x7b" "cm\x7d," x) ∧
    (∃ x, ((ofCatalog standard).actAll actions).Shows height 20 "\n  height=\x7b" "cm\x7d," x) ∧
    (∃ x, ((ofCatalog standard).actAll actions).Shows gridSize 10 "\n  minor tick num=" "," x) ∧
    (∀ x, width.check (.number x) = .ok () ↔ NearWhole 20 x) ∧
    (∀ x, height.check (.number x) = .ok () ↔ NearWhole 20 x) ∧
    (∀ x, gridSize.check (.number x) = .ok () ↔ NearWhole 10 x) := by
  have members : width ∈ standard.settings ∧ height ∈ standard.settings ∧
      gridSize ∈ standard.settings := by
    simp [Catalog.standard_settings, Catalog.standardSettings]
  obtain ⟨width_mem, height_mem, gridSize_mem⟩ := members
  exact ⟨exists_shows steps_width width_mem rfl (fun _ => rfl) actions,
    exists_shows steps_height height_mem rfl (fun _ => rfl) actions,
    exists_shows steps_gridSize gridSize_mem rfl (fun _ => rfl) actions,
    steps_width.check_eq_ok_iff, steps_height.check_eq_ok_iff, steps_gridSize.check_eq_ok_iff⟩

theorem gridSize_between :
    let actions : List Action := [.command (.set "showSmallGrid" (.toggle true)),
      .command (.set "gridSize" (.number 3.0000000001))]
    let store := (ofCatalog standard).actAll actions
    store.get "gridSize" = .ok (.number 3.0000000001) ∧
    (∀ n : ℕ, quantity 3.0000000001 ≠ n) ∧
    gridSize.check (.number 3.0000000001) = .ok () ∧
    (gridSize, .number 3.0000000001) ∈ store.emitted ∧
    emit gridSize (.number 3.0000000001) = .ofText "\n  minor tick num=3.0000000001," := by
  intro actions store
  have bits : Number.magnitude 3.0000000001 = ⟨6755399441280924, -51⟩ := by decide +kernel
  have value : quantity 3.0000000001 = 6755399441280924 * 2 ^ (-51 : ℤ) := by
    rw [Number.quantity_eq bits (by decide +kernel)]
    rfl
  have fraction (n : ℕ) : quantity 3.0000000001 ≠ n := by
    intro same
    have above : (3 : ℚ) < n := by
      rw [← same, value]
      norm_num
    have below : (n : ℚ) < 3 + 1 := by
      rw [← same, value]
      norm_num
    have above : 3 < n := by exact_mod_cast above
    have below : n < 3 + 1 := by exact_mod_cast below
    omega
  have shown : (gridSize, .number 3.0000000001) ∈ store.emitted := by
    have known : gridSize ∈ standard.settings := by
      simp [Catalog.standard_settings, Catalog.standardSettings]
    have same : store = _ := actAll_eq_afterAll (ofCatalog standard) actions
    rw [same, emitted_afterAll, Catalog.mem_shown_iff known rfl]
    exact ⟨by decide +kernel, by decide +kernel⟩
  exact ⟨by decide +kernel, fraction, by decide +kernel, shown, by decide +kernel⟩

end Store

end PlotMarkup
