import PlotMarkup.Catalog.Standard
import PlotMarkup.Proofs.Catalog.Lookup
import PlotMarkup.Proofs.Setting.Check

namespace PlotMarkup

open Setting (Value)

namespace Catalog

theorem settings_registerAll (settings : List Setting) (catalog : Catalog)
    (distinct : ((catalog.settings ++ settings).map Setting.id).Nodup) :
    (catalog.registerAll settings).settings = catalog.settings ++ settings := by
  induction settings generalizing catalog with
  | nil => exact (List.append_nil _).symm
  | cons s rest ih =>
      have new : s.id ∉ catalog.settings.map Setting.id := by
        rw [List.map_append, List.map_cons, List.nodup_append] at distinct
        exact fun known => distinct.2.2 s.id known s.id List.mem_cons_self rfl
      have registered : (catalog.register s).settings = catalog.settings ++ [s] :=
        settings_register_of_new new
      have later := ih (catalog.register s)
      rw [registered, List.append_assoc, List.singleton_append] at later
      exact later distinct

theorem standard_settings : standard.settings = standardSettings :=
  settings_registerAll standardSettings empty (by decide)

end Catalog

namespace Setting

def Plain (s : Setting) : Prop :=
  ∀ value, value.sameVariant s.initial = true → ∃ text, s.markup value = .ok (.ofText text)

variable {s : Setting}

theorem plain_of_toggle {initially : Bool} (initial : s.initial = .toggle initially)
    (makes : ∀ on, ∃ text, s.markup (.toggle on) = .ok (.ofText text)) : s.Plain := by
  intro value same
  rw [initial] at same
  cases value with
  | toggle on => exact makes on
  | _ => cases same

theorem plain_of_text {initially : String} (initial : s.initial = .text initially)
    (makes : ∀ content, ∃ text, s.markup (.text content) = .ok (.ofText text)) : s.Plain := by
  intro value same
  rw [initial] at same
  cases value with
  | text content => exact makes content
  | _ => cases same

theorem plain_of_number {initially : Float} (initial : s.initial = .number initially)
    (makes : ∀ x, ∃ text, s.markup (.number x) = .ok (.ofText text)) : s.Plain := by
  intro value same
  rw [initial] at same
  cases value with
  | number x => exact makes x
  | _ => cases same

theorem plain_of_choice {initially : Bool} {on off : String}
    (initial : s.initial = .toggle initially) (markup : s.markup = Catalog.choice on off) :
    s.Plain := by
  apply plain_of_toggle initial
  intro state
  exact ⟨if state then on else off, by rw [markup]; rfl⟩

theorem plain_of_braced {initially key : String} (initial : s.initial = .text initially)
    (markup : s.markup = Catalog.braced key) : s.Plain := by
  apply plain_of_text initial
  intro content
  exact ⟨_, by rw [markup]; rfl⟩

theorem plain_of_verbatim {initially key : String} (initial : s.initial = .text initially)
    (markup : s.markup = Catalog.verbatim key) : s.Plain := by
  apply plain_of_text initial
  intro content
  exact ⟨_, by rw [markup]; rfl⟩

theorem plain_of_centimetres {initially : Float} {key : String}
    (initial : s.initial = .number initially) (markup : s.markup = Catalog.centimetres key) :
    s.Plain := by
  apply plain_of_number initial
  intro x
  exact ⟨_, by rw [markup]; rfl⟩

end Setting

namespace Catalog

open Setting (plain_of_choice plain_of_braced plain_of_verbatim plain_of_centimetres)

theorem plain_gridSize : gridSize.Plain := by
  apply Setting.plain_of_number rfl
  intro x
  exact ⟨_, rfl⟩

theorem plain_standardSettings : ∀ s ∈ standardSettings.dropLast, s.Plain := by
  simp only [standardSettings, List.dropLast_cons_cons, List.dropLast_singleton,
    List.forall_mem_cons]
  exact ⟨plain_of_choice rfl rfl, plain_of_choice rfl rfl, plain_of_braced rfl rfl,
    plain_of_centimetres rfl rfl, plain_of_centimetres rfl rfl, plain_of_choice rfl rfl,
    plain_of_braced rfl rfl, plain_of_braced rfl rfl, plain_of_choice rfl rfl,
    plain_of_choice rfl rfl, plain_of_choice rfl rfl, plain_of_choice rfl rfl, plain_gridSize,
    plain_of_verbatim rfl rfl, plain_of_verbatim rfl rfl, plain_of_verbatim rfl rfl,
    plain_of_verbatim rfl rfl, plain_of_choice rfl rfl, List.forall_mem_nil _⟩

theorem plain_standard {s : Setting} (member : s ∈ standard.settings) (other : s.id ≠ curvesId) :
    s.Plain := by
  have split : standardSettings = standardSettings.dropLast ++ [curves] := rfl
  rw [standard_settings, split, List.mem_append, List.mem_singleton] at member
  rcases member with plain | rfl
  · exact plain_standardSettings s plain
  · exact absurd rfl other

theorem curves_mem_standard : curves ∈ standard.settings := by
  rw [standard_settings]
  simp [standardSettings]

end Catalog

end PlotMarkup
