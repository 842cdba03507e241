import PlotMarkup.Proofs.Catalog.Rendering
import PlotMarkup.Proofs.Curve.Account
import PlotMarkup.Proofs.Store.Assembly
import PlotMarkup.Proofs.Store.Session

namespace PlotMarkup

open Setting (Value)

namespace Catalog

theorem latest_curves (history : List Command) :
    ∃ list, latest curves history = .curves list :=
  Setting.Value.sameVariant_curves.mp (curves.fits_latest history).variant

theorem curves_mem_shown (history : List Command) :
    (curves, latest curves history) ∈ standard.shown history := by
  have inline : (curves, latest curves history) ∈ standard.inlinesAfter history := by
    refine List.mem_map.mpr ⟨curves, ?_, rfl⟩
    rw [List.mem_filter]
    exact ⟨curves_mem_standard, rfl⟩
  exact List.mem_append_left _ (List.mem_append_right _ inline)

theorem markup_of_other {history : List Command} {entry : Setting × Value}
    (member : entry ∈ standard.shown history) (other : entry.1.id ≠ curvesId) :
    ∃ text, entry.1.markup entry.2 = .ok (.ofText text) := by
  obtain ⟨known, value⟩ := mem_shown member
  apply plain_standard known other
  rw [value]
  exact (entry.1.fits_latest history).variant

theorem issues_of_others {history : List Command} {entries : List (Setting × Value)}
    (shown : entries ⊆ standard.shown history)
    (absent : curvesId ∉ entries.map fun entry => entry.1.id) :
    (entries.flatMap fun entry => (entry.1.contribution entry.2).issues) = [] := by
  rw [List.flatMap_eq_nil_iff]
  intro entry member
  have other : entry.1.id ≠ curvesId := fun same => absent (List.mem_map.mpr ⟨entry, member, same⟩)
  obtain ⟨text, made⟩ := markup_of_other (shown member) other
  rw [Setting.contribution, made]
  rfl

theorem issues_shown (history : List Command) :
    ((standard.shown history).flatMap fun entry => (entry.1.contribution entry.2).issues) =
      (curves.contribution (latest curves history)).issues := by
  obtain ⟨before, after, here⟩ := List.append_of_mem (curves_mem_shown history)
  have once := standard.nodup_shown history
  rw [here, List.map_append, List.map_cons, List.nodup_append, List.nodup_cons] at once
  obtain ⟨-, ⟨notAfter, -⟩, apart⟩ := once
  have notBefore : curvesId ∉ before.map fun entry => entry.1.id :=
    fun earlier => apart curvesId earlier _ List.mem_cons_self rfl
  have first : before ⊆ standard.shown history := by
    rw [here]
    exact List.subset_append_left _ _
  have last : after ⊆ standard.shown history := by
    rw [here]
    exact fun entry member => List.mem_append_right _ (List.mem_cons_of_mem _ member)
  rw [here, List.flatMap_append, List.flatMap_cons, issues_of_others first notBefore,
    issues_of_others last notAfter, List.append_nil, List.nil_append]

end Catalog

namespace Store

theorem curves_afterAll {history : List Command} {list : List Curve}
    (value : latest Catalog.curves history = .curves list) :
    ((ofCatalog Catalog.standard).afterAll history).curves = list := by
  have found := lookup?_afterAll history Catalog.curves_mem_standard
  have same : Catalog.curves.id = Catalog.curvesId := rfl
  rw [Store.curves, ← same, found, value]
  rfl

theorem issues_standard (history : List Command) :
    ((ofCatalog Catalog.standard).afterAll history).document.issues =
      (Curve.fragment ((ofCatalog Catalog.standard).afterAll history).curves).issues.map
        (·.inSetting Catalog.curvesId) := by
  obtain ⟨list, value⟩ := Catalog.latest_curves history
  rw [(assembled_afterAll Catalog.standard history).issues, Catalog.issues_shown,
    curves_afterAll value, value]
  rfl

structure Accounted (store : Store) : Prop where
  issues : ∃ accounts : List (List Diagnostic), List.Forall₂ Curve.Account store.curves accounts ∧
    store.document.issues = accounts.zipIdx.flatMap fun (issues, index) =>
      issues.map fun issue => (issue.inFunction index).inSetting Catalog.curvesId
  located : ∀ issue ∈ store.document.issues,
    issue.context.bind (·.setting) = some Catalog.curvesId ∧
      ∃ index < store.curves.length, issue.context.bind (·.function) = some index
  noMismatch : ∀ issue ∈ store.document.issues, issue.kind ≠ .typeMismatch
  others : ∀ entry ∈ store.emitted, entry.1.id ≠ Catalog.curvesId →
    ∃ text, entry.1.render entry.2 = .ok (.ofText text)
  curves : (Catalog.curves, .curves store.curves) ∈ store.emitted ∧
    Catalog.curves.render (.curves store.curves) = .ok (Curve.fragment store.curves)
  clean : store.document.issues = [] ↔ ∀ c ∈ store.curves, c.Complete

variable {store : Store}

theorem accounts_of_issues
    (same : store.document.issues =
      (Curve.fragment store.curves).issues.map (·.inSetting Catalog.curvesId)) :
    ∃ accounts : List (List Diagnostic), List.Forall₂ Curve.Account store.curves accounts ∧
      store.document.issues = accounts.zipIdx.flatMap fun (issues, index) =>
        issues.map fun issue => (issue.inFunction index).inSetting Catalog.curvesId := by
  obtain ⟨accounts, matching, issues⟩ := Curve.issues_of_accounts store.curves
  refine ⟨accounts, matching, ?_⟩
  rw [same, issues, List.map_flatMap]
  simp only [List.map_map]
  rfl

theorem exists_account {issue : Diagnostic}
    (same : store.document.issues =
      (Curve.fragment store.curves).issues.map (·.inSetting Catalog.curvesId))
    (reported : issue ∈ store.document.issues) :
    ∃ (c : Curve) (account : List Diagnostic) (index : Nat) (original : Diagnostic),
      c.Account account ∧ original ∈ account ∧ index < store.curves.length ∧
        issue = (original.inFunction index).inSetting Catalog.curvesId := by
  obtain ⟨accounts, matching, issues⟩ := accounts_of_issues same
  rw [issues] at reported
  obtain ⟨⟨account, index⟩, counted, reported⟩ := List.mem_flatMap.mp reported
  obtain ⟨original, member, rfl⟩ := List.mem_map.mp reported
  obtain ⟨inside, here⟩ := List.mem_zipIdx' counted
  have bound : index < store.curves.length := by
    rw [matching.length_eq]
    exact inside
  have accounted := matching.get bound inside
  rw [List.get_eq_getElem, List.get_eq_getElem, ← here] at accounted
  exact ⟨_, account, index, original, accounted, member, bound, rfl⟩

theorem accounted_afterAll (history : List Command) :
    Accounted ((ofCatalog Catalog.standard).afterAll history) where
  issues := accounts_of_issues (issues_standard history)
  located := by
    intro issue reported
    obtain ⟨c, account, index, original, -, -, bound, rfl⟩ :=
      exists_account (issues_standard history) reported
    exact ⟨rfl, index, bound, rfl⟩
  noMismatch := by
    intro issue reported
    obtain ⟨c, account, index, original, accounted, member, -, rfl⟩ :=
      exists_account (issues_standard history) reported
    exact accounted.kind_ne_typeMismatch original member
  others := by
    intro entry member other
    rw [emitted_afterAll] at member
    obtain ⟨text, made⟩ := Catalog.markup_of_other member other
    have fits := entry.1.fits_latest history
    rw [← (Catalog.mem_shown member).2] at fits
    exact ⟨text, by rw [Setting.render, if_pos fits.variant, made]; rfl⟩
  curves := by
    obtain ⟨list, value⟩ := Catalog.latest_curves history
    rw [curves_afterAll value, emitted_afterAll, ← value]
    refine ⟨Catalog.curves_mem_shown history, ?_⟩
    rw [value]
    rfl
  clean := by
    rw [issues_standard, List.map_eq_nil_iff, Curve.issues_fragment, Curve.issuesFrom_eq_nil]

theorem accounted_actAll (actions : List Action) :
    Accounted ((ofCatalog Catalog.standard).actAll actions) := by
  rw [actAll_eq_afterAll]
  exact accounted_afterAll _

end Store

end PlotMarkup
