import PlotMarkup.Proofs.Diagnostic.Reading
import PlotMarkup.Proofs.Store.Report

namespace PlotMarkup

open Setting (Value)

namespace Store

variable {s : Setting} {value : Value}

theorem issue_cases {issue : Diagnostic} (reported : issue ∈ (emit s value).issues) :
    issue = s.mismatch value ∨
      ∃ original ∈ Fragment.issuesOf (s.markup value), issue = original.inSetting s.id := by
  unfold emit Setting.render at reported
  cases variant : value.sameVariant s.initial with
  | false =>
      rw [variant] at reported
      exact .inl (List.mem_singleton.mp reported)
  | true =>
      rw [variant, if_pos rfl] at reported
      right
      cases made : s.markup value with
      | error original =>
          rw [made] at reported
          exact ⟨original, List.mem_singleton_self _, List.mem_singleton.mp reported⟩
      | ok fragment =>
          rw [made] at reported
          obtain ⟨original, member, rfl⟩ := List.mem_map.mp reported
          exact ⟨original, member, rfl⟩

theorem addressable_document {store : Store}
    (markup : ∀ entry ∈ store.emitted, ∀ issue ∈ Fragment.issuesOf (entry.1.markup entry.2),
      issue.Addressable) : ∀ issue ∈ store.document.issues, issue.Addressable := by
  intro issue reported
  obtain ⟨fragment, made, reported⟩ := List.mem_flatMap.mp reported
  obtain ⟨entry, shown, rfl⟩ := List.mem_map.mp made
  rcases issue_cases reported with rfl | ⟨original, member, rfl⟩
  · exact (Diagnostic.Built.ofMessage _ _).addressable.inSetting entry.1.id
  · exact (markup entry shown original member).inSetting entry.1.id

theorem addressable_actAll {actions : List Action}
    (short : ((ofCatalog Catalog.standard).actAll actions).curves.length ≤ 2 ^ 64) :
    ∀ issue ∈ ((ofCatalog Catalog.standard).actAll actions).document.issues,
      issue.Addressable := by
  rw [actAll_eq_afterAll] at short ⊢
  intro issue reported
  obtain ⟨c, account, index, original, -, -, bound, rfl⟩ :=
    exists_account (issues_standard _) reported
  exact (Diagnostic.addressable_inFunction original (by omega)).inSetting Catalog.curvesId

theorem diagnostics_come_back :
    (∀ d : Diagnostic, d.Addressable → d.ComesBack) ∧
    (∀ d : Diagnostic, d.Built → d.ComesBack) ∧
    (∀ store : Store,
      (∀ entry ∈ store.emitted, ∀ issue ∈ Fragment.issuesOf (entry.1.markup entry.2),
        issue.Addressable) →
      ∀ issue ∈ store.document.issues, issue.ComesBack) ∧
    (∀ actions : List Action,
      ((ofCatalog Catalog.standard).actAll actions).curves.length ≤ 2 ^ 64 →
      ∀ issue ∈ ((ofCatalog Catalog.standard).actAll actions).document.issues,
        issue.ComesBack) := by
  refine ⟨fun d addressable => addressable.comesBack, fun d built => built.addressable.comesBack,
    ?_, ?_⟩
  · intro store markup issue reported
    exact (addressable_document markup issue reported).comesBack
  · intro actions short issue reported
    exact (addressable_actAll short issue reported).comesBack

theorem diagnostics_come_back_bare :
    let bare : Diagnostic := .ofMessage .internal "\"\x01\\ αβ 𝄞"
    let placed : Diagnostic := { bare with context := some .empty }
    let last : Diagnostic := (bare.inFunction (2 ^ 64 - 1)).withNote ""
    let failing := Setting.ofToggle "note" true fun _ => .error bare
    let custom := ofCatalog (Catalog.empty.register failing)
    let actions : List Action := [.command (.setCurves [.ofExpression "("])]
    let session := (ofCatalog Catalog.standard).actAll actions
    bare ≠ placed ∧ bare.ComesBack ∧ placed.ComesBack ∧ last.ComesBack ∧
      custom.document.issues ≠ [] ∧ (∀ issue ∈ custom.document.issues, issue.ComesBack) ∧
      session.document.issues ≠ [] ∧ ∀ issue ∈ session.document.issues, issue.ComesBack := by
  intro bare placed last failing custom actions session
  have built : last.Built := ((Diagnostic.Built.ofMessage _ _).inFunction (by decide)).withNote ""
  have markup : ∀ entry ∈ custom.emitted, ∀ issue ∈ Fragment.issuesOf (entry.1.markup entry.2),
      issue.Addressable := by
    decide +kernel
  exact ⟨by decide, diagnostics_come_back.1 bare (by decide),
    diagnostics_come_back.1 placed (by decide), diagnostics_come_back.2.1 last built,
    by decide +kernel, diagnostics_come_back.2.2.1 custom markup,
    by decide +kernel, diagnostics_come_back.2.2.2 actions (by decide +kernel)⟩

end Store

end PlotMarkup
