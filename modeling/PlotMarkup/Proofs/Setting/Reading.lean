import PlotMarkup.Setting.Value
import PlotMarkup.Proofs.Json.Record

namespace PlotMarkup

namespace Json

def ReadsBack (x : Float) : Prop :=
  read? (Json.real x).compact = some (.real x)

theorem readsBack_iff {x : Float} : ReadsBack x ↔ rereadReal x = .real x := by
  unfold ReadsBack compact
  rw [read?_write blank_compact, reread, Option.some.injEq]

theorem readsBack_iff_number? {x : Float} : ReadsBack x ↔ (rereadReal x).number? = some x := by
  rw [readsBack_iff]
  cases finite : x.isFinite with
  | false => simp [rereadReal_of_not_finite finite, number?]
  | true => rcases rereadReal_cases finite with ⟨y, same⟩ | same <;> simp [same, number?]

instance (x : Float) : Decidable (ReadsBack x) :=
  decidable_of_iff _ readsBack_iff_number?.symm

-- The reader rounds twice where the digits and the power of ten are both inexact.
example : ReadsBack 0.1 ∧ ¬ReadsBack 6e30 := by decide +kernel

end Json

namespace Curve

theorem reread_toJson (c : Curve) : c.toJson.reread = c.toJson := by
  simp [toJson, Json.reread, Json.rereadFields]

theorem isComplete_toJson (c : Curve) : c.toJson.isComplete = true := by
  simp [toJson, Json.isComplete, Json.fieldsComplete]

theorem nesting_toJson (c : Curve) : c.toJson.nesting = 1 := by
  simp [toJson, Json.nesting, Json.fieldsNesting]

theorem ofJson?_toJson (c : Curve) : ofJson? c.toJson = some c := by
  have distinct : fieldNames.Nodup := by decide
  have fields : Json.record? fieldNames 0 c.toJson = some _ := Json.record?_object distinct rfl 0
  unfold ofJson?
  rw [fields]
  rfl

theorem rereadItems_toJson (curves : List Curve) :
    Json.rereadItems (curves.map toJson) = curves.map toJson := by
  rw [Json.rereadItems_eq_map, List.map_map]
  exact List.map_congr_left fun c _ => c.reread_toJson

theorem mapM_ofJson? (curves : List Curve) :
    (curves.map toJson).mapM ofJson? = some curves := by
  rw [List.mapM_map]
  exact (mapM_eq_some (g := id) fun c _ => c.ofJson?_toJson).trans (by rw [List.map_id])

theorem itemsComplete_toJson (curves : List Curve) :
    Json.itemsComplete (curves.map toJson) = true := by
  induction curves with
  | nil => rfl
  | cons c curves step => rw [List.map_cons, Json.itemsComplete, c.isComplete_toJson, step]; rfl

theorem itemsNesting_toJson (curves : List Curve) :
    Json.itemsNesting (curves.map toJson) ≤ 1 := by
  induction curves with
  | nil => exact Nat.zero_le 1
  | cons c curves step =>
      rw [List.map_cons, Json.itemsNesting, c.nesting_toJson]
      exact Nat.max_le.mpr ⟨Nat.le_refl 1, step⟩

end Curve

namespace Setting.Value

theorem ofJson?_reread {value : Value} (faithful : ∀ x ∈ value.number?, Json.ReadsBack x) :
    ofJson? value.toJson.reread = some value := by
  cases value with
  | toggle on =>
      rw [toJson, Json.reread]
      rfl
  | number x =>
      rw [toJson, Json.reread, Json.readsBack_iff.mp (faithful x rfl)]
      rfl
  | text content =>
      rw [toJson, Json.reread]
      rfl
  | curves list =>
      rw [toJson, Json.reread, Curve.rereadItems_toJson]
      unfold ofJson?
      rw [if_pos (by rw [Json.isComplete]; exact Curve.itemsComplete_toJson list)]
      dsimp only
      rw [Curve.mapM_ofJson?, Option.map_some]

theorem ofJson?_reread_of_not_finite {value : Value} {x : Float} (held : value.number? = some x)
    (infinite : x.isFinite = false) : ofJson? value.toJson.reread = none := by
  cases value with
  | number y =>
      cases held
      rw [toJson, Json.reread, Json.rereadReal_of_not_finite infinite]
      rfl
  | toggle on => cases held
  | text content => cases held
  | curves list => cases held

theorem nesting_reread (value : Value) : value.toJson.reread.nesting ≤ 2 := by
  cases value with
  | toggle on => simp [toJson, Json.reread, Json.nesting]
  | number x =>
      rw [toJson, Json.reread]
      cases finite : x.isFinite with
      | false => simp [Json.rereadReal_of_not_finite finite, Json.nesting]
      | true => rcases Json.rereadReal_cases finite with ⟨y, same⟩ | same <;> simp [same, Json.nesting]
  | text content => simp [toJson, Json.reread, Json.nesting]
  | curves list =>
      rw [toJson, Json.reread, Curve.rereadItems_toJson, Json.nesting]
      exact Nat.succ_le_succ (Curve.itemsNesting_toJson list)

end Setting.Value

end PlotMarkup
