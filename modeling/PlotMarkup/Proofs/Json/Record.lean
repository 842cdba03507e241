import PlotMarkup.Json.Record
import PlotMarkup.Proofs.Json.Finite
import PlotMarkup.Proofs.Json.Reading

namespace PlotMarkup.Json

open Number (Numeral digitsValue_toDigits)

theorem Significand.extended?_eq (s : Significand) (digit : Char) :
    s.extended? digit =
      if s.value * 10 + (digit.toNat - '0'.toNat) < 2 ^ 64 then
        some (s.value * 10 + (digit.toNat - '0'.toNat))
      else none := by
  unfold extended?
  rw [Nat.pow_eq]

theorem Significand.addWhole_of_lt {start : Nat} {digits : List Char}
    (short : Nat.ofDigitChars 10 digits start < 2 ^ 64) :
    Significand.addWhole ⟨start, 0⟩ digits = ⟨Nat.ofDigitChars 10 digits start, 0⟩ := by
  induction digits generalizing start with
  | nil => rfl
  | cons digit rest step =>
      rw [Nat.ofDigitChars_cons, Nat.mul_comm 10 start] at short ⊢
      rw [Significand.addWhole_cons, Significand.extended?_eq]
      generalize start * 10 + (digit.toNat - '0'.toNat) = next at short ⊢
      have grows : next ≤ Nat.ofDigitChars 10 rest next := by
        rw [Nat.ofDigitChars_eq_ofDigitChars_zero]
        exact Nat.le_add_right_of_le (Nat.le_mul_of_pos_left next (Nat.pow_pos (by decide)))
      rw [if_pos (Nat.lt_of_le_of_lt grows short)]
      exact step short

theorem rereadInteger_natCast {n : Nat} (short : n < 2 ^ 64) : rereadInteger n = .integer n := by
  have value : Nat.ofDigitChars 10 (Nat.toDigits 10 n) 0 = n := digitsValue_toDigits n
  have kept : Significand.addWhole ⟨0, 0⟩ (Nat.toDigits 10 n) = ⟨n, 0⟩ := by
    rw [Significand.addWhole_of_lt (by rwa [value]), value]
  have sign : decide ((n : Int) < 0) = false := by simp
  rw [rereadInteger_eq, Int.natAbs_natCast, sign]
  unfold numeralValue
  dsimp only [wholeNumeral, Numeral.power]
  rw [kept]
  rfl

theorem field?_of_mem {fields : List (String × Json)} (distinct : (fields.map Prod.fst).Nodup)
    {name : String} {value : Json} (member : (name, value) ∈ fields) :
    field? fields name = some (some value) := by
  have only : fields.filter (·.1 == name) = [(name, value)] := by
    induction fields with
    | nil => cases member
    | cons head rest step =>
        obtain ⟨absent, distinct⟩ := List.nodup_cons.mp distinct
        rcases List.mem_cons.mp member with rfl | member
        · rw [List.filter_cons_of_pos (by simp), List.filter_eq_nil_iff.mpr]
          intro field inside same
          exact absent (List.mem_map.mpr ⟨field, inside, beq_iff_eq.mp same⟩)
        · rw [List.filter_cons_of_neg, step distinct member]
          intro same
          exact absent (List.mem_map.mpr ⟨_, member, (beq_iff_eq.mp same).symm⟩)
  unfold field?
  rw [only]

theorem record?_object {fields : List (String × Json)} {names : List String}
    (distinct : names.Nodup) (same : fields.map Prod.fst = names) (least : Nat) :
    record? names least (.object fields) = some (fields.map (some ·.2)) := by
  subst same
  unfold record?
  dsimp only
  rw [List.mapM_map]
  exact mapM_eq_some fun field member => field?_of_mem distinct member

theorem field?_perm {fields fields' : List (String × Json)} (same : fields.Perm fields')
    (name : String) : field? fields name = field? fields' name := by
  have kept := same.filter fun field => field.1 == name
  unfold field?
  generalize fields.filter (fun field => field.1 == name) = list at kept
  generalize fields'.filter (fun field => field.1 == name) = list' at kept
  match list, list', kept with
  | [], [], _ => rfl
  | [], _ :: _, kept => exact absurd kept.length_eq (by simp)
  | [field], list', kept => rw [List.singleton_perm.mp kept]
  | _ :: _ :: _, [], kept => exact absurd kept.length_eq (by simp)
  | _ :: _ :: _, [_], kept => exact absurd kept.length_eq (by simp)
  | _ :: _ :: _, _ :: _ :: _, _ => rfl

theorem record?_perm {fields fields' : List (String × Json)} (same : fields.Perm fields')
    (names : List String) (least : Nat) :
    record? names least (.object fields) = record? names least (.object fields') := by
  unfold record?
  dsimp only
  rw [funext fun name => field?_perm same name]

def presentFields (fields : List (String × Option Json)) : List (String × Json) :=
  fields.filterMap fun (name, value?) => value?.map fun value => (name, value)

/-- An object with the fields of a record that are present, in some order. -/
def Spells (fields : List (String × Option Json)) (value : Json) : Prop :=
  ∃ parts, value = .object parts ∧ parts.Perm (presentFields fields)

variable {fields : List (String × Option Json)} {names : List String} {value : Json}

theorem spells_ofFields (fields : List (String × Option Json)) : Spells fields (ofFields fields) :=
  ⟨_, rfl, .refl _⟩

theorem mem_presentFields {name : String} : (name, value) ∈ presentFields fields ↔
    (name, some value) ∈ fields := by
  simp [presentFields, List.mem_filterMap]

theorem names_presentFields (fields : List (String × Option Json)) :
    ((presentFields fields).map Prod.fst).Sublist (fields.map Prod.fst) := by
  induction fields with
  | nil => exact .slnil
  | cons field rest step =>
      obtain ⟨name, value?⟩ := field
      cases value? with
      | none => exact step.cons name
      | some value => exact step.cons_cons name

theorem field?_presentFields (distinct : (fields.map Prod.fst).Nodup) {name : String}
    {value? : Option Json} (member : (name, value?) ∈ fields) :
    field? (presentFields fields) name = some value? := by
  cases value? with
  | some value =>
      exact field?_of_mem (distinct.sublist (names_presentFields fields))
        (mem_presentFields.mpr member)
  | none =>
      have absent : (presentFields fields).filter (·.1 == name) = [] := by
        rw [List.filter_eq_nil_iff]
        rintro ⟨other, value⟩ there
        have present := mem_presentFields.mp there
        rw [beq_iff_eq]
        rintro rfl
        -- The name would stand for a field that is absent and for one that is present.
        cases List.inj_on_of_nodup_map distinct member present rfl
      rw [field?, absent]

theorem Spells.record? (spells : Spells fields value) (distinct : names.Nodup)
    (same : fields.map Prod.fst = names) (least : Nat) :
    record? names least value = some (fields.map Prod.snd) := by
  obtain ⟨parts, rfl, order⟩ := spells
  subst same
  rw [record?_perm order]
  unfold Json.record?
  dsimp only
  rw [List.mapM_map]
  exact mapM_eq_some fun field member => field?_presentFields distinct member

theorem Spells.reread (spells : Spells fields value)
    (kept : ∀ field ∈ fields, ∀ part ∈ field.2, part.reread = part) : value.reread = value := by
  obtain ⟨parts, rfl, order⟩ := spells
  rw [Json.reread, rereadFields_eq_map]
  congr 1
  apply (List.map_congr_left fun part member => ?_).trans (List.map_id _)
  have there := mem_presentFields.mp (order.subset member)
  exact Prod.ext rfl (kept _ there part.2 rfl)

end PlotMarkup.Json
