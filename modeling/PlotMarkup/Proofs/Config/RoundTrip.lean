import PlotMarkup.Config
import PlotMarkup.Proofs.Setting.Reading
import PlotMarkup.Proofs.Json.Finite

namespace PlotMarkup

namespace SortedMap

variable {α : Type}

theorem insertEntry_append {key : String} {value : α} {entries : List (String × α)}
    (above : ∀ entry ∈ entries, entry.1 < key) :
    insertEntry key value entries = entries ++ [(key, value)] := by
  induction entries with
  | nil => rfl
  | cons head rest step =>
      obtain ⟨below, above⟩ := List.forall_mem_cons.mp above
      rw [insertEntry, if_neg (String.lt_asymm below), if_neg (String.ne_of_lt below).symm,
        step above]
      rfl

theorem entries_foldl_insert (map : SortedMap α) (entries : List (String × α))
    (sorted : Increasing (map.entries ++ entries)) :
    (entries.foldl (fun map entry => map.insert entry.1 entry.2) map).entries =
      map.entries ++ entries := by
  induction entries generalizing map with
  | nil => exact (List.append_nil _).symm
  | cons entry rest step =>
      have above : ∀ other ∈ map.entries, other.1 < entry.1 := fun other member =>
        (List.pairwise_append.mp sorted).2.2 other member entry List.mem_cons_self
      have inserted : (map.insert entry.1 entry.2).entries = map.entries ++ [entry] :=
        insertEntry_append above
      rw [List.foldl_cons, step _ (by rwa [inserted, List.append_assoc]), inserted,
        List.append_assoc]
      rfl

theorem ofList_entries (map : SortedMap α) : ofList map.entries = map := by
  have same : (ofList map.entries).entries = map.entries :=
    entries_foldl_insert empty map.entries map.increasing
  cases map
  cases read : ofList _
  rw [read] at same
  cases same
  rfl

theorem mem_ofList {entries : List (String × α)} {entry : String × α}
    (member : entry ∈ (ofList entries).entries) : entry ∈ entries := by
  have origin (map : SortedMap α) (entries : List (String × α)) (entry : String × α)
      (member : entry ∈
        (entries.foldl (fun map entry => map.insert entry.1 entry.2) map).entries) :
      entry ∈ map.entries ∨ entry ∈ entries := by
    induction entries generalizing map with
    | nil => exact .inl member
    | cons head rest step =>
        rcases step _ member with inserted | later
        · rcases mem_insertEntry inserted with rfl | kept
          · exact .inr List.mem_cons_self
          · exact .inl kept
        · exact .inr (List.mem_cons_of_mem head later)
  rcases origin empty entries entry member with none | inside
  · cases none
  · exact inside

end SortedMap

namespace Config

open Setting (Value)

def numbers (config : Config) : List Float :=
  config.settings.entries.filterMap (·.2.number?)

theorem mem_numbers {config : Config} {x : Float} :
    x ∈ config.numbers ↔ ∃ entry ∈ config.settings.entries, entry.2.number? = some x :=
  List.mem_filterMap

/-- All finite numbers of a configuration are read back from their own texts. -/
def Faithful (config : Config) : Prop :=
  ∀ x ∈ config.numbers, x.isFinite = true → Json.ReadsBack x

instance (config : Config) : Decidable config.Faithful :=
  inferInstanceAs (Decidable (∀ x ∈ config.numbers, x.isFinite = true → Json.ReadsBack x))

def rereadEntry? (entry : String × Value) : Option (String × Value) :=
  (Value.ofJson? entry.2.toJson.reread).map fun value => (entry.1, value)

theorem valueOfJson?_reread (value : Value) :
    valueOfJson? value.toJson.reread = Value.ofJson? value.toJson.reread :=
  if_pos (value.nesting_reread.trans (by decide))

theorem ofJson?_reread (config : Config) :
    ofJson? config.toJson.reread =
      (config.settings.entries.mapM rereadEntry?).map fun entries =>
        ⟨SortedMap.ofList entries, config.curves⟩ := by
  have distinct : ["settings", "functions"].Nodup := by decide
  obtain ⟨settings, whole, read⟩ : ∃ settings,
      config.toJson.reread = .object
        [("settings", settings), ("functions", .array (config.curves.map Curve.toJson))] ∧
      settingsOfJson? settings =
        (config.settings.entries.mapM rereadEntry?).map SortedMap.ofList := by
    simp only [toJson, Json.reread, Json.rereadFields, Curve.rereadItems_toJson]
    refine ⟨_, rfl, ?_⟩
    unfold settingsOfJson?
    rw [Json.rereadFields_eq_map, List.map_map]
    dsimp only
    rw [List.mapM_map]
    show (config.settings.entries.mapM fun entry =>
      (valueOfJson? entry.2.toJson.reread).map fun value => (entry.1, value)).bind _ = _
    simp only [valueOfJson?_reread]
    show (config.settings.entries.mapM rereadEntry?).bind _ = _
    cases config.settings.entries.mapM rereadEntry? <;> rfl
  have curves : Curve.listOfJson? (.array (config.curves.map Curve.toJson)) =
      some config.curves := Curve.mapM_ofJson? config.curves
  unfold ofJson?
  rw [whole, Json.record?_object distinct rfl]
  show (settingsOfJson? settings).bind _ = _
  rw [read]
  cases config.settings.entries.mapM rereadEntry? with
  | none => rfl
  | some entries =>
      show (Curve.listOfJson? _).bind _ = _
      rw [curves]
      rfl

theorem ofText_text_eq (config : Config) :
    ofText config.text =
      match ofJson? config.toJson.reread with
      | none => .error (.invalidConfig "not a map of settings and a list of functions")
      | some config => .ok config := by
  have document := Json.read?_write Json.blank_pretty config.toJson
  cases read : ofJson? config.toJson.reread <;>
    simp only [ofText, text, Json.pretty, document, read]

theorem ofText_text_of_finite {config : Config} (faithful : config.Faithful)
    (finite : ∀ x ∈ config.numbers, x.isFinite = true) : ofText config.text = .ok config := by
  have each : ∀ entry ∈ config.settings.entries, rereadEntry? entry = some (id entry) := by
    intro entry member
    have readsBack : ∀ x ∈ entry.2.number?, Json.ReadsBack x := by
      intro x held
      have inside := mem_numbers.mpr ⟨entry, member, held⟩
      exact faithful x inside (finite x inside)
    unfold rereadEntry?
    rw [Value.ofJson?_reread readsBack]
    rfl
  rw [ofText_text_eq, ofJson?_reread, mapM_eq_some each, List.map_id, Option.map_some,
    SortedMap.ofList_entries]

theorem ofText_text_of_not_finite {config : Config} {x : Float} (member : x ∈ config.numbers)
    (infinite : x.isFinite = false) :
    ∃ issue, ofText config.text = .error issue ∧ issue.kind = .invalidConfig := by
  obtain ⟨entry, inside, held⟩ := mem_numbers.mp member
  have unread : rereadEntry? entry = none := by
    unfold rereadEntry?
    rw [Value.ofJson?_reread_of_not_finite held infinite]
    rfl
  refine ⟨.invalidConfig "not a map of settings and a list of functions", ?_, rfl⟩
  rw [ofText_text_eq, ofJson?_reread, mapM_eq_none inside unread]
  rfl

theorem isFinite_of_value {json : Json} {value : Value} {x : Float} (all : json.Finite)
    (read : Value.ofJson? json = some value) (held : value.number? = some x) :
    x.isFinite = true := by
  unfold Value.ofJson? at read
  split at read
  · split at read
    · cases read
      cases held
    · cases read
      cases held
    · obtain ⟨list, -, rfl⟩ := Option.map_eq_some_iff.mp read
      cases held
    · obtain ⟨y, number, rfl⟩ := Option.map_eq_some_iff.mp read
      cases held
      exact all.number? number
  · cases read

theorem ofJson?_of_valueOfJson? {json : Json} {value : Value}
    (read : valueOfJson? json = some value) : Value.ofJson? json = some value := by
  unfold valueOfJson? at read
  split at read
  · exact read
  · cases read

theorem isFinite_of_settings {json : Json} {settings : SortedMap Value} (all : json.Finite)
    (read : settingsOfJson? json = some settings) {entry : String × Value}
    (member : entry ∈ settings.entries) {x : Float} (held : entry.2.number? = some x) :
    x.isFinite = true := by
  unfold settingsOfJson? at read
  split at read
  · cases all with
    | object all =>
        obtain ⟨entries, parts, same⟩ := Option.bind_eq_some_iff.mp read
        cases same
        obtain ⟨field, inside, part⟩ := mem_of_mapM parts (SortedMap.mem_ofList member)
        obtain ⟨value, valueRead, rfl⟩ := Option.map_eq_some_iff.mp part
        exact isFinite_of_value (all field inside) (ofJson?_of_valueOfJson? valueRead) held
  · cases read

theorem isFinite_of_ofText {text : String} {config : Config} (read : ofText text = .ok config) :
    ∀ x ∈ config.numbers, x.isFinite = true := by
  intro x member
  obtain ⟨entry, inside, held⟩ := mem_numbers.mp member
  unfold ofText at read
  split at read
  · cases read
  · rename_i json document
    split at read
    · cases read
    · rename_i config' parsed
      cases read
      obtain ⟨parts, fields, parsed⟩ := Option.bind_eq_some_iff.mp parsed
      split at parsed
      · rename_i settings curves
        obtain ⟨map, settingsRead, parsed⟩ := Option.bind_eq_some_iff.mp parsed
        obtain ⟨list, -, parsed⟩ := Option.bind_eq_some_iff.mp parsed
        cases parsed
        cases settings with
        | none =>
            cases settingsRead
            cases inside
        | some settings =>
            have all := Json.finite_record? (Json.finite_of_read? document) fields
              List.mem_cons_self rfl
            exact isFinite_of_settings all settingsRead inside held
      · cases parsed

/--
A configuration whose finite numbers have texts that are read back as themselves is read back from
its own text as it is; so is every such configuration that was read from any text.  With a number
that is not finite its text is refused, whatever else the configuration holds.
-/
theorem ofText_text (config : Config) :
    (config.Faithful → (∀ x ∈ config.numbers, x.isFinite = true) →
      ofText config.text = .ok config) ∧
    (config.Faithful → ∀ text, ofText text = .ok config → ofText config.text = .ok config) ∧
    ((∃ x ∈ config.numbers, x.isFinite = false) →
      ∃ issue, ofText config.text = .error issue ∧ issue.kind = .invalidConfig) := by
  refine ⟨ofText_text_of_finite, fun faithful text read => ?_, ?_⟩
  · exact ofText_text_of_finite faithful (isFinite_of_ofText read)
  · rintro ⟨x, member, infinite⟩
    exact ofText_text_of_not_finite member infinite

theorem ofText_text_variants :
    let entries : List (String × Value) := [("grid", .toggle true), ("functions", .curves []),
      ("label", .text "5"), ("title \"\\\x01", .text "true"), ("step", .number 0.1),
      ("width", .number (-0.0))]
    let config : Config := ⟨SortedMap.ofList entries, [.ofExpression "x^2"]⟩
    let unbounded : Config := ⟨SortedMap.ofList (("scale", .number (1 / 0)) :: entries), []⟩
    ofText config.text = .ok config ∧
    (∃ text, ofText text = .ok config) ∧
    ∃ issue, ofText unbounded.text = .error issue ∧ issue.kind = .invalidConfig := by
  intro entries config unbounded
  have faithful : config.Faithful := by decide +kernel
  have finite : ∀ x ∈ config.numbers, x.isFinite = true := by decide +kernel
  have infinite : ∃ x ∈ unbounded.numbers, x.isFinite = false := by decide +kernel
  have read := (ofText_text config).1 faithful finite
  exact ⟨(ofText_text config).2.1 faithful config.text read, ⟨config.text, read⟩,
    (ofText_text unbounded).2.2 infinite⟩

end Config

end PlotMarkup
