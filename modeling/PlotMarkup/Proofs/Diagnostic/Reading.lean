import PlotMarkup.Diagnostic.Json
import PlotMarkup.Proofs.Json.Record

namespace PlotMarkup.Diagnostic

open Json (Layout Spells orDefault? nullable?)

theorem Kind.ofCode?_code (kind : Kind) : ofCode? kind.code = some kind := by
  cases kind <;> decide

theorem Severity.ofName?_name (severity : Severity) : ofName? severity.name = some severity := by
  cases severity <;> decide

theorem orDefault?_text (text : Option String) :
    orDefault? none (nullable? Json.text?) (text.map .text) = some text := by
  cases text <;> rfl

theorem orDefault?_index (index : Option Nat) :
    orDefault? none (nullable? Json.index?) (index.map fun (index : Nat) => .integer index) =
      some index := by
  cases index with
  | none => rfl
  | some index => simp [orDefault?, nullable?, Json.index?]

theorem orDefault?_notes (notes : List String) :
    orDefault? [] (fun notes => notes.items?.bind fun items => items.mapM Json.text?)
      (if notes = [] then none else some (.array (notes.map .text))) = some notes := by
  split
  · rename_i none
    rw [none]
    rfl
  · show (notes.map Json.text).mapM Json.text? = some notes
    rw [List.mapM_map]
    exact (mapM_eq_some (g := id) fun note _ => rfl).trans (by rw [List.map_id])

def Context.fields (context : Context) : List (String × Option Json) := [
  ("setting", context.setting.map .text),
  ("function", context.function.map fun (index : Nat) => .integer index),
  ("expression", context.expression.map .text),
  ("notes", if context.notes = [] then none else some (.array (context.notes.map .text)))]

theorem Context.toJson_eq (context : Context) : context.toJson = .ofFields context.fields := by
  obtain ⟨setting, function, expression, notes⟩ := context
  cases function <;> rfl

variable {context : Context} {d : Diagnostic} {value : Json}

theorem Context.ofJson?_of_spells (spells : Spells context.fields value) :
    ofJson? value = some context := by
  have distinct : ["setting", "function", "expression", "notes"].Nodup := by decide
  unfold ofJson?
  rw [spells.record? distinct rfl]
  simp only [Context.fields, List.map_cons, List.map_nil, Option.bind_eq_bind, Option.bind_some,
    orDefault?_text, orDefault?_index, orDefault?_notes]
  rfl

/-- The index of the function, if there is one, fits in 64 bits. -/
def Context.Addressable (context : Context) : Prop :=
  ∀ index ∈ context.function, index < 2 ^ 64

theorem reread_text (text : Option String) : ∀ part ∈ text.map Json.text, part.reread = part := by
  simp [Json.reread]

theorem reread_array_text (texts : List String) :
    (Json.array (texts.map .text)).reread = .array (texts.map .text) := by
  rw [Json.reread, Json.rereadItems_eq_map, List.map_map]
  congr 1

instance (context : Context) : Decidable context.Addressable :=
  inferInstanceAs (Decidable (∀ index ∈ context.function, index < 2 ^ 64))

theorem Context.reread_of_spells (addressable : context.Addressable)
    (spells : Spells context.fields value) : value.reread = value := by
  apply spells.reread
  simp only [Context.fields, List.forall_mem_cons]
  refine ⟨reread_text _, ?_, reread_text _, ?_, List.forall_mem_nil _⟩
  · intro part there
    obtain ⟨index, held, rfl⟩ := Option.map_eq_some_iff.mp there
    rw [Json.reread, Json.rereadInteger_natCast (addressable index held)]
  · intro part there
    split at there
    · cases there
    · cases there
      exact reread_array_text _

def Addressable (d : Diagnostic) : Prop :=
  ∀ context ∈ d.context, context.Addressable

instance (d : Diagnostic) : Decidable d.Addressable :=
  inferInstanceAs (Decidable (∀ context ∈ d.context, context.Addressable))

def fields (d : Diagnostic) (context : Option Json) : List (String × Option Json) := [
  ("kind", some (.text d.kind.code)),
  ("message", some (.text d.message)),
  ("suggestion", d.suggestion.map .text),
  ("context", context),
  ("severity", some (.text d.severity.name))]

/-- A document of a diagnostic: what is present in it and in its context, in some order. -/
def Spelled (d : Diagnostic) (value : Json) : Prop :=
  ∃ context, Option.Rel (fun c part => Spells (Context.fields c) part) d.context context ∧
    Spells (d.fields context) value

theorem spelled_toJson (d : Diagnostic) : d.Spelled d.toJson := by
  refine ⟨d.context.map Context.toJson, ?_, Json.spells_ofFields _⟩
  cases d.context with
  | none => exact .none
  | some context =>
      rw [Option.map_some, context.toJson_eq]
      exact .some (Json.spells_ofFields context.fields)

theorem Spelled.ofJson? (spelled : d.Spelled value) : ofJson? value = some d := by
  obtain ⟨context, parts, spells⟩ := spelled
  have inner : orDefault? none (nullable? Context.ofJson?) context = some d.context := by
    generalize d.context = held at parts
    cases parts with
    | none => rfl
    | some inside =>
        have read := Context.ofJson?_of_spells inside
        obtain ⟨_, rfl, -⟩ := inside
        simp only [orDefault?, nullable?, read, Option.map_some]
  have distinct : ["kind", "message", "suggestion", "context", "severity"].Nodup := by decide
  unfold Diagnostic.ofJson?
  rw [spells.record? distinct rfl]
  simp only [fields, List.map_cons, List.map_nil, Option.bind_eq_bind, Option.bind_some,
    Json.variant?, Json.text?, Kind.ofCode?_code, Severity.ofName?_name, orDefault?_text, inner]
  rfl

theorem Spelled.reread (addressable : d.Addressable) (spelled : d.Spelled value) :
    value.reread = value := by
  obtain ⟨context, parts, spells⟩ := spelled
  apply spells.reread
  simp only [fields, List.forall_mem_cons]
  refine ⟨reread_text (some _), reread_text (some _), reread_text _, ?_, reread_text (some _),
    List.forall_mem_nil _⟩
  unfold Addressable at addressable
  generalize d.context = held at parts addressable
  cases parts with
  | none => exact fun part there => by cases there
  | some inside =>
      intro part there
      cases there
      exact Context.reread_of_spells (addressable _ rfl) inside

def read? (text : String) : Option Diagnostic :=
  (Json.read? text).bind ofJson?

theorem Spelled.read?_write (addressable : d.Addressable) (spelled : d.Spelled value)
    {layout : Layout} (blank : layout.Blank) : read? (Json.write layout value) = some d := by
  rw [read?, Json.read?_write blank, spelled.reread addressable]
  exact spelled.ofJson?

structure ComesBack (d : Diagnostic) : Prop where
  compact : read? d.toJson.compact = some d
  pretty : read? d.toJson.pretty = some d
  anyOrder : ∀ value, d.Spelled value → ∀ layout : Layout, layout.Blank →
    read? (Json.write layout value) = some d

theorem Addressable.comesBack (addressable : d.Addressable) : d.ComesBack where
  compact := d.spelled_toJson.read?_write addressable Json.blank_compact
  pretty := d.spelled_toJson.read?_write addressable Json.blank_pretty
  anyOrder _ spelled _ blank := spelled.read?_write addressable blank

theorem Addressable.updateContext (addressable : d.Addressable) {update : Context → Context}
    (kept : ∀ context : Context, context.Addressable → (update context).Addressable) :
    (d.updateContext update).Addressable := by
  intro context there
  cases there
  apply kept
  cases held : d.context with
  | none => exact fun index there => by cases there
  | some context => exact addressable context held

theorem Addressable.inSetting (addressable : d.Addressable) (id : String) :
    (d.inSetting id).Addressable :=
  addressable.updateContext fun _ kept => kept

theorem addressable_inFunction (d : Diagnostic) {index : Nat} (short : index < 2 ^ 64) :
    (d.inFunction index).Addressable := by
  intro context there
  cases there
  intro held there
  cases there
  exact short

inductive Built : Diagnostic → Prop
  | ofMessage (kind : Kind) (message : String) : Built (ofMessage kind message)
  | withSuggestion {d : Diagnostic} (built : Built d) (suggestion : String) :
      Built (d.withSuggestion suggestion)
  | withSeverity {d : Diagnostic} (built : Built d) (severity : Severity) :
      Built (d.withSeverity severity)
  | inSetting {d : Diagnostic} (built : Built d) (id : String) : Built (d.inSetting id)
  | inFunction {d : Diagnostic} (built : Built d) {index : Nat} (short : index < 2 ^ 64) :
      Built (d.inFunction index)
  | withExpression {d : Diagnostic} (built : Built d) (expression : String) :
      Built (d.withExpression expression)
  | withNote {d : Diagnostic} (built : Built d) (note : String) : Built (d.withNote note)

theorem Built.addressable (built : d.Built) : d.Addressable := by
  induction built with
  | ofMessage kind message => exact fun context there => by cases there
  | withSuggestion built suggestion step => exact step
  | withSeverity built severity step => exact step
  | inSetting built id step => exact step.inSetting id
  | inFunction built short step => exact addressable_inFunction _ short
  | withExpression built expression step => exact step.updateContext fun _ kept => kept
  | withNote built note step => exact step.updateContext fun _ kept => kept

end PlotMarkup.Diagnostic
