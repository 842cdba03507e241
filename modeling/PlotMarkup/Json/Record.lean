import PlotMarkup.Json.Basic

/-!
# Records in JSON

A record is an object whose known fields occur at most once, in any order and among unknown ones,
or a list of the fields in their declared order.
-/

namespace PlotMarkup.Json

def field? (fields : List (String × Json)) (name : String) : Option (Option Json) :=
  match fields.filter (·.1 == name) with
  | [] => some none
  | [(_, value)] => some (some value)
  | _ => none

/--
The fields `names` of a record, in that order.  As a list, a record has at least `least` of them
and no further ones.
-/
def record? (names : List String) (least : Nat) : Json → Option (List (Option Json))
  | .object fields => names.mapM (field? fields)
  | .array items =>
      if least ≤ items.length ∧ items.length ≤ names.length then
        some (items.map some ++ List.replicate (names.length - items.length) none)
      else none
  | _ => none

/-- Reads a field that has a value of its own when absent. -/
def orDefault? {α : Type} (default : α) (read? : Json → Option α) : Option Json → Option α
  | none => some default
  | some value => read? value

/--
The name of one of several alternatives: a text, or an object with the name as its only key and
nothing under it.
-/
def variant? : Json → Option String
  | .text name => some name
  | .object [(name, .null)] => some name
  | _ => none

def ofFields (fields : List (String × Option Json)) : Json :=
  .object (fields.filterMap fun (name, value?) => value?.map fun value => (name, value))

end PlotMarkup.Json
