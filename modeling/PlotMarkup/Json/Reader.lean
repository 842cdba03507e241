import PlotMarkup.Json.Token

/-!
# Reading JSON documents

The reader is a machine that takes one step per token.  Its state says what may come next and
carries the containers that are still open, innermost first.  A document is read when the machine
has taken all tokens and ends with a value.  It may nest at will: how far a value may that is kept
as a whole is up to the reader of the value (`Config.mostNested`).
-/

namespace PlotMarkup.Json

/-- A container around the value that is due: what it holds already, last part first. -/
inductive Frame where
  | array (items : List Json)
  | object (fields : List (Option String × Json)) (key : Option String)

inductive State where
  | done (value : Json)
  | value (outer : List Frame)
  /-- An array was opened: an item or the end is due. -/
  | openedArray (outer : List Frame)
  /-- An item was read: a comma or the end of the array is due. -/
  | afterItem (items : List Json) (outer : List Frame)
  /-- An object was opened: a key or the end is due. -/
  | openedObject (outer : List Frame)
  /-- After a comma in an object: a key is due. -/
  | nextKey (fields : List (Option String × Json)) (outer : List Frame)
  /-- A key was read: a colon is due. -/
  | afterKey (fields : List (Option String × Json)) (key : Option String) (outer : List Frame)
  /-- A field was read: a comma or the end of the object is due. -/
  | afterField (fields : List (Option String × Json)) (outer : List Frame)

def textValue : Option String → Json
  | some value => .text value
  | none => .malformed

/-- An object all of whose keys are texts. -/
def objectValue (fields : List (Option String × Json)) : Json :=
  match fields.mapM fun (key, value) => key.map fun key => (key, value) with
  | some fields => .object fields
  | none => .malformed

/-- Hands a complete value to the container around it. -/
def complete (value : Json) : List Frame → State
  | [] => .done value
  | .array items :: outer => .afterItem (value :: items) outer
  | .object fields key :: outer => .afterField ((key, value) :: fields) outer

def start (outer : List Frame) : Token → Option State
  | .openBrace => some (.openedObject outer)
  | .openBracket => some (.openedArray outer)
  | .text value => some (complete (textValue value) outer)
  | .literal value => some (complete value outer)
  | _ => none

def State.step : State → Token → Option State
  | .value outer, token => start outer token
  | .openedArray outer, .closeBracket => some (complete (.array []) outer)
  | .openedArray outer, token => start (.array [] :: outer) token
  | .afterItem items outer, .comma => some (.value (.array items :: outer))
  | .afterItem items outer, .closeBracket => some (complete (.array items.reverse) outer)
  | .openedObject outer, .closeBrace => some (complete (.object []) outer)
  | .openedObject outer, .text key => some (.afterKey [] key outer)
  | .nextKey fields outer, .text key => some (.afterKey fields key outer)
  | .afterKey fields key outer, .colon => some (.value (.object fields key :: outer))
  | .afterField fields outer, .comma => some (.nextKey fields outer)
  | .afterField fields outer, .closeBrace => some (complete (objectValue fields.reverse) outer)
  | _, _ => none

def read? (text : String) : Option Json := do
  let tokens ← tokens? text.toList
  match ← tokens.foldlM State.step (.value []) with
  | .done value => some value
  | _ => none

end PlotMarkup.Json
