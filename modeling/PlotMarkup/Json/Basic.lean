/-!
# JSON values

A document value as a tree.  Objects keep the order of their fields and every repetition of a
field, so that a reader can decide what a repetition means.
-/

namespace PlotMarkup

inductive Json where
  | null
  | bool (value : Bool)
  /-- A number without fraction and exponent that fits in 64 bits, with or without a sign. -/
  | integer (value : Int)
  | real (value : Float)
  | text (value : String)
  | array (items : List Json)
  | object (fields : List (String × Json))
  /--
  A value that is spelled correctly and stands for nothing: a number beyond the range of doubles,
  a text or an object key with half of a surrogate pair.  It can be passed over but not read.
  -/
  | malformed
deriving Inhabited

namespace Json

def number? : Json → Option Float
  | .integer value => some (if value < 0 then -Float.ofNat value.natAbs else Float.ofNat value.natAbs)
  | .real value => some value
  | _ => none

def bool? : Json → Option Bool
  | .bool value => some value
  | _ => none

def text? : Json → Option String
  | .text value => some value
  | _ => none

def index? : Json → Option Nat
  | .integer value => if 0 ≤ value then some value.toNat else none
  | _ => none

def items? : Json → Option (List Json)
  | .array items => some items
  | _ => none

def nullable? {α : Type} (read? : Json → Option α) : Json → Option (Option α)
  | .null => some none
  | value => (read? value).map some

mutual

/-- Whether no part of a value is malformed. -/
def isComplete : Json → Bool
  | .array items => itemsComplete items
  | .object fields => fieldsComplete fields
  | .malformed => false
  | _ => true

def itemsComplete : List Json → Bool
  | [] => true
  | item :: rest => item.isComplete && itemsComplete rest

def fieldsComplete : List (String × Json) → Bool
  | [] => true
  | (_, value) :: rest => value.isComplete && fieldsComplete rest

end

mutual

/-- The most lists and objects of a value around each other. -/
def nesting : Json → Nat
  | .array items => itemsNesting items + 1
  | .object fields => fieldsNesting fields + 1
  | _ => 0

def itemsNesting : List Json → Nat
  | [] => 0
  | item :: rest => max item.nesting (itemsNesting rest)

def fieldsNesting : List (String × Json) → Nat
  | [] => 0
  | (_, value) :: rest => max value.nesting (fieldsNesting rest)

end

end Json

end PlotMarkup
