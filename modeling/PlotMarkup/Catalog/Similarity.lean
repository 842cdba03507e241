import PlotMarkup.Text.LowerCase

/-!
# Similar ids

How well an id answers a mistyped one.  Letter case does not count.  Being an extension, a part or
a superstring scores most, then the number of shared characters, then a similar length; a handful
of shared characters alone is noise.
-/

namespace PlotMarkup.Catalog

def contains (whole part : List Char) : Bool :=
  match whole with
  | [] => part.isEmpty
  | c :: rest => part.isPrefixOf (c :: rest) || contains rest part

def containmentScore (query candidate : List Char) : Nat :=
  if query.isPrefixOf candidate then 100
  else if contains candidate query then 50
  else if contains query candidate then 30
  else 0

def sharedCharacters (query candidate : List Char) : Nat :=
  (query.eraseDups.filter (· ∈ candidate)).length

def lengthDifference (query candidate : String) : Nat :=
  max query.utf8ByteSize candidate.utf8ByteSize - min query.utf8ByteSize candidate.utf8ByteSize

/-- The least score that counts. -/
def noise : Nat := 8

/-- The similarity of two texts in lower case; zero if there is none. -/
def similarity (query candidate : String) : Nat :=
  if query = "" then 0
  else
    let base := containmentScore query.toList candidate.toList +
      2 * sharedCharacters query.toList candidate.toList
    let difference := lengthDifference query candidate
    let score := if difference < 5 ∧ 0 < base then base + (5 - difference) else base
    if score < noise then 0 else score

/-- The ids that resemble a query, best first; among equally good ones the given order stays. -/
def rank (query : String) (ids : List String) : List String :=
  let query := Text.lowerCase query
  let scored := ids.map fun id => (id, similarity query (Text.lowerCase id))
  ((scored.filter (0 < ·.2)).mergeSort fun first second => second.2 ≤ first.2).map (·.1)

end PlotMarkup.Catalog
