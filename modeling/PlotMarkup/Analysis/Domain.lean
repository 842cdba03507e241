import PlotMarkup.Number.Reading
import PlotMarkup.Text.Blank
import PlotMarkup.Diagnostic.Basic

/-!
# Domains and points in them

A domain is written `low:high`.  Both bounds are finite numbers, white space around them does not
count, and the lower bound lies below the upper one.
-/

namespace PlotMarkup

/-- A finite number, with any white space around it. -/
def readFinite? (text : String) : Option Float :=
  (Number.read? (Text.trim text)).filter Float.isFinite

structure Domain where
  low : Float
  high : Float
deriving DecidableEq

namespace Domain

inductive Fault where
  | noColon
  | manyColons
  | notANumber (part : String)
  | notIncreasing
deriving DecidableEq

def Fault.reason : Fault → String
  | .noColon => "expected min:max"
  | .manyColons => "expected exactly one ':'"
  | .notANumber part => "'" ++ part ++ "' is not a number"
  | .notIncreasing => "min must be below max"

def parts (text : String) : Except Fault (String × String) :=
  let before := text.toList.takeWhile (· != ':')
  match text.toList.dropWhile (· != ':') with
  | [] => .error .noColon
  | _ :: after =>
      if ':' ∈ after then .error .manyColons
      else .ok (String.ofList before, String.ofList after)

def readBound (part : String) : Except Fault Float :=
  match readFinite? part with
  | some x => .ok x
  | none => .error (.notANumber (Text.trim part))

def read (text : String) : Except Fault Domain := do
  let (before, after) ← parts text
  let low ← readBound before
  let high ← readBound after
  if high ≤ low then .error .notIncreasing else .ok ⟨low, high⟩

def ofText (text : String) : Except Diagnostic Domain :=
  match read text with
  | .ok domain => .ok domain
  | .error fault => .error (.invalidDomain text fault.reason)

inductive PointFault where
  | notANumber
  | outside (domain : Domain)

def PointFault.reason : PointFault → String
  | .notANumber => "not a number"
  | .outside domain =>
      "outside domain [" ++ Number.markup domain.low ++ ", " ++ Number.markup domain.high ++ "]"

/-- The point of a text, bounds included. -/
def readPoint (domain : Domain) (text : String) : Except PointFault Float :=
  match readFinite? text with
  | none => .error .notANumber
  | some x => if x < domain.low ∨ domain.high < x then .error (.outside domain) else .ok x

def pointOfText (domain : Domain) (text : String) : Except Diagnostic Float :=
  match domain.readPoint text with
  | .ok x => .ok x
  | .error fault => .error (.invalidTangentPoint text fault.reason)

end Domain

end PlotMarkup
