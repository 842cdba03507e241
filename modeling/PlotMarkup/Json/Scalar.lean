import PlotMarkup.Json.Basic
import PlotMarkup.Number.Reading

/-!
# JSON numbers and texts

The two scalars with an inner structure.  A number keeps as many leading digits as fit in 64 bits
and is then scaled by a power of ten with at most one rounding for each factor.  A text is read as
a list of units first; escaped code units are joined to characters afterwards.
-/

namespace PlotMarkup.Json

open Number (splitDigits digitsValue)

/-! ## Numbers -/

/-- The digits of a number that are kept, as a number, and the power of ten that they lack. -/
structure Significand where
  value : Nat
  exponent : Int

def Significand.extended? (s : Significand) (digit : Char) : Option Nat :=
  let value := s.value * 10 + (digit.toNat - '0'.toNat)
  if value < Nat.pow 2 64 then some value else none

/-- Digits before the point: those that no longer fit still count as places. -/
def Significand.addWhole (s : Significand) : List Char → Significand
  | [] => s
  | digit :: rest =>
      match s.extended? digit with
      | some value => Significand.addWhole ⟨value, 0⟩ rest
      | none => ⟨s.value, rest.length + 1⟩

/-- Digits after the point: from the first that does not fit on they are dropped. -/
def Significand.addFraction (s : Significand) : List Char → Significand
  | [] => s
  | digit :: rest =>
      match s.extended? digit with
      | some value => Significand.addFraction ⟨value, s.exponent - 1⟩ rest
      | none => s

/--
`x * 10 ^ exponent`, in steps of at most 308 places when the exponent is negative; nothing if it is
beyond the range of doubles.
-/
def scale? (x : Float) (exponent : Int) : Option Float :=
  if 308 < exponent then
    if x == 0 then some x else none
  else if 0 ≤ exponent then
    let scaled := x * Number.ofDecimal 1 exponent
    if scaled.isInf then none else some scaled
  else if -308 ≤ exponent then
    some (x / Number.ofDecimal 1 (-exponent))
  else if x == 0 then some x
  else scale? (x / Number.ofDecimal 1 308) (exponent + 308)
termination_by (-exponent).toNat
decreasing_by omega

/-- A number with fraction or exponent, or too long for 64 bits. -/
def realValue (negative : Bool) (s : Significand) (exponent : Int) : Json :=
  match scale? (Float.ofNat s.value) (s.exponent + exponent) with
  | some x => .real (if negative then -x else x)
  | none => .malformed

/-- A number that is all digits; the negative zero is no integer. -/
def wholeValue (negative : Bool) (value : Nat) : Json :=
  if !negative then .integer value
  else if 0 < value ∧ value ≤ Nat.pow 2 63 then .integer (-value)
  else .real (-Float.ofNat value)

/-- The fraction after the whole digits: nothing, or a point and at least one digit. -/
def readFraction? : List Char → Option (List Char × List Char)
  | '.' :: rest =>
      let (digits, rest) := splitDigits rest
      if digits = [] then none else some (digits, rest)
  | rest => some ([], rest)

/-- The exponent of a number, if it has one: `e`, an optional sign and at least one digit. -/
def readExponent? : List Char → Option (Option Int × List Char)
  | [] => some (none, [])
  | mark :: rest =>
      if mark = 'e' ∨ mark = 'E' then
        let (negative, rest) := Number.splitSign rest
        let (digits, rest) := splitDigits rest
        if digits = [] then none
        else
          let value : Int := digitsValue digits
          some (some (if negative then -value else value), rest)
      else some (none, mark :: rest)

/-- A number after its sign.  Digits do not start with a zero unless it is the only one. -/
def readMagnitude? (negative : Bool) (cs : List Char) : Option (Json × List Char) := do
  let (whole, rest) := splitDigits cs
  if whole = [] ∨ (whole.head? = some '0' ∧ 1 < whole.length) then none
  else
    let (fraction, rest) ← readFraction? rest
    let (exponent, rest) ← readExponent? rest
    let s := Significand.addWhole ⟨0, 0⟩ whole
    if fraction = [] ∧ exponent = none ∧ s.exponent = 0 then
      some (wholeValue negative s.value, rest)
    else
      some (realValue negative (s.addFraction fraction) (exponent.getD 0), rest)

def readNumber? : List Char → Option (Json × List Char)
  | '-' :: rest => readMagnitude? true rest
  | cs => readMagnitude? false cs

/-! ## Texts -/

/-- A piece of a written text: a character, or a code unit given by its number. -/
inductive TextUnit where
  | char (c : Char)
  | code (unit : Nat)

def hexValue? (c : Char) : Option Nat :=
  if c.isDigit then some (c.toNat - '0'.toNat)
  else if 'a' ≤ c ∧ c ≤ 'f' then some (c.toNat - 'a'.toNat + 10)
  else if 'A' ≤ c ∧ c ≤ 'F' then some (c.toNat - 'A'.toNat + 10)
  else none

def hexUnit? (a b c d : Char) : Option Nat := do
  let a ← hexValue? a
  let b ← hexValue? b
  let c ← hexValue? c
  let d ← hexValue? d
  return ((a * 16 + b) * 16 + c) * 16 + d

def shortEscape? : Char → Option Char
  | '"' => some '"'
  | '\\' => some '\\'
  | '/' => some '/'
  | 'b' => some '\x08'
  | 'f' => some '\x0C'
  | 'n' => some '\n'
  | 'r' => some '\r'
  | 't' => some '\t'
  | _ => none

/-- The units up to the closing quote, and what follows it.  Control characters are not allowed. -/
def readUnits? : List Char → Option (List TextUnit × List Char)
  | [] => none
  | '"' :: rest => some ([], rest)
  | '\\' :: 'u' :: a :: b :: c :: d :: rest => do
      let unit ← hexUnit? a b c d
      let (units, rest) ← readUnits? rest
      return (.code unit :: units, rest)
  | '\\' :: letter :: rest => do
      let escaped ← shortEscape? letter
      let (units, rest) ← readUnits? rest
      return (.char escaped :: units, rest)
  | c :: rest =>
      if c.toNat < 0x20 then none
      else do
        let (units, rest) ← readUnits? rest
        return (.char c :: units, rest)

/--
The characters of a list of units.  A code unit in the upper half of the surrogates needs one in
the lower half right after it; no other surrogate stands for a character.
-/
def joinUnits? : List TextUnit → Option (List Char)
  | [] => some []
  | .char c :: rest => (joinUnits? rest).map (c :: ·)
  | .code high :: .code low :: rest =>
      if 0xD800 ≤ high ∧ high < 0xDC00 then
        if 0xDC00 ≤ low ∧ low < 0xE000 then
          (joinUnits? rest).map
            (Char.ofNat (0x10000 + (high - 0xD800) * 0x400 + (low - 0xDC00)) :: ·)
        else none
      else if 0xDC00 ≤ high ∧ high < 0xE000 then none
      else (joinUnits? (.code low :: rest)).map (Char.ofNat high :: ·)
  | .code unit :: rest =>
      if 0xD800 ≤ unit ∧ unit < 0xE000 then none
      else (joinUnits? rest).map (Char.ofNat unit :: ·)

end PlotMarkup.Json
