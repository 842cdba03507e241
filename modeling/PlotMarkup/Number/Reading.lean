import PlotMarkup.Number.Binary64

/-!
# Reading decimal numbers

A decimal text is an optional sign, digits with at most one point among or around them, and an
optional exponent; `inf`, `infinity` and `nan` are read in any letter case.  The value is the
double nearest to the decimal, ties to even.
-/

namespace PlotMarkup.Number

/-- The double nearest to `coefficient * 10 ^ exponent`. -/
def ofDecimal (coefficient : Nat) : Int → Float
  | .ofNat places => Float.ofScientific coefficient false places
  | .negSucc places => Float.ofScientific coefficient true (places + 1)

def splitDigits (cs : List Char) : List Char × List Char :=
  (cs.takeWhile Char.isDigit, cs.dropWhile Char.isDigit)

def digitsValue (digits : List Char) : Nat :=
  Nat.ofDigitChars 10 digits 0

def splitSign : List Char → Bool × List Char
  | '-' :: rest => (true, rest)
  | '+' :: rest => (false, rest)
  | rest => (false, rest)

/-- The exponent that ends a decimal: nothing, or `e` and a whole number up to the end. -/
def readExponent? : List Char → Option Int
  | [] => some 0
  | mark :: rest =>
      if mark = 'e' ∨ mark = 'E' then
        let (negative, digits) := splitSign rest
        if digits ≠ [] ∧ digits.all Char.isDigit then
          some (if negative then -(digitsValue digits : Int) else digitsValue digits)
        else none
      else none

/-- Digits, a point with further digits, and an exponent; one digit at least. -/
def readUnsigned? (cs : List Char) : Option Float :=
  let (whole, rest) := splitDigits cs
  let (fraction, rest) :=
    match rest with
    | '.' :: rest => splitDigits rest
    | rest => ([], rest)
  if whole = [] ∧ fraction = [] then none
  else (readExponent? rest).map fun exponent =>
    ofDecimal (digitsValue (whole ++ fraction)) (exponent - fraction.length)

def readNamed? (cs : List Char) : Option Float :=
  match String.ofList (cs.map Char.toLower) with
  | "nan" => some (0.0 / 0.0)
  | "inf" | "infinity" => some (1.0 / 0.0)
  | _ => none

def readChars? (cs : List Char) : Option Float :=
  let (negative, magnitude) := splitSign cs
  let value? := (readNamed? magnitude).or (readUnsigned? magnitude)
  if negative then value?.map (-·) else value?

def read? (text : String) : Option Float :=
  readChars? text.toList

end PlotMarkup.Number
