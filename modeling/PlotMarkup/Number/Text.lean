import PlotMarkup.Number.Shortest

/-!
# Number text

Every number the program writes uses the shortest digits that read back.  The three places where
numbers appear (generated markup, messages, JSON documents) differ only in their `Style`.
-/

namespace PlotMarkup.Number

structure Style where
  /-- Which of two equally near shortest decimals is taken. -/
  tie : Tie
  /-- The exponents of the leading digit that are written without an exponent; `none` is all. -/
  positional : Option (Int × Int)
  /-- What follows the digits of a whole number in positional form. -/
  wholeMark : String
  signedZero : Bool

/-- Markup switches to an exponent from `10 ^ 21` on and below `10 ^ -6`, and zero has no sign. -/
def Style.markup : Style := ⟨.up, some (-6, 21), "", false⟩

/-- Messages never use an exponent. -/
def Style.message : Style := ⟨.up, none, "", true⟩

/-- JSON marks whole numbers by `.0`, uses an exponent from `10 ^ 16` on and below `10 ^ -5`. -/
def Style.json : Style := ⟨.even, some (-5, 16), ".0", true⟩

def Style.isPositional (style : Style) (leading : Int) : Bool :=
  match style.positional with
  | none => true
  | some (low, high) => low ≤ leading && leading < high

/-- Digits with the point where `exponent` puts it, padded with zeros on the side that needs it. -/
def positionalText (wholeMark : String) (digits : List Char) (exponent : Int) : List Char :=
  if 0 ≤ exponent then
    digits ++ List.replicate exponent.toNat '0' ++ wholeMark.toList
  else
    let places := (-exponent).toNat
    if places < digits.length then
      digits.take (digits.length - places) ++ '.' :: digits.drop (digits.length - places)
    else
      '0' :: '.' :: List.replicate (places - digits.length) '0' ++ digits

/-- One digit before the point, and the exponent always with its sign. -/
def exponentText (digits : List Char) (leading : Int) : List Char :=
  let mantissa :=
    match digits with
    | first :: second :: rest => first :: '.' :: second :: rest
    | short => short
  mantissa ++ 'e' :: (if leading < 0 then '-' else '+') :: Nat.toDigits 10 leading.natAbs

def Decimal.text (style : Style) (d : Decimal) : List Char :=
  let digits := Nat.toDigits 10 d.digits
  let leading := d.exponent + digits.length - 1
  if style.isPositional leading then positionalText style.wholeMark digits d.exponent
  else exponentText digits leading

def finiteText (style : Style) (x : Float) : List Char :=
  let v := magnitude x
  if v.significand = 0 then
    (if isNegative x && style.signedZero then ['-'] else []) ++ '0' :: style.wholeMark.toList
  else
    (if isNegative x then ['-'] else []) ++ (v.shortest style.tie).text style

def text (style : Style) (x : Float) : String :=
  if x.isFinite then String.ofList (finiteText style x)
  else if x.isNaN then "NaN"
  else if isNegative x then "-inf" else "inf"

def markup (x : Float) : String := text .markup x

def message (x : Float) : String := text .message x

end PlotMarkup.Number
