/-!
# White space

The property White_Space of the Unicode standard, and the operations on texts that rest on it.
-/

namespace PlotMarkup.Text

/-- White space of any script, the no-break space and the line separators included. -/
def isBlank (c : Char) : Bool :=
  (0x9 ≤ c.toNat && c.toNat ≤ 0xD) || c.toNat == 0x20 || c.toNat == 0x85 || c.toNat == 0xA0 ||
    c.toNat == 0x1680 || (0x2000 ≤ c.toNat && c.toNat ≤ 0x200A) ||
    (0x2028 ≤ c.toNat && c.toNat ≤ 0x2029) || c.toNat == 0x202F || c.toNat == 0x205F ||
    c.toNat == 0x3000

def trimBlank (cs : List Char) : List Char :=
  ((cs.dropWhile isBlank).reverse.dropWhile isBlank).reverse

def trim (text : String) : String :=
  String.ofList (trimBlank text.toList)

def isBlankText (text : String) : Bool :=
  text.toList.all isBlank

end PlotMarkup.Text
