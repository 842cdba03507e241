import PlotMarkup.Text.Blank

/-!
# Tidy text

Markup without blank lines and without the white space around its lines.  Markers and characters
for no-break spaces, which editors in a browser leave behind, are removed first.
-/

namespace PlotMarkup.Text

/-- Removes the written marker for a no-break space, from left to right. -/
def dropMarkers : List Char → List Char
  | [] => []
  | '&' :: 'n' :: 'b' :: 's' :: 'p' :: ';' :: rest => dropMarkers rest
  | c :: rest => c :: dropMarkers rest

def noBreakSpace : Char := '\u00A0'

def lines : List Char → List (List Char)
  | [] => [[]]
  | c :: rest =>
      if c = '\n' then [] :: lines rest
      else
        match lines rest with
        | [] => [[c]]
        | line :: others => (c :: line) :: others

def joinLines : List (List Char) → List Char
  | [] => []
  | [line] => line
  | line :: rest => line ++ '\n' :: joinLines rest

def tidyChars (cs : List Char) : List Char :=
  let kept := (dropMarkers cs).filter (· != noBreakSpace)
  joinLines (((lines kept).map trimBlank).filter (!·.isEmpty))

def tidy (text : String) : String :=
  String.ofList (tidyChars text.toList)

end PlotMarkup.Text
