import PlotMarkup.Diagnostic.Json

/-!
# Fragments

A piece of markup together with what had to be left out of it.  A generated document is reported as
such a piece.
-/

namespace PlotMarkup

structure Fragment where
  text : String
  issues : List Diagnostic
deriving DecidableEq

namespace Fragment

def ofText (text : String) : Fragment := ⟨text, []⟩

def empty : Fragment := ofText ""

def append (first second : Fragment) : Fragment :=
  ⟨first.text ++ second.text, first.issues ++ second.issues⟩

instance : Append Fragment := ⟨append⟩

/-- A part that is left out, with its issue, when it cannot be made. -/
def ofResult : Except Diagnostic String → Fragment
  | .ok text => ofText text
  | .error issue => ⟨"", [issue]⟩

def textOf? : Except Diagnostic Fragment → Option String
  | .ok fragment => some fragment.text
  | .error _ => none

def issuesOf : Except Diagnostic Fragment → List Diagnostic
  | .ok fragment => fragment.issues
  | .error issue => [issue]

def toJson (fragment : Fragment) : Json :=
  .object [
    ("source", .text fragment.text),
    ("errors", .array (fragment.issues.map Diagnostic.toJson))]

end Fragment

end PlotMarkup
