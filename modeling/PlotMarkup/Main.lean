import PlotMarkup.CommandLine.Run

/-!
# The program

Reads the configuration from a file or from the standard input when the arguments ask for a
document, prints the outcome and exits with its status.
-/

namespace PlotMarkup.CommandLine

/-- The text of a file, or of the standard input, or why it cannot be read. -/
def readText (file : Option String) : IO (Except String String) := do
  try
    match file with
    | some path => return .ok (← IO.FS.readFile path)
    | none => return .ok (← (← IO.getStdin).readToEnd)
  catch e => return .error (file.getD "stdin" ++ ": " ++ toString e)

end PlotMarkup.CommandLine

def main (arguments : List String) : IO UInt32 := do
  let outcome ← PlotMarkup.CommandLine.runWith PlotMarkup.CommandLine.readText arguments
  IO.print outcome.output
  IO.eprint outcome.errors
  return outcome.status.toUInt32
