import PlotMarkup.CommandLine.Options
import PlotMarkup.Catalog.Standard
import PlotMarkup.Store.Document
import PlotMarkup.Config

/-!
# Running the command line

A listing wins over the description of a setting, which wins over the generation of a document.
Only the last reads a configuration.
-/

namespace PlotMarkup.CommandLine

/-- What a run leaves behind: its exit status and the texts of its two outputs. -/
structure Outcome where
  status : Nat
  output : String
  errors : String
deriving DecidableEq

def Outcome.ofOutput (output : String) : Outcome := ⟨0, output, ""⟩

def Outcome.ofFailure (issue : Diagnostic) : Outcome := ⟨1, "", issue.line ++ "\n"⟩

def Outcome.ofFault (fault : Fault) : Outcome := ⟨2, "", fault.message ++ "\n" ++ usage ++ "\n"⟩

def Outcome.ofJson (value : Json) : Outcome := ofOutput (value.pretty ++ "\n")

/-- The configuration in a text; a blank text is an empty one. -/
def configOfText (text : String) : Except Diagnostic Config :=
  if Text.isBlankText text then .ok .empty else Config.ofText text

def printed (options : Options) (document : Fragment) : String :=
  if options.raw then document.text else Text.tidy document.text ++ "\n"

/-- The answer to options that need no configuration. -/
def Options.answer? (options : Options) : Option Outcome :=
  match options.list with
  | some category => some (.ofJson (Catalog.standard.listingJson category))
  | .none => options.helpSetting.map fun id =>
      match Catalog.standard.require id with
      | .ok s => .ofJson s.toJson
      | .error issue => .ofFailure issue

/--
Generates the document of a configuration, given its text or the reason why it cannot be read.
Entries that are refused and parts that are left out do not make the run fail.
-/
def Options.generate (options : Options) (text : Except String String) : Outcome :=
  match text.mapError Diagnostic.invalidConfig >>= configOfText with
  | .ok config =>
      .ofOutput (printed options ((Store.ofCatalog Catalog.standard).apply config).1.document)
  | .error issue => .ofFailure issue

/--
A run, given what reads the text of a file by name or of the standard input, which has none.
Nothing is read unless a document is asked for.
-/
def runWith {m : Type → Type} [Monad m] (read : Option String → m (Except String String))
    (arguments : List String) : m Outcome :=
  match Options.ofArguments arguments with
  | .error fault => pure (.ofFault fault)
  | .ok options =>
      match options.answer? with
      | some outcome => pure outcome
      | .none => do return options.generate (← read options.file)

def run (read : Option String → Except String String) (arguments : List String) : Outcome :=
  Id.run (runWith (m := Id) read arguments)

end PlotMarkup.CommandLine
