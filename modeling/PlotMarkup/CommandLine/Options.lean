import PlotMarkup.Setting.Basic

/-!
# Command-line options

Options may come in any order and the last of a kind counts.  One argument that is no option names
the file of the configuration.
-/

namespace PlotMarkup.CommandLine

open Setting (Category)

structure Options where
  /-- Print the document as it is generated instead of a tidy one. -/
  raw : Bool
  /-- List the settings, of one category or of all. -/
  list : Option (Option Category)
  helpSetting : Option String
  file : Option String
deriving DecidableEq

def Options.none : Options := ⟨false, .none, .none, .none⟩

inductive Fault where
  | missingSettingId
  | unknownOption (argument : String)
  | unexpectedArgument (argument : String)
deriving DecidableEq

def Fault.message : Fault → String
  | .missingSettingId => "--help-setting needs a setting id"
  | .unknownOption argument => "unknown option " ++ argument
  | .unexpectedArgument argument => "unexpected argument " ++ argument

def usage : String :=
  "usage: tikzplot [--raw] [--list [CATEGORY]] [--help-setting ID] [FILE]"

def looksLikeOption (argument : String) : Bool :=
  ['-', '-'].isPrefixOf argument.toList

def Options.withOther (options : Options) (argument : String) : Except Fault Options :=
  if looksLikeOption argument then .error (.unknownOption argument)
  else
    match options.file with
    | some _ => .error (.unexpectedArgument argument)
    | .none => .ok { options with file := some argument }

/-- Adds arguments to options.  A category counts as one only right after the option to list. -/
def Options.add (options : Options) : List String → Except Fault Options
  | [] => .ok options
  | "--raw" :: rest => { options with raw := true }.add rest
  | "--list" :: category :: rest =>
      match Category.ofName? category with
      | some found => { options with list := some (some found) }.add rest
      | .none => { options with list := some .none }.add (category :: rest)
  | ["--list"] => .ok { options with list := some .none }
  | "--help-setting" :: id :: rest => { options with helpSetting := some id }.add rest
  | ["--help-setting"] => .error .missingSettingId
  | argument :: rest => do
      let options ← options.withOther argument
      options.add rest

def Options.ofArguments (arguments : List String) : Except Fault Options :=
  Options.none.add arguments

end PlotMarkup.CommandLine
