import PlotMarkup.Json.Basic
import PlotMarkup.Number.Text

/-!
# Writing JSON documents

One writer for both layouts: all on one line, or one item or field per line with two spaces of
indentation for each level.
-/

namespace PlotMarkup.Json

structure Layout where
  /-- What stands before an item at a depth, and before the end of a container that has items. -/
  lineBreak : Nat → List Char
  /-- What stands between a key and its value. -/
  colon : List Char

def Layout.compact : Layout := ⟨fun _ => [], [':']⟩

def Layout.pretty : Layout := ⟨fun depth => '\n' :: List.replicate (2 * depth) ' ', [':', ' ']⟩

def hexDigit (n : Nat) : Char :=
  Nat.digitChar n

/-- A character inside a text.  Quotes, backslashes and control characters are escaped. -/
def escapeChar (c : Char) : List Char :=
  if c = '"' then ['\\', '"']
  else if c = '\\' then ['\\', '\\']
  else if c = '\x08' then ['\\', 'b']
  else if c = '\x0C' then ['\\', 'f']
  else if c = '\n' then ['\\', 'n']
  else if c = '\r' then ['\\', 'r']
  else if c = '\t' then ['\\', 't']
  else if c.toNat < 0x20 then
    ['\\', 'u', '0', '0', hexDigit (c.toNat / 16), hexDigit (c.toNat % 16)]
  else [c]

def textChars (value : String) : List Char :=
  '"' :: value.toList.flatMap escapeChar ++ ['"']

/-- Infinities and not-a-number have no spelling in JSON. -/
def realChars (value : Float) : List Char :=
  if value.isFinite then Number.finiteText .json value else "null".toList

def integerChars (value : Int) : List Char :=
  (if value < 0 then ['-'] else []) ++ Nat.toDigits 10 value.natAbs

mutual

/-- A value inside `depth` containers. -/
def writeAt (layout : Layout) (depth : Nat) : Json → List Char
  | .null => "null".toList
  | .bool true => "true".toList
  | .bool false => "false".toList
  | .integer value => integerChars value
  | .real value => realChars value
  | .text value => textChars value
  | .array [] => ['[', ']']
  | .array (item :: rest) =>
      '[' :: layout.lineBreak (depth + 1) ++ writeAt layout (depth + 1) item ++
        writeItems layout (depth + 1) rest ++ layout.lineBreak depth ++ [']']
  | .object [] => ['\x7B', '\x7D']
  | .object ((key, value) :: rest) =>
      '\x7B' :: layout.lineBreak (depth + 1) ++ textChars key ++ layout.colon ++
        writeAt layout (depth + 1) value ++ writeFields layout (depth + 1) rest ++
        layout.lineBreak depth ++ ['\x7D']
  | .malformed => "null".toList

def writeItems (layout : Layout) (depth : Nat) : List Json → List Char
  | [] => []
  | item :: rest =>
      ',' :: layout.lineBreak depth ++ writeAt layout depth item ++ writeItems layout depth rest

def writeFields (layout : Layout) (depth : Nat) : List (String × Json) → List Char
  | [] => []
  | (key, value) :: rest =>
      ',' :: layout.lineBreak depth ++ textChars key ++ layout.colon ++
        writeAt layout depth value ++ writeFields layout depth rest

end

def write (layout : Layout) (value : Json) : String :=
  String.ofList (writeAt layout 0 value)

def compact (value : Json) : String := write .compact value

def pretty (value : Json) : String := write .pretty value

end PlotMarkup.Json
