import PlotMarkup.Expr.Basic
import PlotMarkup.Number.Text

/-!
# Tokens of an expression

The tokens, where they stand in the text, and what can be wrong with a text.
-/

namespace PlotMarkup

inductive Token where
  | number (value : Float)
  | name (text : String)
  | operator (op : Operator)
  | openParen
  | closeParen
deriving DecidableEq

def Token.describe : Token → String
  | .number value => "number " ++ Number.message value
  | .name text => "identifier '" ++ text ++ "'"
  | .operator op => "'" ++ op.symbol ++ "'"
  | .openParen => "'('"
  | .closeParen => "')'"

/-- A token and the offset of its first byte in the text. -/
structure Located where
  token : Token
  offset : Nat
deriving DecidableEq

/-- Levels of nesting that an expression may use up. -/
def maxDepth : Nat := 256

inductive SyntaxError where
  | empty
  | unexpectedCharacter (c : Char) (offset : Nat)
  | invalidNumber (literal : String)
  | unexpectedToken (found : Token) (offset : Nat)
  | unexpectedEnd
  /-- A function name without an opening parenthesis after it. -/
  | missingArgument (function : String)
  | missingParen (offset : Nat)
  | unknownIdentifier (name : String)
  | tooDeep
deriving DecidableEq

def SyntaxError.message : SyntaxError → String
  | .empty => "empty expression"
  | .unexpectedCharacter c offset => s!"unexpected character '{c}' at position {offset}"
  | .invalidNumber literal => s!"invalid number literal '{literal}'"
  | .unexpectedToken found offset => s!"unexpected {found.describe} at position {offset}"
  | .unexpectedEnd => "unexpected end of expression"
  | .missingArgument function => s!"expected '(' after function {function}"
  | .missingParen offset => s!"expected ')' at position {offset}"
  | .unknownIdentifier name => s!"unknown identifier '{name}' (only x is a variable)"
  | .tooDeep => s!"expression nests deeper than {maxDepth} levels"

end PlotMarkup
