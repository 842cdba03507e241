import PlotMarkup.Expr.Lexer

/-!
# From tokens to an expression

The grammar, from the loosest to the tightest binding:

* sum: products joined by `+` and `-`, grouped from the left;
* product: signed operands joined by `*` and `/`, grouped from the left;
* signed: a sign before a signed operand, or a power;
* power: a primary, optionally `^` and a signed exponent, so that `^` groups from the right and
  binds tighter than a sign before it;
* primary: a number, the variable, a constant, a function with its argument in parentheses, or a
  sum in parentheses.

Every parser takes a budget of levels.  A signed operand uses up one level for all that it holds,
and each operator of a sum or product one for the operands after it, so the recursion ends with
the budget.
-/

namespace PlotMarkup.Expr

/-- An expression read from the head of a token list, and what follows it. -/
abbrev Parsed := Except SyntaxError (Expr × List Located)

/-- The error for a token that cannot stand here, or for the end of the text. -/
def unexpected : List Located → SyntaxError
  | [] => .unexpectedEnd
  | found :: _ => .unexpectedToken found.token found.offset

/-- Passes over a closing parenthesis; `stop` is the offset of the end of the text. -/
def closeParen (stop : Nat) : List Located → Except SyntaxError (List Located)
  | [] => .error (.missingParen stop)
  | found :: rest =>
      if found.token = .closeParen then .ok rest else .error (.missingParen found.offset)

mutual

def parseSum (stop budget : Nat) (ts : List Located) : Parsed := do
  let (left, rest) ← parseProduct stop budget ts
  parseSumTail stop budget left rest
termination_by 6 * budget + 3

def parseSumTail (stop budget : Nat) (left : Expr) : List Located → Parsed
  | [] => .ok (left, [])
  | found :: rest =>
      match found.token with
      | .operator .add => parseSumNext stop budget left .add rest
      | .operator .sub => parseSumNext stop budget left .sub rest
      | _ => .ok (left, found :: rest)
termination_by 6 * budget + 1

def parseSumNext (stop budget : Nat) (left : Expr) (op : Operator) (ts : List Located) : Parsed :=
  match budget with
  | 0 => .error .tooDeep
  | budget + 1 => do
      let (right, rest) ← parseProduct stop budget ts
      parseSumTail stop budget (.binary left op right) rest
termination_by 6 * budget

def parseProduct (stop budget : Nat) (ts : List Located) : Parsed := do
  let (left, rest) ← parseSigned stop budget ts
  parseProductTail stop budget left rest
termination_by 6 * budget + 2

def parseProductTail (stop budget : Nat) (left : Expr) : List Located → Parsed
  | [] => .ok (left, [])
  | found :: rest =>
      match found.token with
      | .operator .mul => parseProductNext stop budget left .mul rest
      | .operator .div => parseProductNext stop budget left .div rest
      | _ => .ok (left, found :: rest)
termination_by 6 * budget + 1

def parseProductNext (stop budget : Nat) (left : Expr) (op : Operator) (ts : List Located) :
    Parsed :=
  match budget with
  | 0 => .error .tooDeep
  | budget + 1 => do
      let (right, rest) ← parseSigned stop budget ts
      parseProductTail stop budget (.binary left op right) rest
termination_by 6 * budget

def parseSigned (stop budget : Nat) (ts : List Located) : Parsed :=
  match budget with
  | 0 => .error .tooDeep
  | budget + 1 =>
      match ts with
      | ⟨.operator .sub, _⟩ :: rest => do
          let (inner, rest) ← parseSigned stop budget rest
          return (.negate inner, rest)
      | ⟨.operator .add, _⟩ :: rest => parseSigned stop budget rest
      | ts => parsePower stop budget ts
termination_by 6 * budget

def parsePower (stop budget : Nat) (ts : List Located) : Parsed := do
  let (base, rest) ← parsePrimary stop budget ts
  match rest with
  | ⟨.operator .pow, _⟩ :: rest =>
      let (exponent, rest) ← parseSigned stop budget rest
      return (.binary base .pow exponent, rest)
  | rest => return (base, rest)
termination_by 6 * budget + 5

def parsePrimary (stop budget : Nat) : List Located → Parsed
  | ⟨.number value, _⟩ :: rest => .ok (.number value, rest)
  | ⟨.openParen, _⟩ :: rest => do
      let (inner, rest) ← parseSum stop budget rest
      let rest ← closeParen stop rest
      return (inner, rest)
  | ⟨.name name, _⟩ :: rest =>
      if name = "x" then .ok (.var, rest)
      else
        match constant? name with
        | some value => .ok (.number value, rest)
        | none =>
            match Builtin.ofName? name with
            | none => .error (.unknownIdentifier name)
            | some function =>
                match rest with
                | ⟨.openParen, _⟩ :: rest => do
                    let (argument, rest) ← parseSum stop budget rest
                    let rest ← closeParen stop rest
                    return (.call function argument, rest)
                | _ => .error (.missingArgument name)
  | ts => .error (unexpected ts)
termination_by 6 * budget + 4

end

def parseTokens (stop : Nat) : List Located → Except SyntaxError Expr
  | [] => .error .empty
  | ts => do
      match ← parseSum stop maxDepth ts with
      | (expr, []) => return expr
      | (_, rest) => .error (unexpected rest)

def parse (text : String) : Except SyntaxError Expr := do
  let ts ← tokens text
  parseTokens (byteLength text.toList) ts

end PlotMarkup.Expr
