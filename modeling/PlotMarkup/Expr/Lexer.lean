import PlotMarkup.Expr.Token
import PlotMarkup.Number.Reading
import PlotMarkup.Text.Letter
import PlotMarkup.Text.Blank

/-!
# From text to tokens

White space separates tokens and is dropped.  A number is a run of digits and points, followed by
an exponent only where digits complete one, so that `2e` is a number and a name.
-/

namespace PlotMarkup

namespace Token

def ofChar? : Char → Option Token
  | '+' => some (.operator .add)
  | '-' => some (.operator .sub)
  | '*' => some (.operator .mul)
  | '/' => some (.operator .div)
  | '^' => some (.operator .pow)
  | '(' => some .openParen
  | ')' => some .closeParen
  | _ => none

def isNumberChar (c : Char) : Bool :=
  c.isDigit || c == '.'

def startsName (c : Char) : Bool :=
  Text.isLetter c || c == '_'

def isNameChar (c : Char) : Bool :=
  Text.isLetter c || Text.isNumeral c || c == '_'

/-- The sign and digits of an exponent, if there are digits, and what follows them. -/
def splitExponent? : List Char → Option (List Char × List Char)
  | [] => none
  | c :: rest =>
      let (sign, rest) := if c = '+' ∨ c = '-' then ([c], rest) else ([], c :: rest)
      let (digits, rest) := Number.splitDigits rest
      if digits = [] then none else some (sign ++ digits, rest)

/-- The exponent part of a number, its mark in lower case, and what follows it. -/
def splitMarkedExponent : List Char → List Char × List Char
  | [] => ([], [])
  | mark :: rest =>
      if mark = 'e' ∨ mark = 'E' then
        match splitExponent? rest with
        | some (exponent, rest) => ('e' :: exponent, rest)
        | none => ([], mark :: rest)
      else ([], mark :: rest)

def splitNumber (cs : List Char) : List Char × List Char :=
  let (exponent, rest) := splitMarkedExponent (cs.dropWhile isNumberChar)
  (cs.takeWhile isNumberChar ++ exponent, rest)

/-- The number a literal stands for; it has to be in the range of doubles. -/
def ofLiteral (literal : List Char) : Except SyntaxError Token :=
  match Number.readUnsigned? literal with
  | some value =>
      if value.isFinite then .ok (.number value) else .error (.invalidNumber (String.ofList literal))
  | none => .error (.invalidNumber (String.ofList literal))

/-! ## Every token is at least one character long -/

theorem length_dropWhile_le (p : Char → Bool) (cs : List Char) :
    (cs.dropWhile p).length ≤ cs.length :=
  (List.dropWhile_sublist p).length_le

theorem length_splitExponent? {cs exponent rest : List Char}
    (h : splitExponent? cs = some (exponent, rest)) : rest.length ≤ cs.length := by
  unfold splitExponent? at h
  split at h
  · simp at h
  · rename_i c tail
    simp only [Number.splitDigits] at h
    split at h <;> split at h <;> simp only [reduceCtorEq, Option.some.injEq, Prod.mk.injEq] at h
    all_goals
      rw [← h.2]
      exact Nat.le_trans (length_dropWhile_le ..) (by simp)

theorem length_splitMarkedExponent (cs : List Char) :
    (splitMarkedExponent cs).2.length ≤ cs.length := by
  unfold splitMarkedExponent
  split
  · simp
  · split
    · split
      · rename_i h
        have := length_splitExponent? h
        simp only [List.length_cons]
        omega
      · simp
    · simp

theorem length_splitNumber (cs : List Char) :
    (splitNumber cs).2.length ≤ (cs.dropWhile isNumberChar).length :=
  length_splitMarkedExponent _

end Token

namespace Expr

def byteLength (cs : List Char) : Nat :=
  cs.foldr (fun c size => c.utf8Size + size) 0

/-- The tokens of a text whose first byte has the given offset. -/
def tokensFrom (offset : Nat) : List Char → Except SyntaxError (List Located)
  | [] => .ok []
  | c :: rest =>
      match Token.ofChar? c with
      | some token => do
          let others ← tokensFrom (offset + 1) rest
          return ⟨token, offset⟩ :: others
      | none =>
          if Text.isBlank c then tokensFrom (offset + c.utf8Size) rest
          else if _ : Token.isNumberChar c then do
            let literal := (Token.splitNumber (c :: rest)).1
            let token ← Token.ofLiteral literal
            let others ← tokensFrom (offset + literal.length) (Token.splitNumber (c :: rest)).2
            return ⟨token, offset⟩ :: others
          else if Token.startsName c then do
            let name := c :: rest.takeWhile Token.isNameChar
            let others ← tokensFrom (offset + byteLength name) (rest.dropWhile Token.isNameChar)
            return ⟨.name (String.ofList name), offset⟩ :: others
          else .error (.unexpectedCharacter c offset)
termination_by cs => cs.length
decreasing_by
  · simp
  · simp
  · have := Token.length_splitNumber (c :: rest)
    have := Token.length_dropWhile_le Token.isNumberChar rest
    simp only [List.dropWhile_cons, ‹Token.isNumberChar c = true›, if_true] at *
    simp only [List.length_cons]
    omega
  · have := Token.length_dropWhile_le Token.isNameChar rest
    simp only [List.length_cons]
    omega

def tokens (text : String) : Except SyntaxError (List Located) :=
  tokensFrom 0 text.toList

end Expr

end PlotMarkup
