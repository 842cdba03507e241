import PlotMarkup.Json.Scalar

/-!
# JSON tokens

A document is a list of tokens with blanks between them.  Texts are tokens of their own, since a
text can be a value or a key.
-/

namespace PlotMarkup.Json

inductive Token where
  | openBrace
  | closeBrace
  | openBracket
  | closeBracket
  | comma
  | colon
  /-- A text, unless half of a surrogate pair keeps it from being one. -/
  | text (value : Option String)
  /-- A value of a single token that is not a text. -/
  | literal (value : Json)
deriving Inhabited

def isSpace (c : Char) : Bool :=
  c == ' ' || c == '\n' || c == '\t' || c == '\r'

def Token.read? (c : Char) (rest : List Char) : Option (Token × List Char) :=
  match c with
  | '\x7B' => some (.openBrace, rest)
  | '\x7D' => some (.closeBrace, rest)
  | '[' => some (.openBracket, rest)
  | ']' => some (.closeBracket, rest)
  | ',' => some (.comma, rest)
  | ':' => some (.colon, rest)
  | '"' => (readUnits? rest).map fun (units, rest) =>
      (.text ((joinUnits? units).map String.ofList), rest)
  | 'n' =>
      match rest with
      | 'u' :: 'l' :: 'l' :: rest => some (.literal .null, rest)
      | _ => none
  | 't' =>
      match rest with
      | 'r' :: 'u' :: 'e' :: rest => some (.literal (.bool true), rest)
      | _ => none
  | 'f' =>
      match rest with
      | 'a' :: 'l' :: 's' :: 'e' :: rest => some (.literal (.bool false), rest)
      | _ => none
  | c => (readNumber? (c :: rest)).map fun (value, rest) => (.literal value, rest)

/-! ## Every token is at least one character long -/

theorem length_splitDigits (cs : List Char) :
    (Number.splitDigits cs).1.length + (Number.splitDigits cs).2.length = cs.length := by
  rw [← List.length_append]
  exact congrArg List.length List.takeWhile_append_dropWhile

theorem length_readUnits? {cs rest : List Char} {units : List TextUnit}
    (h : readUnits? cs = some (units, rest)) : rest.length < cs.length := by
  fun_induction readUnits? cs generalizing units rest with
  | case1 => simp at h
  | case2 tail => simp at h; simp [h.2]
  | case3 a b c d tail ih =>
      simp only [Option.bind_eq_bind, Option.bind_eq_some_iff] at h
      obtain ⟨_, _, ⟨us, r⟩, hr, h⟩ := h
      have := ih hr
      cases h
      simp only [List.length_cons]
      omega
  | case4 letter tail _ ih =>
      simp only [Option.bind_eq_bind, Option.bind_eq_some_iff] at h
      obtain ⟨_, _, ⟨us, r⟩, hr, h⟩ := h
      have := ih hr
      cases h
      simp only [List.length_cons]
      omega
  | case5 => simp at h
  | case6 c tail _ _ _ _ ih =>
      simp only [Option.bind_eq_bind, Option.bind_eq_some_iff] at h
      obtain ⟨⟨us, r⟩, hr, h⟩ := h
      have := ih hr
      cases h
      simp only [List.length_cons]
      omega

theorem length_readFraction? {cs digits rest : List Char}
    (h : readFraction? cs = some (digits, rest)) : rest.length ≤ cs.length := by
  unfold readFraction? at h
  split at h
  · rename_i tail
    have total := length_splitDigits tail
    split at h
    rename_i first second parts
    rw [parts] at total
    dsimp only at total
    split at h
    · simp at h
    · simp only [Option.some.injEq, Prod.mk.injEq] at h
      simp only [List.length_cons, ← h.2]
      omega
  · simp only [Option.some.injEq, Prod.mk.injEq] at h
    simp [h.2]

theorem length_splitSign (cs : List Char) : (Number.splitSign cs).2.length ≤ cs.length := by
  unfold Number.splitSign
  split <;> simp

theorem length_readExponent? {cs rest : List Char} {exponent : Option Int}
    (h : readExponent? cs = some (exponent, rest)) : rest.length ≤ cs.length := by
  unfold readExponent? at h
  split at h
  · simp_all
  · rename_i mark tail
    split at h
    · have signed := length_splitSign tail
      have digits := length_splitDigits (Number.splitSign tail).2
      dsimp only at h
      split at h
      · simp at h
      · simp only [Option.some.injEq, Prod.mk.injEq] at h
        simp only [List.length_cons, ← h.2]
        omega
    · simp only [Option.some.injEq, Prod.mk.injEq] at h
      simp [← h.2]

theorem length_readMagnitude? {negative : Bool} {cs rest : List Char} {value : Json}
    (h : readMagnitude? negative cs = some (value, rest)) : rest.length < cs.length := by
  have total := length_splitDigits cs
  unfold readMagnitude? at h
  dsimp only at h
  split at h
  · simp at h
  · rename_i nonempty
    have : 0 < (Number.splitDigits cs).1.length := by
      apply List.length_pos_iff.mpr
      intro empty
      exact nonempty (.inl empty)
    simp only [Option.bind_eq_bind, Option.bind_eq_some_iff] at h
    obtain ⟨⟨fraction, afterFraction⟩, hf, ⟨exponent, afterExponent⟩, he, h⟩ := h
    dsimp only at he
    have := length_readFraction? hf
    have := length_readExponent? he
    split at h <;>
      · simp only [Option.some.injEq, Prod.mk.injEq] at h
        rw [← h.2]
        omega

theorem length_readNumber? {cs rest : List Char} {value : Json}
    (h : readNumber? cs = some (value, rest)) : rest.length < cs.length := by
  unfold readNumber? at h
  split at h
  · have := length_readMagnitude? h
    simp only [List.length_cons]
    omega
  · exact length_readMagnitude? h

theorem Token.length_read? {c : Char} {cs rest : List Char} {token : Token}
    (h : Token.read? c cs = some (token, rest)) : rest.length ≤ cs.length := by
  unfold Token.read? at h
  split at h
  case h_7 =>
    obtain ⟨⟨units, after⟩, hr, h⟩ := Option.map_eq_some_iff.mp h
    cases h
    exact Nat.le_of_lt (length_readUnits? hr)
  case h_11 =>
    obtain ⟨⟨value, after⟩, hr, h⟩ := Option.map_eq_some_iff.mp h
    cases h
    have := length_readNumber? hr
    simp only [List.length_cons] at this
    omega
  all_goals (repeat' split at h) <;> simp at h
  all_goals simp only [← h.2, List.length_cons]
  all_goals omega

def tokens? : List Char → Option (List Token)
  | [] => some []
  | c :: rest =>
      if isSpace c then tokens? rest
      else
        match h : Token.read? c rest with
        | some (token, rest') =>
            have := Token.length_read? h
            (tokens? rest').map (token :: ·)
        | none => none
termination_by cs => cs.length

end PlotMarkup.Json
