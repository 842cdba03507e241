import PlotMarkup.Json.Token
import PlotMarkup.Json.Writer
import PlotMarkup.Proofs.Number.Numeral
import PlotMarkup.Proofs.Number.Shortest

namespace PlotMarkup.Json

open Number

def numeralValue (n : Numeral) (negative : Bool) : Json :=
  let s := Significand.addWhole ⟨0, 0⟩ n.whole
  if n.fraction = [] ∧ n.power = none ∧ s.exponent = 0 then wholeValue negative s.value
  else realValue negative (s.addFraction n.fraction) (n.power.getD 0)

theorem numeralValue_of_isReal {n : Numeral} (real : n.IsReal) (negative : Bool) :
    (∃ x, numeralValue n negative = .real x) ∨ numeralValue n negative = .malformed := by
  unfold numeralValue
  dsimp only
  rw [if_neg]
  · unfold realValue
    split
    · exact .inl ⟨_, rfl⟩
    · exact .inr rfl
  · rintro ⟨noFraction, noPower, -⟩
    rcases real with fraction | exponent
    · exact fraction noFraction
    · exact exponent (Option.map_eq_none_iff.mp noPower)

theorem readFraction?_append {digits rest : List Char} (all : ∀ c ∈ digits, c.isDigit = true)
    (stop : ∀ c ∈ rest.head?, c.isDigit = false ∧ c ≠ '.') :
    readFraction? (fractionChars digits ++ rest) = some (digits, rest) := by
  cases digits with
  | nil =>
      unfold readFraction? fractionChars
      split
      · rename_i tail same
        have point := (stop '.' (by rw [← List.nil_append rest, same]; rfl)).2
        exact absurd rfl point
      · rfl
  | cons digit digits =>
      show readFraction? ('.' :: (digit :: digits ++ rest)) = _
      rw [readFraction?, splitDigits_append all fun c first => (stop c first).1]
      rfl

theorem readExponent?_append {exponent : Option (Bool × Nat)} {rest : List Char}
    (stops : Stops rest) :
    readExponent? (exponentChars exponent ++ rest) =
      some (exponent.map fun (negative, places) => if negative then -(places : Int) else places,
        rest) := by
  have stop : ∀ c ∈ rest.head?, c.isDigit = false := fun c first => (stops c first).1
  cases exponent with
  | none =>
      cases rest with
      | nil => rfl
      | cons c rest =>
          have other := stops c rfl
          show readExponent? (c :: rest) = _
          rw [readExponent?, if_neg (not_or.mpr other.2.2)]
          rfl
  | some parts =>
      obtain ⟨negative, places⟩ := parts
      show readExponent? ('e' :: (if negative then '-' else '+') ::
        (Nat.toDigits 10 places ++ rest)) = _
      have sign : splitSign ((if negative then '-' else '+') :: (Nat.toDigits 10 places ++ rest)) =
          (negative, Nat.toDigits 10 places ++ rest) := by cases negative <;> rfl
      rw [readExponent?, if_pos (Or.inl rfl), sign]
      dsimp only
      rw [splitDigits_append (fun c => isDigit_toDigits) stop]
      dsimp only
      rw [if_neg Nat.toDigits_ne_nil]
      unfold digitsValue
      rw [Nat.ofDigitChars_toDigits (by decide) (by decide)]
      rfl

theorem readMagnitude?_append {n : Numeral} {rest : List Char} (stops : Stops rest)
    (negative : Bool) :
    readMagnitude? negative (n.chars ++ rest) = some (numeralValue n negative, rest) := by
  have afterWhole : splitDigits (n.chars ++ rest) =
      (n.whole, fractionChars n.fraction ++ (exponentChars n.exponent ++ rest)) := by
    unfold Numeral.chars
    rw [List.append_assoc, List.append_assoc]
    exact splitDigits_append n.whole_digits fun c first =>
      head?_fractionChars (fun c first => (head?_exponentChars stops first).1) first
  have wellFormed : ¬(n.whole = [] ∨ (n.whole.head? = some '0' ∧ 1 < n.whole.length)) := by
    rintro (empty | ⟨zero, long⟩)
    · exact n.whole_ne_nil empty
    · have := n.whole_plain zero
      omega
  unfold readMagnitude?
  rw [afterWhole]
  dsimp only
  rw [if_neg wellFormed,
    readFraction?_append n.fraction_digits fun c first => head?_exponentChars stops first]
  simp only [Option.bind_eq_bind, Option.bind_some]
  rw [readExponent?_append stops]
  simp only [Option.bind_some]
  unfold numeralValue Numeral.power
  dsimp only
  split <;> rfl

theorem readNumber?_append {n : Numeral} {rest : List Char} (stops : Stops rest)
    (negative : Bool) :
    readNumber? ((if negative then ['-'] else []) ++ n.chars ++ rest) =
      some (numeralValue n negative, rest) := by
  cases negative with
  | true => exact readMagnitude?_append stops true
  | false =>
      show readNumber? (n.chars ++ rest) = _
      rw [← readMagnitude?_append stops false]
      unfold readNumber?
      split
      · rename_i tail same
        obtain ⟨first, more, whole⟩ := List.exists_cons_of_ne_nil n.whole_ne_nil
        have digit : first.isDigit = true := n.whole_digits first (by simp [whole])
        simp only [Numeral.chars, whole, List.cons_append, List.cons.injEq] at same
        rw [same.1] at digit
        contradiction
      · rfl

theorem exists_numeral {x : Float} (finite : x.isFinite = true) :
    ∃ n : Numeral, realChars x = (if isNegative x then ['-'] else []) ++ n.chars ∧ n.IsReal := by
  unfold realChars
  rw [if_pos finite]
  unfold finiteText
  dsimp only
  split
  · refine ⟨.ofFraction ['0'] (isDigit_zeros 1), ?_, .inl (List.cons_ne_nil _ _)⟩
    simp [Numeral.chars, Numeral.ofFraction, fractionChars, exponentChars, Style.json]
  · rename_i nonzero
    obtain ⟨n, spelled, -, real⟩ := exists_decimal .json 1 rfl
      (Magnitude.shortest_pos Style.json.tie (positive_magnitude nonzero))
    exact ⟨n, by rw [spelled], real one_ne_zero⟩

def rereadReal (x : Float) : Json :=
  ((readNumber? (realChars x)).map Prod.fst).getD .null

theorem readNumber?_realChars {x : Float} {rest : List Char} (finite : x.isFinite = true)
    (stops : Stops rest) : readNumber? (realChars x ++ rest) = some (rereadReal x, rest) := by
  obtain ⟨n, spelled, -⟩ := exists_numeral finite
  have alone := readNumber?_append (n := n) stops_nil (isNegative x)
  rw [List.append_nil] at alone
  unfold rereadReal
  rw [spelled, readNumber?_append stops, alone]
  rfl

theorem rereadReal_cases {x : Float} (finite : x.isFinite = true) :
    (∃ y, rereadReal x = .real y) ∨ rereadReal x = .malformed := by
  obtain ⟨n, spelled, real⟩ := exists_numeral finite
  have alone := readNumber?_append (n := n) stops_nil (isNegative x)
  rw [List.append_nil] at alone
  unfold rereadReal
  rw [spelled, alone]
  exact numeralValue_of_isReal real (isNegative x)

theorem realChars_of_not_finite {x : Float} (infinite : x.isFinite = false) :
    realChars x = "null".toList := by
  simp [realChars, infinite]

theorem rereadReal_of_not_finite {x : Float} (infinite : x.isFinite = false) :
    rereadReal x = .null := by
  unfold rereadReal
  rw [realChars_of_not_finite infinite]
  rfl

def wholeNumeral (n : Nat) : Numeral where
  whole := Nat.toDigits 10 n
  fraction := []
  exponent := none
  whole_ne_nil := Nat.toDigits_ne_nil
  whole_digits := fun c => isDigit_toDigits
  whole_plain := by
    rcases Nat.eq_zero_or_pos n with zero | pos
    · rw [zero, Nat.toDigits_zero]
      exact fun _ => rfl
    · exact fun zero => absurd zero (head?_toDigits pos)
  fraction_digits := fun c member => absurd member List.not_mem_nil

theorem integerChars_eq (value : Int) : integerChars value =
    (if decide (value < 0) then ['-'] else []) ++ (wholeNumeral value.natAbs).chars := by
  simp [integerChars, Numeral.chars, wholeNumeral, fractionChars, exponentChars]

def rereadInteger (value : Int) : Json :=
  ((readNumber? (integerChars value)).map Prod.fst).getD .null

theorem rereadInteger_eq (value : Int) :
    rereadInteger value = numeralValue (wholeNumeral value.natAbs) (decide (value < 0)) := by
  have alone := readNumber?_append (n := wholeNumeral value.natAbs) stops_nil (decide (value < 0))
  rw [List.append_nil] at alone
  rw [rereadInteger, integerChars_eq, alone]
  rfl

theorem readNumber?_integerChars {value : Int} {rest : List Char} (stops : Stops rest) :
    readNumber? (integerChars value ++ rest) = some (rereadInteger value, rest) := by
  rw [rereadInteger_eq, integerChars_eq, readNumber?_append stops]

end PlotMarkup.Json
