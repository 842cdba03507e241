import PlotMarkup.Proofs.Expr.Lexemes
import PlotMarkup.Proofs.Number.Reading

namespace PlotMarkup

namespace Number

variable {cs : List Char} {x : Float}

theorem exists_ofDecimal (read : readUnsigned? cs = some x) :
    ∃ coefficient scale, x = ofDecimal coefficient scale := by
  unfold readUnsigned? at read
  dsimp only at read
  split at read
  · split at read
    · cases read
    · obtain ⟨exponent, -, same⟩ := Option.map_eq_some_iff.mp read
      exact ⟨_, _, same.symm⟩
  · split at read
    · cases read
    · obtain ⟨exponent, -, same⟩ := Option.map_eq_some_iff.mp read
      exact ⟨_, _, same.symm⟩

theorem nonneg_of_readUnsigned? (read : readUnsigned? cs = some x) (finite : x.isFinite = true) :
    0 ≤ x := by
  obtain ⟨coefficient, scale, rfl⟩ := exists_ofDecimal read
  have decimal : (0 : ℚ) ≤ coefficient * 10 ^ scale := by positivity
  rw [le_iff (by decide) finite, quantity_zero]
  exact (rounds_ofDecimal coefficient scale).quantity_nonneg finite decimal

theorem splitDigits_append_cons (digits rest : List Char) {c : Char} (plain : c.isDigit = false) :
    splitDigits (digits ++ c :: rest) =
      ((splitDigits digits).1, (splitDigits digits).2 ++ c :: rest) := by
  induction digits with
  | nil => simp [splitDigits, plain]
  | cons digit digits ih =>
      unfold splitDigits at ih ⊢
      obtain ⟨taken, dropped⟩ := Prod.mk.inj ih
      cases numeric : digit.isDigit with
      | false => simp [numeric]
      | true => simp [numeric, taken, dropped]

end Number

namespace Token

open Number

variable {c : Char} {digits rest : List Char} {value : Float}

theorem splitDigits_cases (all : ∀ c ∈ digits, isNumberChar c = true) :
    (splitDigits digits).2 = [] ∨
      ∃ tail, (splitDigits digits).2 = '.' :: tail ∧ ∀ c ∈ tail, isNumberChar c = true := by
  have ends := ends_dropWhile Char.isDigit digits
  have inside := (List.dropWhile_suffix Char.isDigit (l := digits)).subset
  show digits.dropWhile Char.isDigit = [] ∨
    ∃ tail, digits.dropWhile Char.isDigit = '.' :: tail ∧ _
  cases left : digits.dropWhile Char.isDigit with
  | nil => exact .inl rfl
  | cons c tail =>
      rw [left] at ends inside
      have point : c = '.' := by
        have numeric := all c (inside List.mem_cons_self)
        simpa [isNumberChar, ends c rfl] using numeric
      rw [point]
      exact .inr ⟨tail, rfl, fun c member => all c (inside (List.mem_cons_of_mem _ member))⟩

theorem readUnsigned?_upper (all : ∀ c ∈ digits, isNumberChar c = true) (rest : List Char) :
    readUnsigned? (digits ++ 'E' :: rest) = readUnsigned? (digits ++ 'e' :: rest) := by
  have split (mark : Char) (plain : mark.isDigit = false) (digits : List Char) :=
    splitDigits_append_cons digits rest plain
  unfold readUnsigned?
  rw [split 'E' rfl, split 'e' rfl]
  rcases splitDigits_cases all with none | ⟨tail, point, all⟩
  · simp only [none, List.nil_append]
    rfl
  · simp only [point, List.cons_append]
    rw [split 'E' rfl, split 'e' rfl]
    rcases splitDigits_cases all with none | ⟨more, point, -⟩
    · simp only [none, List.nil_append]
      rfl
    · -- A second point ends the decimal, so that the mark is not reached.
      simp only [point, List.cons_append]
      rfl

theorem toLower_of_isNumberChar (numeric : isNumberChar c = true) : c.toLower = c := by
  have table : ∀ n ∈ 46 :: List.range' 48 10, (Char.ofNat n).toLower = Char.ofNat n := by
    decide +kernel
  have found := table c.toNat (code_of_isNumberChar numeric)
  rwa [Char.ofNat_toNat] at found

theorem readNamed?_of_isNumberChar (numeric : isNumberChar c = true) (cs : List Char) :
    readNamed? (c :: cs) = none := by
  have apart (name : String) (letter : isNumberChar (name.toList.headD 'a') = false) :
      String.ofList ((c :: cs).map Char.toLower) ≠ name := by
    rintro rfl
    simp [toLower_of_isNumberChar numeric, numeric] at letter
  unfold readNamed?
  split
  · exact absurd ‹_› (apart "nan" (by decide))
  · exact absurd ‹_› (apart "inf" (by decide))
  · exact absurd ‹_› (apart "infinity" (by decide))
  · rfl

theorem read?_of_isNumberChar (numeric : isNumberChar c = true) (cs : List Char) :
    read? (String.ofList (c :: cs)) = readUnsigned? (c :: cs) := by
  have unsigned : splitSign (c :: cs) = (false, c :: cs) := by
    unfold splitSign
    split
    · rename_i same
      cases same
      cases numeric
    · rename_i same
      cases same
      cases numeric
    · rfl
  unfold read? readChars?
  rw [String.toList_ofList, unsigned]
  simp [readNamed?_of_isNumberChar numeric]

theorem PowerPart.readUnsigned? {written literal : List Char}
    (part : PowerPart written literal rest) (all : ∀ c ∈ digits, isNumberChar c = true) :
    Number.readUnsigned? (digits ++ written) = Number.readUnsigned? (digits ++ literal) := by
  cases part with
  | none ends incomplete => rfl
  | some marked complete =>
      rcases marked with rfl | rfl
      · rfl
      · exact readUnsigned?_upper all _

theorem Lexeme.reading {lexeme : List Char} (found : Lexeme (.number value) lexeme rest) :
    Number.read? (String.ofList lexeme) = some value ∧ value.isFinite = true ∧ 0 ≤ value := by
  cases found with
  | symbol known =>
      unfold ofChar? at known
      split at known <;> cases known
  | number nonempty all part read finite =>
      refine ⟨?_, finite, nonneg_of_readUnsigned? read finite⟩
      rw [← part.readUnsigned? all] at read
      rw [← read]
      obtain ⟨c, digits, rfl⟩ := List.exists_cons_of_ne_nil nonempty
      exact read?_of_isNumberChar (all c List.mem_cons_self) _

end Token

end PlotMarkup
