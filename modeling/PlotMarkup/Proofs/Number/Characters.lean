import Mathlib.Data.List.TakeWhile
import PlotMarkup.Number.Reading

namespace PlotMarkup.Number

def isDecimalChar (c : Char) : Bool :=
  c.isDigit || c ∈ ['.', 'e', 'E', '+', '-']

theorem isDecimalChar_of_isDigit {c : Char} (digit : c.isDigit = true) : isDecimalChar c = true := by
  simp [isDecimalChar, digit]

theorem toNat_lt_of_isDecimalChar {c : Char} (decimal : isDecimalChar c = true) :
    c.toNat < 128 := by
  simp only [isDecimalChar, Bool.or_eq_true, decide_eq_true_eq, List.mem_cons, List.not_mem_nil,
    or_false] at decimal
  rcases decimal with digit | rfl | rfl | rfl | rfl | rfl
  · have below : c.toNat ≤ 57 := (Char.isDigit_iff_toNat.mp digit).2
    omega
  all_goals decide

variable {cs : List Char}

theorem isDecimalChar_of_splitSign (magnitude : ∀ c ∈ (splitSign cs).2, isDecimalChar c = true) :
    ∀ c ∈ cs, isDecimalChar c = true := by
  unfold splitSign at magnitude
  split at magnitude
  · exact List.forall_mem_cons.mpr ⟨by decide, magnitude⟩
  · exact List.forall_mem_cons.mpr ⟨by decide, magnitude⟩
  · exact magnitude

theorem isDecimalChar_of_splitDigits (rest : ∀ c ∈ (splitDigits cs).2, isDecimalChar c = true) :
    ∀ c ∈ cs, isDecimalChar c = true := by
  rw [← List.takeWhile_append_dropWhile (p := Char.isDigit) (l := cs)]
  refine List.forall_mem_append.mpr ⟨?_, rest⟩
  intro c member
  exact isDecimalChar_of_isDigit (List.mem_takeWhile_imp member)

theorem isDecimalChar_of_readExponent? {exponent : Int} (read : readExponent? cs = some exponent) :
    ∀ c ∈ cs, isDecimalChar c = true := by
  unfold readExponent? at read
  split at read
  · simp
  · rename_i mark rest
    split at read
    · rename_i marked
      dsimp only at read
      split at read
      · rename_i digits
        refine List.forall_mem_cons.mpr ⟨?_, isDecimalChar_of_splitSign fun c member => ?_⟩
        · rcases marked with rfl | rfl <;> decide
        · exact isDecimalChar_of_isDigit (List.all_eq_true.mp digits.2 c member)
      · cases read
    · cases read

theorem isDecimalChar_of_readUnsigned? {x : Float} (read : readUnsigned? cs = some x) :
    ∀ c ∈ cs, isDecimalChar c = true := by
  apply isDecimalChar_of_splitDigits
  have power {digits rest : List Char} {places : Int}
      (read : (if (splitDigits cs).1 = [] ∧ digits = [] then none
        else (readExponent? rest).map fun exponent =>
          ofDecimal (digitsValue ((splitDigits cs).1 ++ digits)) (exponent - places)) = some x) :
      ∀ c ∈ rest, isDecimalChar c = true := by
    split at read
    · cases read
    · obtain ⟨exponent, power, -⟩ := Option.map_eq_some_iff.mp read
      exact isDecimalChar_of_readExponent? power
  unfold readUnsigned? at read
  dsimp only at read
  split at read
  · rename_i rest point
    rw [point]
    exact List.forall_mem_cons.mpr ⟨by decide, isDecimalChar_of_splitDigits (power read)⟩
  · exact power read

theorem not_isFinite_of_readNamed? {x : Float} (read : readNamed? cs = some x) :
    x.isFinite = false ∧ (-x).isFinite = false := by
  unfold readNamed? at read
  split at read <;> cases read <;> decide +kernel

theorem isDecimalChar_of_readChars? {x : Float} (read : readChars? cs = some x)
    (finite : x.isFinite = true) : ∀ c ∈ cs, isDecimalChar c = true := by
  apply isDecimalChar_of_splitSign
  have unnamed {y : Float} (same : x = y ∨ x = -y)
      (read : (readNamed? (splitSign cs).2).or (readUnsigned? (splitSign cs).2) = some y) :
      ∀ c ∈ (splitSign cs).2, isDecimalChar c = true := by
    rcases Option.or_eq_some_iff.mp read with named | ⟨-, unsigned⟩
    · obtain ⟨infinite, infinite'⟩ := not_isFinite_of_readNamed? named
      rcases same with rfl | rfl
      · simp [finite] at infinite
      · simp [finite] at infinite'
    · exact isDecimalChar_of_readUnsigned? unsigned
  unfold readChars? at read
  dsimp only at read
  split at read
  · obtain ⟨y, magnitude, negated⟩ := Option.map_eq_some_iff.mp read
    exact unnamed (.inr negated.symm) magnitude
  · exact unnamed (.inl rfl) read

end PlotMarkup.Number
