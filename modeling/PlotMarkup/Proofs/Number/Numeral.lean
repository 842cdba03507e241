import Mathlib.Tactic.FieldSimp
import Mathlib.Tactic.Ring
import PlotMarkup.Number.Reading
import PlotMarkup.Number.Text

namespace PlotMarkup.Number

def fractionChars : List Char → List Char
  | [] => []
  | digits => '.' :: digits

def exponentChars : Option (Bool × Nat) → List Char
  | none => []
  | some (negative, places) => 'e' :: (if negative then '-' else '+') :: Nat.toDigits 10 places

/-- A spelled number without its sign; a zero leads its whole digits only if it is alone. -/
structure Numeral where
  whole : List Char
  fraction : List Char
  exponent : Option (Bool × Nat)
  whole_ne_nil : whole ≠ []
  whole_digits : ∀ c ∈ whole, c.isDigit = true
  whole_plain : whole.head? = some '0' → whole.length = 1
  fraction_digits : ∀ c ∈ fraction, c.isDigit = true

namespace Numeral

def chars (n : Numeral) : List Char :=
  n.whole ++ fractionChars n.fraction ++ exponentChars n.exponent

def power (n : Numeral) : Option Int :=
  n.exponent.map fun (negative, places) => if negative then -(places : Int) else places

def IsReal (n : Numeral) : Prop :=
  n.fraction ≠ [] ∨ n.exponent ≠ none

def coefficient (n : Numeral) : Nat :=
  digitsValue (n.whole ++ n.fraction)

def place (n : Numeral) : Int :=
  n.power.getD 0 - n.fraction.length

def quantity (n : Numeral) : ℚ :=
  n.coefficient * 10 ^ n.place

def reading (n : Numeral) : Float :=
  ofDecimal n.coefficient n.place

end Numeral

def Stops (rest : List Char) : Prop :=
  ∀ c ∈ rest.head?, c.isDigit = false ∧ c ≠ '.' ∧ c ≠ 'e' ∧ c ≠ 'E'

theorem stops_nil : Stops [] := by
  intro c member
  cases member

theorem stops_cons {c : Char} {rest : List Char}
    (other : c.isDigit = false ∧ c ≠ '.' ∧ c ≠ 'e' ∧ c ≠ 'E') : Stops (c :: rest) := by
  intro first member
  cases member
  exact other

theorem splitDigits_append {digits rest : List Char} (all : ∀ c ∈ digits, c.isDigit = true)
    (stop : ∀ c ∈ rest.head?, c.isDigit = false) :
    splitDigits (digits ++ rest) = (digits, rest) := by
  unfold splitDigits
  rw [List.takeWhile_append_of_pos all, List.dropWhile_append_of_pos all]
  cases rest with
  | nil => simp
  | cons c rest => simp [stop c rfl]

theorem isDigit_toDigits {n : Nat} {c : Char} (member : c ∈ Nat.toDigits 10 n) :
    c.isDigit = true :=
  Nat.isDigit_of_mem_toDigits (by decide) (by decide) member

theorem head?_toDigits {n : Nat} (pos : 0 < n) : (Nat.toDigits 10 n).head? ≠ some '0' := by
  induction n using Nat.strongRecOn with
  | ind n step =>
      rw [Nat.toDigits_eq_if (by decide)]
      split
      · have nonzero : n ≠ 0 := by omega
        simpa using nonzero
      · obtain ⟨first, more, leading⟩ :=
          List.exists_cons_of_ne_nil (Nat.toDigits_ne_nil (n := n / 10) (b := 10))
        have plain := step (n / 10) (by omega) (by omega)
        rw [leading] at plain ⊢
        exact plain

theorem isDigit_zeros (count : Nat) : ∀ c ∈ List.replicate count '0', c.isDigit = true := by
  intro c member
  rw [List.eq_of_mem_replicate member]
  rfl

theorem digitsValue_toDigits (n : Nat) : digitsValue (Nat.toDigits 10 n) = n :=
  Nat.ofDigitChars_ten_toDigits

theorem digitsValue_append_zeros (digits : List Char) (count : Nat) :
    digitsValue (digits ++ List.replicate count '0') = digitsValue digits * 10 ^ count := by
  unfold digitsValue
  rw [Nat.ofDigitChars_append, Nat.ofDigitChars_replicate_zero, Nat.mul_comm]

theorem digitsValue_zeros_append (digits : List Char) (count : Nat) :
    digitsValue (List.replicate count '0' ++ digits) = digitsValue digits := by
  unfold digitsValue
  rw [Nat.ofDigitChars_append, Nat.ofDigitChars_replicate_zero, Nat.mul_zero]

theorem fractionChars_of_ne_nil {digits : List Char} (nonempty : digits ≠ []) :
    fractionChars digits = '.' :: digits := by
  cases digits with
  | nil => contradiction
  | cons digit digits => rfl

theorem head?_fractionChars {digits rest : List Char} {c : Char}
    (stop : ∀ c ∈ rest.head?, c.isDigit = false)
    (first : c ∈ (fractionChars digits ++ rest).head?) : c.isDigit = false := by
  cases digits with
  | nil => exact stop c first
  | cons digit digits =>
      cases first
      rfl

theorem head?_exponentChars {exponent : Option (Bool × Nat)} {rest : List Char} {c : Char}
    (stops : Stops rest) (first : c ∈ (exponentChars exponent ++ rest).head?) :
    c.isDigit = false ∧ c ≠ '.' := by
  cases exponent with
  | none => exact ⟨(stops c first).1, (stops c first).2.1⟩
  | some parts =>
      cases first
      decide

def Numeral.ofFraction (fraction : List Char) (digits : ∀ c ∈ fraction, c.isDigit = true) :
    Numeral where
  whole := ['0']
  fraction := fraction
  exponent := none
  whole_ne_nil := List.cons_ne_nil _ _
  whole_digits := isDigit_zeros 1
  whole_plain := fun _ => rfl
  fraction_digits := digits

theorem Numeral.coefficient_ofFraction {fraction : List Char}
    (digits : ∀ c ∈ fraction, c.isDigit = true) :
    (ofFraction fraction digits).coefficient = digitsValue fraction :=
  digitsValue_zeros_append fraction 1

section Spelling

variable {first : Char} {more : List Char} (digit : first.isDigit = true) (nonzero : first ≠ '0')
  (digits : ∀ c ∈ more, c.isDigit = true)

def Numeral.leading (fraction : List Char) (exponent : Option (Bool × Nat))
    (fractionDigits : ∀ c ∈ fraction, c.isDigit = true) : Numeral where
  whole := first :: more
  fraction := fraction
  exponent := exponent
  whole_ne_nil := List.cons_ne_nil _ _
  whole_digits := List.forall_mem_cons.mpr ⟨digit, digits⟩
  whole_plain := fun zero => absurd (Option.some.inj zero) nonzero
  fraction_digits := fractionDigits

include digit nonzero digits

theorem exists_positional {wholeMark : String} {count : Nat}
    (marked : wholeMark.toList = fractionChars (List.replicate count '0')) (exponent : Int) :
    ∃ n : Numeral, positionalText wholeMark (first :: more) exponent = n.chars ∧
      n.quantity = digitsValue (first :: more) * 10 ^ exponent ∧ (count ≠ 0 → n.IsReal) := by
  unfold positionalText
  split
  · rename_i whole
    have all : ∀ c ∈ more ++ List.replicate exponent.toNat '0', c.isDigit = true :=
      List.forall_mem_append.mpr ⟨digits, isDigit_zeros _⟩
    refine ⟨.leading digit nonzero all (List.replicate count '0') none (isDigit_zeros count), ?_,
      ?_, fun some => .inl (by simpa [Numeral.leading] using some)⟩
    · simp [Numeral.chars, Numeral.leading, marked, exponentChars]
    · have power : (10 : ℚ) ^ exponent = 10 ^ exponent.toNat := by
        rw [← zpow_natCast, Int.toNat_of_nonneg whole]
      have value : (Numeral.leading digit nonzero all (List.replicate count '0') none
          (isDigit_zeros count)).coefficient =
            digitsValue (first :: more) * 10 ^ exponent.toNat * 10 ^ count := by
        rw [← digitsValue_append_zeros, ← digitsValue_append_zeros]
        rfl
      unfold Numeral.quantity
      rw [value, power]
      simp [Numeral.place, Numeral.power, Numeral.leading]
  · dsimp only
    split
    · rename_i negative short
      obtain ⟨point, inside⟩ : ∃ point, (first :: more).length - (-exponent).toNat = point + 1 :=
        ⟨(first :: more).length - (-exponent).toNat - 1, by omega⟩
      have cut : point < more.length := by
        rw [List.length_cons] at inside
        omega
      have left : more.drop point ≠ [] := by
        rw [ne_eq, List.drop_eq_nil_iff]
        omega
      have whole : ∀ c ∈ more.take point, c.isDigit = true :=
        fun c member => digits c (List.mem_of_mem_take member)
      refine ⟨.leading digit nonzero whole (more.drop point) none
        fun c member => digits c (List.mem_of_mem_drop member), ?_, ?_, fun _ => .inl left⟩
      · rw [inside, List.take_succ_cons, List.drop_succ_cons]
        simp [Numeral.chars, Numeral.leading, fractionChars_of_ne_nil left, exponentChars]
      · have place : (0 : Int) - (more.drop point).length = exponent := by
          rw [List.length_cons] at inside
          rw [List.length_drop]
          omega
        simp [Numeral.quantity, Numeral.coefficient, Numeral.place, Numeral.power, Numeral.leading,
          ← place]
    · rename_i negative long
      have fraction : ∀ c ∈ List.replicate ((-exponent).toNat - (first :: more).length) '0' ++
          first :: more, c.isDigit = true :=
        List.forall_mem_append.mpr
          ⟨isDigit_zeros _, List.forall_mem_cons.mpr ⟨digit, digits⟩⟩
      refine ⟨.ofFraction _ fraction, ?_, ?_, fun _ => .inl (by simp [Numeral.ofFraction])⟩
      · simp [Numeral.chars, Numeral.ofFraction, fractionChars_of_ne_nil, exponentChars]
      · have place : (Numeral.ofFraction _ fraction).place = exponent := by
          simp only [Numeral.place, Numeral.power, Numeral.ofFraction, Option.map_none,
            Option.getD_none, List.length_append, List.length_replicate]
          omega
        unfold Numeral.quantity
        rw [place, Numeral.coefficient_ofFraction, digitsValue_zeros_append]

theorem exists_exponent (leading : Int) :
    ∃ n : Numeral, exponentText (first :: more) leading = n.chars ∧
      n.quantity = digitsValue (first :: more) * 10 ^ (leading - more.length) ∧ n.IsReal := by
  refine ⟨.leading digit nonzero (fun c (member : c ∈ []) => absurd member List.not_mem_nil) more
    (some (leading < 0, leading.natAbs)) digits, ?_, ?_, .inr (Option.some_ne_none _)⟩
  · unfold exponentText
    cases more <;> simp [Numeral.chars, Numeral.leading, fractionChars, exponentChars]
  · have power : (if decide (leading < 0) = true then -(leading.natAbs : Int) else leading.natAbs) =
        leading := by
      simp only [decide_eq_true_eq]
      split <;> omega
    unfold Numeral.quantity Numeral.coefficient Numeral.place Numeral.power
    dsimp only [Numeral.leading, Option.map_some, Option.getD_some]
    rw [power]
    rfl

end Spelling

theorem exists_decimal (style : Style) (count : Nat)
    (marked : style.wholeMark.toList = fractionChars (List.replicate count '0')) {d : Decimal}
    (pos : 0 < d.digits) :
    ∃ n : Numeral, d.text style = n.chars ∧ n.quantity = d.digits * 10 ^ d.exponent ∧
      (count ≠ 0 → n.IsReal) := by
  obtain ⟨first, more, spelled⟩ :=
    List.exists_cons_of_ne_nil (Nat.toDigits_ne_nil (n := d.digits) (b := 10))
  have all : ∀ c ∈ first :: more, c.isDigit = true := by
    rw [← spelled]
    exact fun c => isDigit_toDigits
  have nonzero : first ≠ '0' := by
    have plain := head?_toDigits pos
    rw [spelled] at plain
    exact fun zero => plain (congrArg some zero)
  have value : digitsValue (first :: more) = d.digits := by
    rw [← spelled, digitsValue_toDigits]
  obtain ⟨digit, digits⟩ := List.forall_mem_cons.mp all
  unfold Decimal.text
  dsimp only
  rw [spelled, ← value]
  split
  · exact exists_positional digit nonzero digits marked d.exponent
  · obtain ⟨n, chars, quantity, real⟩ := exists_exponent digit nonzero digits
      (d.exponent + (first :: more).length - 1)
    have place : d.exponent + (first :: more).length - 1 - more.length = d.exponent := by
      rw [List.length_cons]
      omega
    exact ⟨n, chars, by rw [quantity, place], fun _ => real⟩

theorem readExponent?_chars (n : Numeral) :
    readExponent? (exponentChars n.exponent) = some (n.power.getD 0) := by
  unfold Numeral.power
  cases n.exponent with
  | none => rfl
  | some parts =>
      obtain ⟨negative, places⟩ := parts
      have sign : splitSign ((if negative then '-' else '+') :: Nat.toDigits 10 places) =
          (negative, Nat.toDigits 10 places) := by cases negative <;> rfl
      have digits : Nat.toDigits 10 places ≠ [] ∧ (Nat.toDigits 10 places).all Char.isDigit :=
        ⟨Nat.toDigits_ne_nil, List.all_eq_true.mpr fun c => isDigit_toDigits⟩
      unfold exponentChars readExponent?
      simp only [true_or, if_true, sign, if_pos digits, digitsValue_toDigits]
      rfl

theorem readUnsigned?_of_split {cs whole fraction rest : List Char}
    (split : splitDigits cs = (whole, fractionChars fraction ++ rest)) (nonempty : whole ≠ [])
    (digits : ∀ c ∈ fraction, c.isDigit = true)
    (stop : ∀ c ∈ rest.head?, c.isDigit = false ∧ c ≠ '.') :
    readUnsigned? cs = (readExponent? rest).map fun exponent =>
      ofDecimal (digitsValue (whole ++ fraction)) (exponent - fraction.length) := by
  unfold readUnsigned?
  rw [split]
  cases fraction with
  | nil =>
      dsimp only [fractionChars, List.nil_append]
      split
      · exact absurd rfl (stop '.' rfl).2
      · exact if_neg fun none => nonempty none.1
  | cons digit more =>
      have afterPoint := splitDigits_append digits fun c first => (stop c first).1
      dsimp only [fractionChars, List.cons_append] at afterPoint ⊢
      split
      · rename_i tail same
        rw [← (List.cons.inj same).2, afterPoint]
        exact if_neg fun none => nonempty none.1
      · rename_i other
        exact absurd rfl (other _)

theorem readUnsigned?_chars (n : Numeral) :
    readUnsigned? n.chars = some n.reading := by
  have stop : ∀ c ∈ (exponentChars n.exponent).head?, c.isDigit = false ∧ c ≠ '.' := by
    intro c first
    rw [← List.append_nil (exponentChars _)] at first
    exact head?_exponentChars stops_nil first
  have split : splitDigits n.chars =
      (n.whole, fractionChars n.fraction ++ exponentChars n.exponent) := by
    unfold Numeral.chars
    rw [List.append_assoc]
    exact splitDigits_append n.whole_digits fun c =>
      head?_fractionChars fun c first => (stop c first).1
  rw [readUnsigned?_of_split split n.whole_ne_nil n.fraction_digits stop, readExponent?_chars]
  rfl

end PlotMarkup.Number
