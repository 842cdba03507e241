import PlotMarkup.Proofs.Analysis.Domain
import PlotMarkup.Proofs.Expr.Literals
import PlotMarkup.Proofs.Expr.Numerals
import PlotMarkup.Proofs.Number.Names

namespace PlotMarkup

def Expr.ofNumber (x : Float) : Expr :=
  if 0 < x then .number x else if x < 0 then .negate (.number (-x)) else .number 0

namespace Grammar

variable {negative : Bool} {n : Number.Numeral}

def Sum.numeral (negative : Bool) (n : Number.Numeral) : Sum :=
  .chain (.chain (.numeral negative n) .nil) .nil

theorem Sum.word_numeral : (numeral negative n).word = (Signed.numeral negative n).word := by
  simp [numeral, Sum.word, Product.word, SumRest.word, ProductRest.word]

theorem Sum.within_numeral : Within maxDepth (numeral negative n).loads := by
  cases negative <;>
    simp [Within, numeral, Signed.numeral, Sum.loads, SumRest.loads, Product.loads,
      ProductRest.loads, Signed.loads, Power.loads, Primary.loads, maxDepth]

end Grammar

namespace Number

variable {x y : Float}

theorem neg_iff_quantity (finite : x.isFinite = true) : x < 0 ↔ quantity x < 0 := by
  rw [lt_iff finite (by decide), quantity_zero]

theorem Alike.quantity_eq (alike : Alike x y) (finite : y.isFinite = true) :
    quantity x = quantity y :=
  (beq_iff (alike.isFinite_eq.trans finite) finite).mp (alike.beq finite)

theorem IsZero.quantity_eq (zero : IsZero x) : quantity x = 0 := by
  have alike : Alike x 0 := .inr ⟨zero, .positive, rfl⟩
  rw [alike.quantity_eq (by decide), quantity_zero]

theorem finiteText_of_zero (zero : quantity x = 0) :
    finiteText .markup x = ['0'] := by
  have none : (magnitude x).significand = 0 := by
    rw [← Nat.le_zero, ← not_lt, ← Magnitude.quantity_pos_iff, ← abs_quantity, zero, abs_zero]
    exact lt_irrefl 0
  rw [finiteText, if_pos none]
  cases isNegative x <;> rfl

theorem reading_nonneg {n : Numeral} (finite : n.reading.isFinite = true) :
    0 ≤ quantity n.reading := by
  have nonneg := nonneg_of_readUnsigned? (readUnsigned?_chars n) finite
  rwa [le_iff (by decide) finite, quantity_zero] at nonneg

theorem tree_numeral {negative : Bool} {n : Numeral} (finite : n.reading.isFinite = true)
    (same : n.signed negative = x) (nonzero : quantity x ≠ 0) :
    (Grammar.Sum.numeral negative n).tree = Expr.ofNumber x := by
  subst same
  have nonneg := reading_nonneg finite
  cases negative with
  | false =>
      have above : 0 < n.reading := (pos_iff_quantity finite).mpr (nonneg.lt_of_ne' nonzero)
      exact (if_pos above).symm
  | true =>
      have finite' := isFinite_neg finite
      have below : quantity (-n.reading) < 0 := by
        refine lt_of_le_of_ne ?_ nonzero
        rw [quantity_neg finite]
        exact neg_nonpos.mpr nonneg
      show Expr.negate (.number n.reading) = Expr.ofNumber (-n.reading)
      rw [Expr.ofNumber, if_neg (mt (pos_iff_quantity finite').mp below.not_gt),
        if_pos ((neg_iff_quantity finite').mpr below), neg_neg_of_finite finite]

theorem parse_numeral (negative : Bool) (n : Numeral) (finite : x.isFinite = true)
    (spelled : finiteText .markup x = (if negative then ['-'] else []) ++ n.chars)
    (bounded : n.reading.isFinite = true) :
    Expr.parse (markup x) = .ok (Grammar.Sum.numeral negative n).tree := by
  have spells := Expr.spells_nil.numeral bounded (by simp [Token.Detached]) negative
  rw [List.append_nil, List.append_nil, ← spelled, ← toList_markup finite,
    ← Grammar.Sum.word_numeral] at spells
  exact Expr.parse_of_spells spells Grammar.Sum.within_numeral

theorem parse_markup (finite : x.isFinite = true) :
    Expr.parse (markup x) = .ok (.ofNumber x) := by
  by_cases zero : quantity x = 0
  · have tree : Expr.ofNumber x = .number 0 := by
      rw [Expr.ofNumber, if_neg (mt (pos_iff_quantity finite).mp zero.not_gt),
        if_neg (mt (neg_iff_quantity finite).mp zero.not_lt)]
    rw [tree]
    exact parse_numeral false (.ofFraction [] (List.forall_mem_nil _)) finite
      (finiteText_of_zero zero) (by decide)
  · obtain ⟨negative, n, spelled, bounded, alike⟩ := exists_spelling finite
    have same : n.signed negative = x :=
      alike.resolve_right fun zeros => zero zeros.2.quantity_eq
    rw [parse_numeral negative n finite spelled bounded, tree_numeral bounded same zero]

theorem read?_signed (negative : Bool) (n : Numeral) :
    read? (String.ofList ((if negative then ['-'] else []) ++ n.chars)) =
      some (n.signed negative) := by
  have read := readUnsigned?_chars n
  have digits := n.whole_digits
  obtain ⟨c, more, whole⟩ := List.exists_cons_of_ne_nil n.whole_ne_nil
  rw [whole] at digits
  have numeric := Token.isNumberChar_of_isDigit (digits c List.mem_cons_self)
  rw [Numeral.chars, whole] at read ⊢
  cases negative with
  | false => exact (Token.read?_of_isNumberChar numeric _).trans read
  | true =>
      unfold read? readChars?
      rw [String.toList_ofList]
      show Option.map _ (Option.or (readNamed? (c :: _)) (readUnsigned? _)) = _
      rw [Token.readNamed?_of_isNumberChar numeric, Option.none_or]
      exact congrArg (Option.map (- ·)) read

theorem isBlank_of_isDecimalChar {c : Char} (decimal : isDecimalChar c = true) :
    Text.isBlank c = false := by
  simp only [isDecimalChar, Bool.or_eq_true, decide_eq_true_eq, List.mem_cons, List.not_mem_nil,
    or_false] at decimal
  rcases decimal with digit | rfl | rfl | rfl | rfl | rfl
  · refine Bool.eq_false_iff.mpr fun blank => ?_
    obtain ⟨-, other, -⟩ := Token.kind_of_isBlank blank
    rw [Token.isNumberChar_of_isDigit digit] at other
    cases other
  all_goals decide

theorem exists_reads (finite : x.isFinite = true) :
    ∃ x', Domain.Reads (markup x) x' ∧ Alike x' x := by
  obtain ⟨negative, n, spelled, -, alike⟩ := exists_spelling finite
  have solid : ∀ c ∈ (markup x).toList, Text.isBlank c = false := by
    intro c member
    rw [toList_markup finite] at member
    exact isBlank_of_isDecimalChar (isDecimalChar_of_finiteText finite c member)
  have finite' := alike.isFinite_eq.trans finite
  refine ⟨n.signed negative, ⟨_, Text.trimmed_of_solid solid, ?_, finite'⟩, alike⟩
  rw [toList_markup finite, spelled, read?_signed]

theorem not_mem_colon_markup (finite : x.isFinite = true) : ':' ∉ (markup x).toList := by
  intro member
  rw [toList_markup finite] at member
  cases isDecimalChar_of_finiteText finite _ member

theorem exists_domain (finite : x.isFinite = true) (finite' : y.isFinite = true) (less : x < y) :
    ∃ domain, Domain.ofText (markup x ++ ":" ++ markup y) = .ok domain ∧ Alike domain.low x ∧
      Alike domain.high y := by
  obtain ⟨low, lower, alike⟩ := exists_reads finite
  obtain ⟨high, upper, alike'⟩ := exists_reads finite'
  refine ⟨⟨low, high⟩, Domain.ofText_eq_ok.mpr ⟨markup x, markup y, rfl,
    not_mem_colon_markup finite, not_mem_colon_markup finite', lower, upper, ?_⟩, alike, alike'⟩
  show low < high
  rw [lt_iff lower.isFinite upper.isFinite, alike.quantity_eq finite, alike'.quantity_eq finite',
    ← lt_iff finite finite']
  exact less

theorem beq_of_markup (finite : x.isFinite = true) (finite' : y.isFinite = true)
    (same : markup x = markup y) : (x == y) = true := by
  obtain ⟨value, read, alike⟩ := exists_reads finite
  obtain ⟨value', read', alike'⟩ := exists_reads finite'
  rw [same] at read
  obtain rfl : value = value' := Option.some_inj.mp
    ((Domain.readFinite?_eq_some.mpr read).symm.trans (Domain.readFinite?_eq_some.mpr read'))
  rw [beq_iff finite finite', ← alike.quantity_eq finite, alike'.quantity_eq finite']

/-- The markup of a finite number has the tree of the number, and with the markup of a greater one
it is a domain with these bounds.  Numbers with the same markup are equal. -/
theorem markup_read_back (finite : x.isFinite = true) (finite' : y.isFinite = true) :
    Formula.ofText (markup x) = .ok ⟨markup x, .ofNumber x⟩ ∧
    (x < y → ∃ domain, Domain.ofText (markup x ++ ":" ++ markup y) = .ok domain ∧
      Alike domain.low x ∧ Alike domain.high y) ∧
    (markup x = markup y → (x == y) = true) :=
  ⟨Formula.ofText_eq_ok.mpr ⟨rfl, parse_markup finite⟩, exists_domain finite finite',
    beq_of_markup finite finite'⟩

theorem markup_read_back_exponents :
    Formula.ofText "-1.5e-7" = .ok ⟨"-1.5e-7", .negate (.number 1.5e-7)⟩ ∧
      ∃ domain, Domain.ofText "-1.5e-7:1e+21" = .ok domain ∧ Alike domain.low (-1.5e-7) ∧
        Alike domain.high 1e21 := by
  obtain ⟨written, written'⟩ : markup (-1.5e-7) = "-1.5e-7" ∧ markup 1e21 = "1e+21" := by
    decide +kernel
  have tree : Expr.ofNumber (-1.5e-7) = .negate (.number 1.5e-7) := by
    rw [Expr.ofNumber, if_neg (by decide), if_pos (by decide), neg_neg_of_finite (by decide)]
  obtain ⟨formula, bounds, -⟩ := markup_read_back (x := -1.5e-7) (y := 1e21) (by decide) (by decide)
  rw [written, tree] at formula
  rw [written, written'] at bounds
  exact ⟨formula, bounds (by decide)⟩

end Number

end PlotMarkup
