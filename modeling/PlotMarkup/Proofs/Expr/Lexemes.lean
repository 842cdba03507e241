import Mathlib.Data.List.TakeWhile
import PlotMarkup.Expr.Lexer
import PlotMarkup.Proofs.Number.Characters
import PlotMarkup.Proofs.Outcome

namespace PlotMarkup

namespace Text

def blankCodes : List Nat :=
  [0x9, 0xA, 0xB, 0xC, 0xD, 0x20, 0x85, 0xA0, 0x1680, 0x2000, 0x2001, 0x2002, 0x2003, 0x2004,
    0x2005, 0x2006, 0x2007, 0x2008, 0x2009, 0x200A, 0x2028, 0x2029, 0x202F, 0x205F, 0x3000]

theorem mem_blankCodes {c : Char} (blank : isBlank c = true) : c.toNat ∈ blankCodes := by
  simp only [isBlank, Bool.or_eq_true, Bool.and_eq_true, decide_eq_true_eq, beq_iff_eq] at blank
  simp only [blankCodes, List.mem_cons, List.not_mem_nil, or_false]
  omega

end Text

namespace Token

variable {c : Char} {t : Token}

theorem kind_of_isBlank (blank : Text.isBlank c = true) :
    ofChar? c = none ∧ isNumberChar c = false ∧ isNameChar c = false := by
  have table : ∀ n ∈ Text.blankCodes, ofChar? (Char.ofNat n) = none ∧
      isNumberChar (Char.ofNat n) = false ∧ isNameChar (Char.ofNat n) = false := by decide +kernel
  have found := table c.toNat (Text.mem_blankCodes blank)
  rwa [Char.ofNat_toNat] at found

theorem kind_of_ofChar? (known : ofChar? c = some t) :
    Text.isBlank c = false ∧ isNumberChar c = false ∧ isNameChar c = false := by
  unfold ofChar? at known
  split at known
  case h_8 => cases known
  all_goals decide

theorem code_of_isNumberChar (numeric : isNumberChar c = true) :
    c.toNat ∈ 46 :: List.range' 48 10 := by
  rw [isNumberChar, Bool.or_eq_true, beq_iff_eq, Char.isDigit_iff_toNat] at numeric
  rw [List.mem_cons, List.mem_range'_1]
  rcases numeric with digit | rfl
  · right
    simpa [Nat.lt_succ_iff] using digit
  · exact .inl rfl

theorem startsName_of_isNumberChar (numeric : isNumberChar c = true) : startsName c = false := by
  have table : ∀ n ∈ 46 :: List.range' 48 10, startsName (Char.ofNat n) = false := by
    decide +kernel
  have found := table c.toNat (code_of_isNumberChar numeric)
  rwa [Char.ofNat_toNat] at found

theorem kind_of_isNumberChar (numeric : isNumberChar c = true) :
    ofChar? c = none ∧ Text.isBlank c = false := by
  constructor
  · cases known : ofChar? c with
    | none => rfl
    | some t => simp [(kind_of_ofChar? known).2.1] at numeric
  · cases blank : Text.isBlank c with
    | false => rfl
    | true => simp [(kind_of_isBlank blank).2.1] at numeric

theorem kind_of_isNameChar (inner : isNameChar c = true) :
    ofChar? c = none ∧ Text.isBlank c = false := by
  constructor
  · cases known : ofChar? c with
    | none => rfl
    | some t => simp [(kind_of_ofChar? known).2.2] at inner
  · cases blank : Text.isBlank c with
    | false => rfl
    | true => simp [(kind_of_isBlank blank).2.2] at inner

theorem isNameChar_of_startsName (starts : startsName c = true) : isNameChar c = true := by
  rw [startsName, Bool.or_eq_true] at starts
  rcases starts with letter | underscore <;> simp [isNameChar, *]

theorem kind_of_startsName (starts : startsName c = true) :
    ofChar? c = none ∧ Text.isBlank c = false ∧ isNumberChar c = false := by
  obtain ⟨noSymbol, notBlank⟩ := kind_of_isNameChar (isNameChar_of_startsName starts)
  refine ⟨noSymbol, notBlank, ?_⟩
  cases numeric : isNumberChar c with
  | false => rfl
  | true => simp [startsName_of_isNumberChar numeric] at starts

def Ends (kind : Char → Bool) (rest : List Char) : Prop :=
  ∀ c ∈ rest.head?, kind c = false

theorem ends_dropWhile (kind : Char → Bool) (cs : List Char) : Ends kind (cs.dropWhile kind) := by
  intro c first
  have stop := List.head?_dropWhile_not kind cs
  rw [Option.mem_def.mp first] at stop
  exact stop

theorem takeWhile_append_of_ends {kind : Char → Bool} {front rest : List Char}
    (all : ∀ c ∈ front, kind c = true) (ends : Ends kind rest) :
    (front ++ rest).takeWhile kind = front ∧ (front ++ rest).dropWhile kind = rest := by
  rw [List.takeWhile_append_of_pos all, List.dropWhile_append_of_pos all]
  cases rest with
  | nil => simp
  | cons c rest => simp [ends c rfl]

inductive Exponent : List Char → List Char → Prop where
  | mk {sign digits rest : List Char} (signed : sign ∈ [[], ['+'], ['-']])
      (nonempty : digits ≠ []) (all : ∀ c ∈ digits, c.isDigit = true)
      (ends : Ends Char.isDigit rest) : Exponent (sign ++ digits) rest

/-- The part of a number after its digits and points, as it is written and with its mark in lower
case: an exponent wherever one is complete. -/
inductive PowerPart : List Char → List Char → List Char → Prop where
  | none {rest : List Char} (ends : Ends isNumberChar rest)
      (incomplete : ∀ mark exponent rest', rest = mark :: (exponent ++ rest') →
        mark = 'e' ∨ mark = 'E' → ¬Exponent exponent rest') : PowerPart [] [] rest
  | some {mark : Char} {exponent rest : List Char} (marked : mark = 'e' ∨ mark = 'E')
      (complete : Exponent exponent rest) : PowerPart (mark :: exponent) ('e' :: exponent) rest

inductive Lexeme : Token → List Char → List Char → Prop where
  | symbol {c : Char} {t : Token} {rest : List Char} (known : ofChar? c = some t) :
      Lexeme t [c] rest
  | number {digits written literal rest : List Char} {value : Float} (nonempty : digits ≠ [])
      (all : ∀ c ∈ digits, isNumberChar c = true) (part : PowerPart written literal rest)
      (read : Number.readUnsigned? (digits ++ literal) = some value)
      (finite : value.isFinite = true) : Lexeme (.number value) (digits ++ written) rest
  | name {c : Char} {tail rest : List Char} (starts : startsName c = true)
      (all : ∀ c ∈ tail, isNameChar c = true) (ends : Ends isNameChar rest) :
      Lexeme (.name (String.ofList (c :: tail))) (c :: tail) rest

open Number (isDecimalChar)

theorem isDecimalChar_of_isNumberChar (numeric : isNumberChar c = true) :
    isDecimalChar c = true := by
  rw [isNumberChar, Bool.or_eq_true, beq_iff_eq] at numeric
  rcases numeric with digit | rfl
  · exact Number.isDecimalChar_of_isDigit digit
  · decide

theorem isDecimalChar_cases (decimal : isDecimalChar c = true) :
    isNumberChar c = true ∨ c ∈ ['e', 'E', '+', '-'] := by
  simp only [isDecimalChar, Bool.or_eq_true, decide_eq_true_eq, List.mem_cons] at decimal
  rcases decimal with digit | point | mark
  · simp [isNumberChar, digit]
  · simp [isNumberChar, point]
  · right
    simpa using mark

theorem Exponent.isDecimalChar {exponent rest : List Char} (complete : Exponent exponent rest) :
    ∀ c ∈ exponent, isDecimalChar c = true := by
  cases complete with
  | mk signed nonempty all ends =>
      refine List.forall_mem_append.mpr ⟨?_, fun c member => ?_⟩
      · simp only [List.mem_cons, List.not_mem_nil, or_false] at signed
        rcases signed with rfl | rfl | rfl <;> exact List.all_eq_true.mp (by decide)
      · exact Number.isDecimalChar_of_isDigit (all c member)

theorem PowerPart.isDecimalChar {written literal rest : List Char}
    (part : PowerPart written literal rest) : ∀ c ∈ written, isDecimalChar c = true := by
  cases part with
  | none ends incomplete => simp
  | some marked complete =>
      refine List.forall_mem_cons.mpr ⟨?_, complete.isDecimalChar⟩
      rcases marked with rfl | rfl <;> decide

theorem PowerPart.length {written literal rest : List Char}
    (part : PowerPart written literal rest) : literal.length = written.length := by
  cases part <;> rfl

theorem Lexeme.cases_chars {lexeme rest : List Char} (found : Lexeme t lexeme rest) :
    (∃ c, ofChar? c = some t ∧ lexeme = [c]) ∨
    (∃ value, t = .number value ∧ ∀ c ∈ lexeme, isDecimalChar c = true) ∨
    (t = .name (String.ofList lexeme) ∧ ∀ c ∈ lexeme, isNameChar c = true) := by
  cases found with
  | symbol known => exact .inl ⟨_, known, rfl⟩
  | number nonempty all part read finite =>
      refine .inr (.inl ⟨_, rfl, List.forall_mem_append.mpr ⟨fun c member => ?_, ?_⟩⟩)
      · exact isDecimalChar_of_isNumberChar (all c member)
      · exact part.isDecimalChar
  | name starts all ends =>
      exact .inr (.inr ⟨rfl, List.forall_mem_cons.mpr ⟨isNameChar_of_startsName starts, all⟩⟩)

theorem Lexeme.ne_nil {lexeme rest : List Char} (found : Lexeme t lexeme rest) : lexeme ≠ [] := by
  cases found with
  | symbol known => exact List.cons_ne_nil _ _
  | number nonempty all part read finite => exact List.append_ne_nil_of_left_ne_nil nonempty _
  | name starts all ends => exact List.cons_ne_nil _ _

theorem splitExponent?_eq_some {cs exponent rest : List Char} :
    splitExponent? cs = some (exponent, rest) ↔
      cs = exponent ++ rest ∧ Exponent exponent rest := by
  have split (sign cs : List Char) (signed : sign ∈ [[], ['+'], ['-']]) :
      (if (Number.splitDigits cs).1 = [] then none
        else some (sign ++ (Number.splitDigits cs).1, (Number.splitDigits cs).2)) =
          some (exponent, rest) → sign ++ cs = exponent ++ rest ∧ Exponent exponent rest := by
    intro found
    split at found
    · cases found
    · rename_i nonempty
      cases found
      refine ⟨?_, .mk signed nonempty (fun c => List.mem_takeWhile_imp) (ends_dropWhile _ _)⟩
      rw [List.append_assoc, Number.splitDigits, List.takeWhile_append_dropWhile]
  constructor
  · intro found
    unfold splitExponent? at found
    split at found
    · cases found
    · rename_i c cs
      by_cases sign : c = '+' ∨ c = '-'
      · simp only [sign, if_true] at found
        exact split [c] cs (by rcases sign with rfl | rfl <;> decide) found
      · simp only [sign, if_false] at found
        exact split [] (c :: cs) (by decide) found
  · rintro ⟨rfl, complete⟩
    cases complete with
    | @mk sign digits rest signed nonempty all ends =>
        obtain ⟨taken, dropped⟩ := takeWhile_append_of_ends all ends
        have digitsSplit : Number.splitDigits (digits ++ rest) = (digits, rest) := by
          rw [Number.splitDigits, taken, dropped]
        obtain ⟨digit, digits', rfl⟩ := List.exists_cons_of_ne_nil nonempty
        have noSign : ¬(digit = '+' ∨ digit = '-') := by
          have numeric := all digit List.mem_cons_self
          rintro (rfl | rfl) <;> cases numeric
        simp only [List.mem_cons, List.not_mem_nil, or_false] at signed
        rcases signed with rfl | rfl | rfl
        · simp only [List.nil_append, List.cons_append] at digitsSplit ⊢
          simp [splitExponent?, noSign, digitsSplit]
        · simp only [List.cons_append] at digitsSplit ⊢
          simp [splitExponent?, digitsSplit]
        · simp only [List.cons_append] at digitsSplit ⊢
          simp [splitExponent?, digitsSplit]

theorem splitMarkedExponent_of_part {written literal rest : List Char}
    (part : PowerPart written literal rest) :
    splitMarkedExponent (written ++ rest) = (literal, rest) := by
  cases part with
  | some marked complete =>
      have found := splitExponent?_eq_some.mpr ⟨rfl, complete⟩
      simp [splitMarkedExponent, marked, found]
  | none ends incomplete =>
      cases rest with
      | nil => rfl
      | cons mark tail =>
          rw [List.nil_append, splitMarkedExponent]
          split
          · rename_i marked
            cases found : splitExponent? tail with
            | none => rfl
            | some parts =>
                obtain ⟨rfl, complete⟩ := splitExponent?_eq_some.mp found
                exact absurd complete (incomplete mark parts.1 parts.2 rfl marked)
          · rfl

theorem exists_powerPart {cs : List Char} (ends : Ends isNumberChar cs) :
    ∃ written, cs = written ++ (splitMarkedExponent cs).2 ∧
      PowerPart written (splitMarkedExponent cs).1 (splitMarkedExponent cs).2 := by
  cases cs with
  | nil => exact ⟨[], rfl, .none ends (by rintro mark exponent rest' same; cases same)⟩
  | cons mark tail =>
      rw [splitMarkedExponent]
      split
      · rename_i marked
        cases found : splitExponent? tail with
        | none =>
            refine ⟨[], rfl, .none ends ?_⟩
            rintro mark' exponent rest' same - complete
            cases same
            rw [splitExponent?_eq_some.mpr ⟨rfl, complete⟩] at found
            cases found
        | some parts =>
            obtain ⟨rfl, complete⟩ := splitExponent?_eq_some.mp found
            exact ⟨mark :: parts.1, rfl, .some marked complete⟩
      · rename_i unmarked
        refine ⟨[], rfl, .none ends ?_⟩
        rintro mark' exponent rest' same marked
        cases same
        exact absurd marked unmarked

theorem PowerPart.ends {written literal rest : List Char} (part : PowerPart written literal rest) :
    Ends isNumberChar (written ++ rest) := by
  cases part with
  | none ends => exact ends
  | some marked =>
      intro c first
      cases first
      rcases marked with rfl | rfl <;> decide

theorem splitNumber_of_part {digits written literal rest : List Char}
    (all : ∀ c ∈ digits, isNumberChar c = true) (part : PowerPart written literal rest) :
    splitNumber (digits ++ (written ++ rest)) = (digits ++ literal, rest) := by
  obtain ⟨taken, dropped⟩ := takeWhile_append_of_ends all part.ends
  rw [splitNumber, taken, dropped, splitMarkedExponent_of_part part]

theorem ofLiteral_eq_ok {literal : List Char} :
    ofLiteral literal = .ok t ↔ ∃ value, Number.readUnsigned? literal = some value ∧
      value.isFinite = true ∧ t = .number value := by
  unfold ofLiteral
  cases Number.readUnsigned? literal with
  | none => simp
  | some value =>
      cases finite : value.isFinite with
      | false => simp [finite]
      | true => simpa [finite] using eq_comm

theorem ofLiteral_eq_error {literal : List Char} {e : SyntaxError} :
    ofLiteral literal = .error e ↔ e = .invalidNumber (String.ofList literal) ∧
      ∀ value, Number.readUnsigned? literal = some value → value.isFinite = false := by
  unfold ofLiteral
  cases Number.readUnsigned? literal with
  | none => simpa using eq_comm
  | some value =>
      cases finite : value.isFinite with
      | true => simp [finite]
      | false => simpa [finite] using eq_comm

theorem exists_number (numeric : isNumberChar c = true) (cs : List Char) :
    ∃ digits written literal rest, c :: cs = digits ++ (written ++ rest) ∧ digits ≠ [] ∧
      (∀ c ∈ digits, isNumberChar c = true) ∧ PowerPart written literal rest := by
  obtain ⟨written, whole, part⟩ := exists_powerPart (ends_dropWhile isNumberChar (c :: cs))
  refine ⟨(c :: cs).takeWhile isNumberChar, written, _, _, ?_, ?_,
    fun c => List.mem_takeWhile_imp, part⟩
  · rw [← whole, List.takeWhile_append_dropWhile]
  · simp [numeric]

/-- Why no token is read from where an offset is reached. -/
inductive Blocked (offset : Nat) : List Char → SyntaxError → Prop where
  | character {c : Char} {rest : List Char} (notBlank : Text.isBlank c = false)
      (startless : ∀ t lexeme rest, Lexeme t lexeme rest → lexeme.head? ≠ some c) :
      Blocked offset (c :: rest) (.unexpectedCharacter c offset)
  | number {digits written literal rest : List Char} (nonempty : digits ≠ [])
      (all : ∀ c ∈ digits, isNumberChar c = true) (part : PowerPart written literal rest)
      (unreadable : ∀ value, Number.readUnsigned? (digits ++ literal) = some value →
        value.isFinite = false) :
      Blocked offset (digits ++ (written ++ rest))
        (.invalidNumber (String.ofList (digits ++ literal)))

theorem head?_ne_of_lexeme {lexeme rest : List Char} (noSymbol : ofChar? c = none)
    (notNumber : isNumberChar c = false) (startless : startsName c = false)
    (found : Lexeme t lexeme rest) : lexeme.head? ≠ some c := by
  intro first
  cases found with
  | symbol known =>
      cases first
      rw [known] at noSymbol
      cases noSymbol
  | @number digits written literal _ value nonempty all part read finite =>
      obtain ⟨c, digits, rfl⟩ := List.exists_cons_of_ne_nil nonempty
      cases first
      rw [all c List.mem_cons_self] at notNumber
      cases notNumber
  | name starts all ends =>
      cases first
      rw [starts] at startless
      cases startless

end Token

namespace Expr

open Token

theorem byteLength_append (front rest : List Char) :
    byteLength (front ++ rest) = byteLength front + byteLength rest := by
  induction front with
  | nil => exact (Nat.zero_add _).symm
  | cons c front ih =>
      show c.utf8Size + byteLength (front ++ rest) = c.utf8Size + byteLength front + byteLength rest
      rw [ih, Nat.add_assoc]

theorem byteLength_of_ascii {cs : List Char} (ascii : ∀ c ∈ cs, c.toNat < 128) :
    byteLength cs = cs.length := by
  induction cs with
  | nil => rfl
  | cons c cs ih =>
      obtain ⟨first, others⟩ := List.forall_mem_cons.mp ascii
      have single : c.utf8Size = 1 := Char.utf8Size_eq_one_iff.mpr (Nat.le_of_lt_succ first)
      show c.utf8Size + byteLength cs = cs.length + 1
      rw [single, ih others, Nat.add_comm]

theorem tokensFrom_blank {c : Char} (blank : Text.isBlank c = true) (offset : Nat)
    (rest : List Char) : tokensFrom offset (c :: rest) = tokensFrom (offset + c.utf8Size) rest := by
  rw [tokensFrom, (kind_of_isBlank blank).1]
  exact if_pos blank

theorem tokensFrom_lexeme {t : Token} {lexeme rest : List Char} (found : Lexeme t lexeme rest)
    (offset : Nat) :
    tokensFrom offset (lexeme ++ rest) = (do
      let others ← tokensFrom (offset + byteLength lexeme) rest
      return ⟨t, offset⟩ :: others) := by
  cases found with
  | @symbol c _ _ known =>
      have single : byteLength [c] = 1 := by
        unfold ofChar? at known
        split at known
        case h_8 => cases known
        all_goals decide
      rw [List.singleton_append, tokensFrom, known, single]
  | @number digits written literal _ value nonempty all part read finite =>
      have length : (digits ++ literal).length = byteLength (digits ++ written) := by
        rw [byteLength_of_ascii, List.length_append, List.length_append, part.length]
        refine List.forall_mem_append.mpr ⟨fun c member => ?_, fun c member => ?_⟩
        · exact Number.toNat_lt_of_isDecimalChar (isDecimalChar_of_isNumberChar (all c member))
        · exact Number.toNat_lt_of_isDecimalChar (part.isDecimalChar c member)
      have split := splitNumber_of_part all part
      have token := ofLiteral_eq_ok.mpr ⟨value, read, finite, rfl⟩
      rw [← length, List.append_assoc]
      obtain ⟨c, digits, rfl⟩ := List.exists_cons_of_ne_nil nonempty
      have numeric := all c List.mem_cons_self
      obtain ⟨noSymbol, notBlank⟩ := kind_of_isNumberChar numeric
      simp only [List.cons_append] at split token ⊢
      rw [tokensFrom, noSymbol]
      simp only [notBlank, numeric, split, token, Bool.false_eq_true, if_false, dif_pos]
      rfl
  | @name c tail _ starts all ends =>
      obtain ⟨noSymbol, notBlank, notNumber⟩ := kind_of_startsName starts
      obtain ⟨taken, dropped⟩ := takeWhile_append_of_ends all ends
      rw [List.cons_append, tokensFrom, noSymbol]
      simp [notBlank, notNumber, starts, taken, dropped]

theorem cases_number {c : Char} (numeric : isNumberChar c = true) (offset : Nat) (cs : List Char) :
    (∃ t lexeme rest, c :: cs = lexeme ++ rest ∧ Lexeme t lexeme rest) ∨
      ∃ e, tokensFrom offset (c :: cs) = .error e ∧ Blocked offset (c :: cs) e := by
  obtain ⟨digits, written, literal, rest, whole, nonempty, all, part⟩ := exists_number numeric cs
  cases read : ofLiteral (digits ++ literal) with
  | ok t =>
      obtain ⟨value, known, finite, rfl⟩ := ofLiteral_eq_ok.mp read
      exact .inl ⟨_, digits ++ written, rest, by rw [whole, List.append_assoc],
        .number nonempty all part known finite⟩
  | error e =>
      obtain ⟨noSymbol, notBlank⟩ := kind_of_isNumberChar numeric
      have split : splitNumber (c :: cs) = (digits ++ literal, rest) := by
        rw [whole, splitNumber_of_part all part]
      refine .inr ⟨e, ?_, ?_⟩
      · rw [tokensFrom, noSymbol]
        simp only [notBlank, numeric, split, read, Bool.false_eq_true, if_false, dif_pos]
        rfl
      · obtain ⟨rfl, unreadable⟩ := ofLiteral_eq_error.mp read
        rw [whole]
        exact .number nonempty all part unreadable

theorem cases_cons (offset : Nat) (c : Char) (cs : List Char) : Text.isBlank c = true ∨
    (∃ t lexeme rest, c :: cs = lexeme ++ rest ∧ Lexeme t lexeme rest) ∨
      ∃ e, tokensFrom offset (c :: cs) = .error e ∧ Blocked offset (c :: cs) e := by
  by_cases blank : Text.isBlank c = true
  · exact .inl blank
  by_cases numeric : isNumberChar c = true
  · exact .inr (cases_number numeric offset cs)
  by_cases starts : startsName c = true
  · have whole : cs = cs.takeWhile isNameChar ++ cs.dropWhile isNameChar :=
      List.takeWhile_append_dropWhile.symm
    refine .inr (.inl ⟨_, c :: cs.takeWhile isNameChar, cs.dropWhile isNameChar, ?_,
      .name starts (fun _ => List.mem_takeWhile_imp) (ends_dropWhile _ _)⟩)
    rw [List.cons_append, ← whole]
  cases noSymbol : ofChar? c with
  | some t => exact .inr (.inl ⟨t, [c], cs, rfl, .symbol noSymbol⟩)
  | none =>
      rw [Bool.not_eq_true] at blank numeric starts
      refine .inr (.inr ⟨.unexpectedCharacter c offset, ?_, .character blank
        fun _ _ _ => head?_ne_of_lexeme noSymbol numeric starts⟩)
      rw [tokensFrom, noSymbol]
      simp [blank, numeric, starts]

/-- A text that starts at an offset is white space and the lexemes of its tokens in turn. -/
inductive Scans : Nat → List Char → List Located → Prop where
  | nil {offset : Nat} : Scans offset [] []
  | blank {offset : Nat} {c : Char} {rest : List Char} {ts : List Located}
      (blank : Text.isBlank c = true) (others : Scans (offset + c.utf8Size) rest ts) :
      Scans offset (c :: rest) ts
  | lexeme {offset : Nat} {t : Token} {lexeme rest : List Char} {ts : List Located}
      (found : Lexeme t lexeme rest) (others : Scans (offset + byteLength lexeme) rest ts) :
      Scans offset (lexeme ++ rest) (⟨t, offset⟩ :: ts)

theorem Scans.tokensFrom {offset : Nat} {cs : List Char} {ts : List Located}
    (scans : Scans offset cs ts) : tokensFrom offset cs = .ok ts := by
  induction scans with
  | nil => rw [Expr.tokensFrom]
  | blank blank _ ih => rw [tokensFrom_blank blank, ih]
  | lexeme found _ ih =>
      rw [tokensFrom_lexeme found, ih]
      rfl

theorem Scans.cases_mem {offset : Nat} {cs : List Char} {ts : List Located}
    (scans : Scans offset cs ts) {c : Char} (member : c ∈ cs) : Text.isBlank c = true ∨
      ∃ located ∈ ts, ∃ lexeme rest, Lexeme located.token lexeme rest ∧ c ∈ lexeme := by
  induction scans with
  | nil => cases member
  | blank blank _ ih =>
      rcases List.mem_cons.mp member with rfl | member
      · exact .inl blank
      · exact ih member
  | lexeme found _ ih =>
      rcases List.mem_append.mp member with inside | member
      · exact .inr ⟨_, List.mem_cons_self, _, _, found, inside⟩
      · rcases ih member with blank | ⟨located, later, lexeme⟩
        · exact .inl blank
        · exact .inr ⟨located, List.mem_cons_of_mem _ later, lexeme⟩

theorem scans_of_tokensFrom {offset : Nat} {cs : List Char} {ts : List Located}
    (read : tokensFrom offset cs = .ok ts) : Scans offset cs ts := by
  -- a lexeme may be long, so the induction is on the length and not on the text
  induction length : cs.length using Nat.strong_induction_on generalizing offset cs ts with
  | h n ih =>
      subst length
      cases cs with
      | nil =>
          rw [Expr.tokensFrom] at read
          cases read
          exact .nil
      | cons c cs =>
          rcases cases_cons offset c cs with
            blank | ⟨t, lexeme, rest, whole, found⟩ | ⟨e, failed, -⟩
          · rw [tokensFrom_blank blank] at read
            exact .blank blank (ih cs.length (Nat.lt_succ_self _) read rfl)
          · rw [whole, tokensFrom_lexeme found, bind_eq_ok] at read
            obtain ⟨others, tail, same⟩ := read
            cases same
            have shorter : rest.length < (lexeme ++ rest).length := by
              rw [List.length_append]
              exact Nat.lt_add_of_pos_left (List.length_pos_iff.mpr found.ne_nil)
            rw [whole] at ih ⊢
            exact .lexeme found (ih rest.length shorter tail rfl)
          · rw [failed] at read
            cases read

theorem tokensFrom_eq_ok {offset : Nat} {cs : List Char} {ts : List Located} :
    tokensFrom offset cs = .ok ts ↔ Scans offset cs ts :=
  ⟨scans_of_tokensFrom, Scans.tokensFrom⟩

end Expr

end PlotMarkup
