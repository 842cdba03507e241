import PlotMarkup.Proofs.Expr.Evaluation
import PlotMarkup.Proofs.Expr.Spacing
import PlotMarkup.Proofs.Number.ReadBack

namespace PlotMarkup

open Number (Numeral exponentChars fractionChars isDigit_toDigits)

namespace Token

theorem isNumberChar_of_isDigit {c : Char} (digit : c.isDigit = true) : isNumberChar c = true := by
  simp [isNumberChar, digit]

theorem isNumberChar_mantissa (n : Numeral) :
    ∀ c ∈ n.whole ++ fractionChars n.fraction, isNumberChar c = true := by
  refine List.forall_mem_append.mpr ⟨fun c member => ?_, fun c member => ?_⟩
  · exact isNumberChar_of_isDigit (n.whole_digits c member)
  · have digits := n.fraction_digits
    cases shape : n.fraction with
    | nil =>
        rw [shape] at member
        cases member
    | cons digit more =>
        rw [shape] at member digits
        rcases List.mem_cons.mp member with rfl | member
        · rfl
        · exact isNumberChar_of_isDigit (digits c member)

theorem powerPart_exponentChars (exponent : Option (Bool × Nat)) :
    PowerPart (exponentChars exponent) (exponentChars exponent) [] := by
  cases exponent with
  | none =>
      refine .none (by simp [Ends]) ?_
      rintro mark exponent rest same
      cases same
  | some parts =>
      obtain ⟨negative, places⟩ := parts
      have complete : Exponent ([if negative then '-' else '+'] ++ Nat.toDigits 10 places) [] :=
        .mk (by cases negative <;> decide) Nat.toDigits_ne_nil (fun c => isDigit_toDigits)
          (by simp [Ends])
      exact .some (.inl rfl) complete

theorem lexeme_numeral {n : Numeral} (finite : n.reading.isFinite = true) :
    Lexeme (.number n.reading) n.chars [] :=
  .number (List.append_ne_nil_of_left_ne_nil n.whole_ne_nil _) (isNumberChar_mantissa n)
    (powerPart_exponentChars n.exponent) (Number.readUnsigned?_chars n) finite

end Token

namespace Grammar

def Signed.numeral (negative : Bool) (n : Numeral) : Signed :=
  if negative then .sign .minus (.power (.plain (.number n.reading)))
  else .power (.plain (.number n.reading))

theorem Signed.eval_numeral {negative : Bool} {n : Numeral} (x : Float) :
    (numeral negative n).tree.eval x = .ok (n.signed negative) := by
  cases negative <;> rfl

end Grammar

namespace Expr

open Token

variable {rest : List Char} {word : List Token}

def Spells (cs : List Char) (word : List Token) : Prop :=
  ∀ offset, ∃ ts, Scans offset cs ts ∧ ts.map Located.token = word

theorem spells_nil : Spells [] [] :=
  fun _ => ⟨[], .nil, rfl⟩

theorem Spells.blank {c : Char} (others : Spells rest word) (blank : Text.isBlank c = true) :
    Spells (c :: rest) word := by
  intro offset
  obtain ⟨ts, scans, tokens⟩ := others (offset + c.utf8Size)
  exact ⟨ts, .blank blank scans, tokens⟩

theorem Spells.lexeme {t : Token} {lexeme : List Char} (others : Spells rest word)
    (found : Lexeme t lexeme rest) : Spells (lexeme ++ rest) (t :: word) := by
  intro offset
  obtain ⟨ts, scans, tokens⟩ := others (offset + byteLength lexeme)
  exact ⟨⟨t, offset⟩ :: ts, .lexeme found scans, congrArg _ tokens⟩

theorem Spells.numeral {n : Numeral} (others : Spells rest word)
    (finite : n.reading.isFinite = true) (detached : Detached rest) (negative : Bool) :
    Spells ((if negative then ['-'] else []) ++ n.chars ++ rest)
      ((Grammar.Signed.numeral negative n).word ++ word) := by
  have number := others.lexeme ((lexeme_numeral finite).detached fun _ => detached)
  cases negative with
  | false => exact number
  | true => exact number.lexeme (.symbol (c := '-') rfl)

theorem parse_of_spells {text : String} {d : Grammar.Sum} (spells : Spells text.toList d.word)
    (within : Grammar.Within maxDepth d.loads) : parse text = .ok d.tree := by
  obtain ⟨ts, scans, tokens⟩ := spells 0
  rw [parse, bind_eq_ok]
  exact ⟨ts, scans.tokensFrom, Grammar.parseTokens_eq_ok.mpr ⟨d, tokens.symm, rfl, within⟩⟩

end Expr

end PlotMarkup
