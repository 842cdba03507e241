import PlotMarkup.Proofs.Expr.Lexemes
import PlotMarkup.Proofs.Expr.Phrases

namespace PlotMarkup

open Number (isDecimalChar)

namespace Expr

def isFormulaChar (c : Char) : Bool :=
  c.isAlphanum || c ∈ ['.', '+', '-', '*', '/', '^', '(', ')']

theorem isFormulaChar_of_isDecimalChar {c : Char} (decimal : isDecimalChar c = true) :
    isFormulaChar c = true := by
  simp only [isDecimalChar, Bool.or_eq_true, decide_eq_true_eq, List.mem_cons, List.not_mem_nil,
    or_false] at decimal
  rcases decimal with digit | rfl | rfl | rfl | rfl | rfl
  · simp [isFormulaChar, Char.isAlphanum, digit]
  all_goals decide

variable {text : String} {e : Expr}

theorem isFormulaChar_of_parse (parsed : parse text = .ok e) {c : Char} (member : c ∈ text.toList) :
    Text.isBlank c = true ∨ isFormulaChar c = true := by
  obtain ⟨ts, read, phrase⟩ := Grammar.phrase_of_parse parsed
  rcases (tokensFrom_eq_ok.mp read).cases_mem member with
    blank | ⟨located, among, lexeme, rest, found, inside⟩
  · exact .inl blank
  · right
    rcases found.cases_chars with ⟨symbol, known, rfl⟩ | ⟨value, -, decimal⟩ | ⟨name, -⟩
    · obtain rfl := List.mem_singleton.mp inside
      unfold Token.ofChar? at known
      split at known
      case h_8 => cases known
      all_goals decide
    · exact isFormulaChar_of_isDecimalChar (decimal c inside)
    · -- Of the names that can be read, the parser knows only those of ASCII letters and digits.
      have written : .name (String.ofList lexeme) ∈ ts.map Located.token := by
        rw [← name]
        exact List.mem_map_of_mem among
      have alphanumeric := phrase.isAlphanum_name written c (by simpa using inside)
      simp [isFormulaChar, alphanumeric]

def paren? (c : Char) : Option DyckStep :=
  (Token.ofChar? c).bind Grammar.paren?

theorem paren?_eq_some_U {c : Char} : (paren? c == some .U) = (c == '(') := by
  unfold paren? Token.ofChar?
  split <;> simp_all [Grammar.paren?]

theorem paren?_eq_some_D {c : Char} : (paren? c == some .D) = (c == ')') := by
  unfold paren? Token.ofChar?
  split <;> simp_all [Grammar.paren?]

theorem count_open (cs : List Char) : cs.count '(' = (cs.filterMap paren?).count .U := by
  rw [List.count_filterMap, List.count]
  exact List.countP_congr fun c _ => by rw [paren?_eq_some_U]

theorem count_close (cs : List Char) : cs.count ')' = (cs.filterMap paren?).count .D := by
  rw [List.count_filterMap, List.count]
  exact List.countP_congr fun c _ => by rw [paren?_eq_some_D]

theorem paren?_of_isDecimalChar {c : Char} (decimal : isDecimalChar c = true) :
    paren? c = none := by
  rcases Token.isDecimalChar_cases decimal with numeric | mark
  · simp [paren?, (Token.kind_of_isNumberChar numeric).1]
  · simp only [List.mem_cons, List.not_mem_nil, or_false] at mark
    rcases mark with rfl | rfl | rfl | rfl <;> rfl

theorem paren?_of_isNameChar {c : Char} (inner : Token.isNameChar c = true) : paren? c = none := by
  simp [paren?, (Token.kind_of_isNameChar inner).1]

theorem filterMap_paren?_lexeme {t : Token} {lexeme rest : List Char}
    (found : Token.Lexeme t lexeme rest) :
    lexeme.filterMap paren? = [t].filterMap Grammar.paren? := by
  rcases found.cases_chars with ⟨c, known, rfl⟩ | ⟨value, rfl, decimal⟩ | ⟨rfl, inner⟩
  · simp [paren?, known, List.filterMap_cons]
  · exact List.filterMap_eq_nil_iff.mpr fun c member => paren?_of_isDecimalChar (decimal c member)
  · exact List.filterMap_eq_nil_iff.mpr fun c member => paren?_of_isNameChar (inner c member)

theorem Scans.filterMap_paren? {offset : Nat} {cs : List Char} {ts : List Located}
    (scans : Scans offset cs ts) :
    cs.filterMap paren? = (ts.map Located.token).filterMap Grammar.paren? := by
  induction scans with
  | nil => rfl
  | blank blank _ ih =>
      rw [List.filterMap_cons_none, ih]
      rw [paren?, (Token.kind_of_isBlank blank).1]
      rfl
  | @lexeme _ t lexeme rest ts found _ ih =>
      rw [List.filterMap_append, filterMap_paren?_lexeme found, ih, ← List.filterMap_append]
      rfl

theorem exists_dyckWord_of_parse (parsed : parse text = .ok e) :
    ∃ p : DyckWord, p.toList = text.toList.filterMap paren? := by
  obtain ⟨ts, read, phrase⟩ := Grammar.phrase_of_parse parsed
  rw [(tokensFrom_eq_ok.mp read).filterMap_paren?]
  exact phrase.exists_dyckWord

theorem count_close_le (parsed : parse text = .ok e) {front : List Char}
    (begins : front <+: text.toList) : front.count ')' ≤ front.count '(' := by
  obtain ⟨p, same⟩ := exists_dyckWord_of_parse parsed
  have part := begins.filterMap paren?
  rw [← same, List.prefix_iff_eq_take] at part
  rw [count_open, count_close, part]
  exact p.count_D_le_count_U _

theorem count_open_eq (parsed : parse text = .ok e) :
    text.toList.count '(' = text.toList.count ')' := by
  obtain ⟨p, same⟩ := exists_dyckWord_of_parse parsed
  rw [count_open, count_close, ← same]
  exact p.count_U_eq_count_D

end Expr

end PlotMarkup
