import PlotMarkup.Proofs.Expr.Lexemes
import PlotMarkup.Proofs.Expr.Parsing

namespace PlotMarkup.Grammar

open PlotMarkup.Expr

inductive Plain : Token → Prop where
  | operator (op : Operator) : Plain (.operator op)
  | openParen : Plain .openParen
  | closeParen : Plain .closeParen
  | var : Plain (.name "x")
  | sin : Plain (.name "sin")

def spelling : Token → List Char
  | .operator op => op.symbol.toList
  | .openParen => ['(']
  | .closeParen => [')']
  | .name text => text.toList ++ [' ']
  | .number _ => []

theorem tokensFrom_spelling {t : Token} (plain : Plain t) (offset : Nat) (cs : List Char) :
    ∃ next, tokensFrom offset (spelling t ++ cs) = (do
      let others ← tokensFrom next cs
      return ⟨t, offset⟩ :: others) := by
  have name (name : List Char) (read : Token.Lexeme (.name (String.ofList name)) name (' ' :: cs)) :
      tokensFrom offset (name ++ ' ' :: cs) = (do
        let others ← tokensFrom (offset + byteLength name + 1) cs
        return ⟨.name (String.ofList name), offset⟩ :: others) := by
    rw [tokensFrom_lexeme read, tokensFrom_blank (by decide)]
    rfl
  have ends : Token.Ends Token.isNameChar (' ' :: cs) := by
    intro c first
    cases first
    decide
  cases plain with
  | operator op => cases op <;> exact ⟨_, tokensFrom_lexeme (.symbol rfl) offset⟩
  | openParen => exact ⟨_, tokensFrom_lexeme (.symbol rfl) offset⟩
  | closeParen => exact ⟨_, tokensFrom_lexeme (.symbol rfl) offset⟩
  | var => exact ⟨_, name ['x'] (.name (by decide) (List.all_eq_true.mp (by decide)) ends)⟩
  | sin =>
      exact ⟨_, name ['s', 'i', 'n'] (.name (by decide) (List.all_eq_true.mp (by decide)) ends)⟩

theorem tokensFrom_spellings {word : List Token} (plain : ∀ t ∈ word, Plain t) (offset : Nat) :
    ∃ ts, tokensFrom offset (word.flatMap spelling) = .ok ts ∧ ts.map Located.token = word := by
  induction word generalizing offset with
  | nil => exact ⟨[], by rw [List.flatMap_nil, tokensFrom], rfl⟩
  | cons t word ih =>
      obtain ⟨plainHead, plainTail⟩ := List.forall_mem_cons.mp plain
      obtain ⟨next, step⟩ := tokensFrom_spelling plainHead offset (word.flatMap spelling)
      obtain ⟨ts, tail, rfl⟩ := ih plainTail next
      refine ⟨⟨t, offset⟩ :: ts, ?_, rfl⟩
      rw [List.flatMap_cons, step, tail]
      rfl

def Sum.text (d : Sum) : String :=
  String.ofList (d.word.flatMap spelling)

theorem parse_text {d : Sum} (plain : ∀ t ∈ d.word, Plain t) (within : Within maxDepth d.loads) :
    parse d.text = .ok d.tree := by
  obtain ⟨ts, read, word⟩ := tokensFrom_spellings plain 0
  rw [parse, bind_eq_ok]
  exact ⟨ts, by rw [tokens, Sum.text, String.toList_ofList, read],
    parseTokens_eq_ok.mpr ⟨d, word.symm, rfl, within⟩⟩

end PlotMarkup.Grammar
