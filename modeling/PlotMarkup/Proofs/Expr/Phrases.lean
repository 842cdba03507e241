import Mathlib.Combinatorics.Enumerative.DyckWord
import Mathlib.Data.List.Chain
import PlotMarkup.Proofs.Expr.Parsing

namespace PlotMarkup.Grammar

def constantNames : List String := ["x", "pi", "e"]

inductive Phrase : List Token → Prop where
  | number (value : Float) : Phrase [.number value]
  | name {name : String} (constant : name ∈ constantNames) : Phrase [.name name]
  | sign (op : Operator) {word : List Token} (inner : Phrase word) : Phrase (.operator op :: word)
  | join (op : Operator) {left right : List Token} (before : Phrase left) (after : Phrase right) :
      Phrase (left ++ .operator op :: right)
  | group {word : List Token} (inner : Phrase word) :
      Phrase (.openParen :: (word ++ [.closeParen]))
  | call (name : FunctionName) {word : List Token} (argument : Phrase word) :
      Phrase (.name name.text :: .openParen :: (word ++ [.closeParen]))

mutual

theorem Sum.phrase : ∀ d : Sum, Phrase d.word
  | .chain first rest => rest.phrase first.phrase

theorem SumRest.phrase : ∀ (d : SumRest) {before : List Token}, Phrase before →
    Phrase (before ++ d.word)
  | .nil, before, left => by
      rw [SumRest.word, List.append_nil]
      exact left
  | .cons op next rest, before, left => by
      rw [SumRest.word, ← List.cons_append, ← List.append_assoc]
      exact rest.phrase (.join op.operator left next.phrase)

theorem Product.phrase : ∀ d : Product, Phrase d.word
  | .chain first rest => rest.phrase first.phrase

theorem ProductRest.phrase : ∀ (d : ProductRest) {before : List Token}, Phrase before →
    Phrase (before ++ d.word)
  | .nil, before, left => by
      rw [ProductRest.word, List.append_nil]
      exact left
  | .cons op next rest, before, left => by
      rw [ProductRest.word, ← List.cons_append, ← List.append_assoc]
      exact rest.phrase (.join op.operator left next.phrase)

theorem Signed.phrase : ∀ d : Signed, Phrase d.word
  | .sign sign inner => .sign sign.operator inner.phrase
  | .power power => power.phrase

theorem Power.phrase : ∀ d : Power, Phrase d.word
  | .plain base => base.phrase
  | .raised base exponent => .join .pow base.phrase exponent.phrase

theorem Primary.phrase : ∀ d : Primary, Phrase d.word
  | .number value => .number value
  | .var => .name (by decide)
  | .circle => .name (by decide)
  | .euler => .name (by decide)
  | .call name argument => .call name argument.phrase
  | .group inner => .group inner.phrase

end

theorem phrase_of_parse {text : String} {e : Expr} (parsed : Expr.parse text = .ok e) :
    ∃ ts, Expr.tokens text = .ok ts ∧ Phrase (ts.map Located.token) := by
  obtain ⟨ts, read, parsed⟩ := bind_eq_ok.mp parsed
  obtain ⟨d, word, -, -⟩ := parseTokens_eq_ok.mp parsed
  refine ⟨ts, read, ?_⟩
  rw [← word]
  exact d.phrase

theorem isAlphanum_text (name : FunctionName) : ∀ c ∈ name.text.toList, c.isAlphanum = true := by
  have alphanumeric : name.text.toList.all Char.isAlphanum = true := by
    cases name with
    | own function => cases function <;> decide
    | log => decide
  exact List.all_eq_true.mp alphanumeric

theorem isAlphanum_constant {name : String} (constant : name ∈ constantNames) :
    ∀ c ∈ name.toList, c.isAlphanum = true := by
  have alphanumeric : constantNames.all (·.toList.all Char.isAlphanum) = true := by decide
  exact List.all_eq_true.mp (List.all_eq_true.mp alphanumeric name constant)

theorem Phrase.isAlphanum_name {word : List Token} {name : String} (phrase : Phrase word)
    (member : .name name ∈ word) : ∀ c ∈ name.toList, c.isAlphanum = true := by
  induction phrase with
  | number value => simp at member
  | name constant =>
      cases List.mem_singleton.mp member
      exact isAlphanum_constant constant
  | sign op inner ih => exact ih (by simpa using member)
  | join op before after ihBefore ihAfter =>
      rw [List.mem_append, List.mem_cons] at member
      rcases member with member | same | member
      · exact ihBefore member
      · cases same
      · exact ihAfter member
  | group inner ih => exact ih (by simpa using member)
  | call function argument ih =>
      rw [List.mem_cons] at member
      rcases member with same | member
      · cases same
        exact isAlphanum_text function
      · exact ih (by simpa using member)

def isOperand : Token → Bool
  | .number _ => true
  | .name _ => true
  | _ => false

def Apart (t t' : Token) : Prop :=
  isOperand t = false ∨ isOperand t' = false

theorem isChain_apart_append (left : List Token) {right : List Token} {t : Token}
    (mark : isOperand t = false) (before : left.IsChain Apart) (after : right.IsChain Apart) :
    (left ++ t :: right).IsChain Apart := by
  refine List.isChain_append.mpr ⟨before, List.isChain_cons.mpr ⟨?_, after⟩, ?_⟩
  · intro next _
    exact .inl mark
  · intro last _ next first
    cases first
    exact .inr mark

theorem Phrase.isChain_apart {word : List Token} (phrase : Phrase word) : word.IsChain Apart := by
  have enclosed {inner : List Token} (chain : inner.IsChain Apart) :
      (inner ++ [Token.closeParen]).IsChain Apart := isChain_apart_append inner rfl chain .nil
  induction phrase with
  | number value => exact .singleton _
  | name constant => exact .singleton _
  | sign op inner ih => exact isChain_apart_append [] rfl .nil ih
  | join op before after ihBefore ihAfter => exact isChain_apart_append _ rfl ihBefore ihAfter
  | group inner ih => exact isChain_apart_append [] rfl .nil (enclosed ih)
  | call name argument ih =>
      exact isChain_apart_append [.name name.text] rfl (.singleton _) (enclosed ih)

def paren? : Token → Option DyckStep
  | .openParen => some .U
  | .closeParen => some .D
  | _ => none

theorem Phrase.exists_dyckWord {word : List Token} (phrase : Phrase word) :
    ∃ p : DyckWord, p.toList = word.filterMap paren? := by
  have enclosed {inner : List Token} (p : DyckWord) (same : p.toList = inner.filterMap paren?) :
      p.nest.toList = (.openParen :: (inner ++ [.closeParen])).filterMap paren? := by
    simp [DyckWord.nest, same, paren?]
  induction phrase with
  | number value => exact ⟨0, rfl⟩
  | name constant => exact ⟨0, rfl⟩
  | sign op inner ih => exact ih
  | join op before after ihBefore ihAfter =>
      obtain ⟨p, left⟩ := ihBefore
      obtain ⟨q, right⟩ := ihAfter
      refine ⟨p + q, ?_⟩
      rw [List.filterMap_append, ← left]
      exact congrArg (p.toList ++ ·) right
  | group inner ih =>
      obtain ⟨p, same⟩ := ih
      exact ⟨p.nest, enclosed p same⟩
  | call name argument ih =>
      obtain ⟨p, same⟩ := ih
      exact ⟨p.nest, enclosed p same⟩

end PlotMarkup.Grammar
