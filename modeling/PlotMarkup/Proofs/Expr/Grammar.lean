import PlotMarkup.Expr.Parse

/-!
# The grammar of expressions

Derivations are trees with one type for each nonterminal and one constructor for each production.
A derivation has a word (the tokens it derives), a tree (the expression it builds) and loads, one
for each of its signed operands: how much of the budget of levels is used up there.

Main statement: a word has at most one derivation (`Sum.word_injective`).
-/

namespace PlotMarkup.Grammar

inductive Additive where
  | plus
  | minus
deriving DecidableEq

def Additive.operator : Additive → Operator
  | plus => .add
  | minus => .sub

inductive Multiplicative where
  | times
  | divide
deriving DecidableEq

def Multiplicative.operator : Multiplicative → Operator
  | times => .mul
  | divide => .div

inductive FunctionName where
  | own (function : Builtin)
  | log
deriving DecidableEq

namespace FunctionName

def text : FunctionName → String
  | own function => function.name
  | log => "log"

def function : FunctionName → Builtin
  | own function => function
  | log => .ln

end FunctionName

mutual

inductive Sum where
  | chain (first : Product) (rest : SumRest)

inductive SumRest where
  | nil
  | cons (op : Additive) (next : Product) (rest : SumRest)

inductive Product where
  | chain (first : Signed) (rest : ProductRest)

inductive ProductRest where
  | nil
  | cons (op : Multiplicative) (next : Signed) (rest : ProductRest)

inductive Signed where
  | sign (sign : Additive) (inner : Signed)
  | power (power : Power)

inductive Power where
  | plain (base : Primary)
  | raised (base : Primary) (exponent : Signed)

inductive Primary where
  | number (value : Float)
  | var
  | circle
  | euler
  | call (name : FunctionName) (argument : Sum)
  | group (inner : Sum)

end

/-! ## Words -/

mutual

def Sum.word : Sum → List Token
  | .chain first rest => first.word ++ rest.word

def SumRest.word : SumRest → List Token
  | .nil => []
  | .cons op next rest => .operator op.operator :: (next.word ++ rest.word)

def Product.word : Product → List Token
  | .chain first rest => first.word ++ rest.word

def ProductRest.word : ProductRest → List Token
  | .nil => []
  | .cons op next rest => .operator op.operator :: (next.word ++ rest.word)

def Signed.word : Signed → List Token
  | .sign sign inner => .operator sign.operator :: inner.word
  | .power power => power.word

def Power.word : Power → List Token
  | .plain base => base.word
  | .raised base exponent => base.word ++ .operator .pow :: exponent.word

def Primary.word : Primary → List Token
  | .number value => [.number value]
  | .var => [.name "x"]
  | .circle => [.name "pi"]
  | .euler => [.name "e"]
  | .call name argument => .name name.text :: .openParen :: (argument.word ++ [.closeParen])
  | .group inner => .openParen :: (inner.word ++ [.closeParen])

end

/-! ## Trees -/

mutual

def Sum.tree : Sum → Expr
  | .chain first rest => rest.treeFrom first.tree

/-- Sums and products group from the left: `left` is the tree of all that comes before. -/
def SumRest.treeFrom : SumRest → Expr → Expr
  | .nil, left => left
  | .cons op next rest, left => rest.treeFrom (.binary left op.operator next.tree)

def Product.tree : Product → Expr
  | .chain first rest => rest.treeFrom first.tree

def ProductRest.treeFrom : ProductRest → Expr → Expr
  | .nil, left => left
  | .cons op next rest, left => rest.treeFrom (.binary left op.operator next.tree)

def Signed.tree : Signed → Expr
  | .sign .minus inner => .negate inner.tree
  | .sign .plus inner => inner.tree
  | .power power => power.tree

def Power.tree : Power → Expr
  | .plain base => base.tree
  | .raised base exponent => .binary base.tree .pow exponent.tree

def Primary.tree : Primary → Expr
  | .number value => .number value
  | .var => .var
  | .circle => .number circleConstant
  | .euler => .number eulerNumber
  | .call name argument => .call name.function argument.tree
  | .group inner => inner.tree

end

/-! ## Loads -/

mutual

/--
One number for each signed operand of the derivation: how many signed operands enclose it, itself
included, plus, for each sum and product around it, how many operators stand before it there.
-/
def Sum.loads : Sum → List Nat
  | .chain first rest => first.loads ++ rest.loads

def SumRest.loads : SumRest → List Nat
  | .nil => []
  | .cons _ next rest => (next.loads ++ rest.loads).map (· + 1)

def Product.loads : Product → List Nat
  | .chain first rest => first.loads ++ rest.loads

def ProductRest.loads : ProductRest → List Nat
  | .nil => []
  | .cons _ next rest => (next.loads ++ rest.loads).map (· + 1)

def Signed.loads : Signed → List Nat
  | .sign _ inner => 1 :: inner.loads.map (· + 1)
  | .power power => 1 :: power.loads.map (· + 1)

def Power.loads : Power → List Nat
  | .plain base => base.loads
  | .raised base exponent => base.loads ++ exponent.loads

def Primary.loads : Primary → List Nat
  | .call _ argument => argument.loads
  | .group inner => inner.loads
  | _ => []

end

def peak (loads : List Nat) : Nat :=
  loads.foldr max 0

theorem peak_le {loads : List Nat} {n : Nat} : peak loads ≤ n ↔ ∀ load ∈ loads, load ≤ n := by
  induction loads with
  | nil => simp [peak]
  | cons load rest ih =>
      have : peak (load :: rest) = max load (peak rest) := rfl
      rw [this, Nat.max_le, ih, List.forall_mem_cons]

/-! ## A word has one derivation -/

def Avoids (ops : List Operator) (word : List Token) : Prop :=
  ∀ op ∈ ops, word.head? ≠ some (.operator op)

def Signed.continuing : List Operator := [.pow]

def Product.continuing : List Operator := [.mul, .div, .pow]

def Sum.continuing : List Operator := [.add, .sub, .mul, .div, .pow]

theorem avoids_nil (ops : List Operator) : Avoids ops [] := by
  simp [Avoids]

theorem avoids_cons {ops : List Operator} {t : Token} {word : List Token}
    (other : ∀ op ∈ ops, t ≠ .operator op) : Avoids ops (t :: word) := by
  simpa [Avoids] using other

theorem not_avoids {ops : List Operator} {op : Operator} {word : List Token} (mem : op ∈ ops) :
    ¬ Avoids ops (.operator op :: word) :=
  fun avoids => avoids op mem rfl

theorem Avoids.mono {ops ops' : List Operator} {word : List Token} (sub : ops ⊆ ops')
    (avoids : Avoids ops' word) : Avoids ops word :=
  fun op mem => avoids op (sub mem)

theorem SumRest.avoids_word (d : SumRest) {r : List Token} (avoids : Avoids Sum.continuing r) :
    Avoids Product.continuing (d.word ++ r) := by
  cases d with
  | nil => exact avoids.mono (by decide)
  | cons op next rest =>
      exact avoids_cons (by cases op <;> simp [Product.continuing, Additive.operator])

theorem ProductRest.avoids_word (d : ProductRest) {r : List Token}
    (avoids : Avoids Product.continuing r) : Avoids Signed.continuing (d.word ++ r) := by
  cases d with
  | nil => exact avoids.mono (by decide)
  | cons op next rest =>
      exact avoids_cons (by cases op <;> simp [Signed.continuing, Multiplicative.operator])

theorem Additive.operator_injective {op op' : Additive} (same : op.operator = op'.operator) :
    op = op' := by
  cases op <;> cases op' <;> first | rfl | cases same

theorem Multiplicative.operator_injective {op op' : Multiplicative}
    (same : op.operator = op'.operator) : op = op' := by
  cases op <;> cases op' <;> first | rfl | cases same

theorem FunctionName.ofName?_text (name : FunctionName) :
    Builtin.ofName? name.text = some name.function := by
  cases name with
  | own function => cases function <;> rfl
  | log => rfl

theorem FunctionName.text_injective {name name' : FunctionName} (same : name.text = name'.text) :
    name = name' := by
  have function : name.function = name'.function := by
    have := ofName?_text name
    rw [same, ofName?_text] at this
    exact (Option.some.inj this).symm
  cases name with
  | own f =>
      cases name' with
      | own g => exact congrArg own function
      | log =>
          obtain rfl : f = .ln := function
          simp [text, Builtin.name] at same
  | log =>
      cases name' with
      | own g =>
          obtain rfl : Builtin.ln = g := function
          simp [text, Builtin.name] at same
      | log => rfl

theorem FunctionName.text_ne (name : FunctionName) :
    name.text ≠ "x" ∧ name.text ≠ "pi" ∧ name.text ≠ "e" := by
  cases name with
  | own function => cases function <;> decide
  | log => decide

theorem Primary.head_word (d : Primary) (r : List Token) (op : Operator) :
    (d.word ++ r).head? ≠ some (.operator op) := by
  cases d <;> simp [Primary.word]

theorem Power.head_word (d : Power) (r : List Token) (op : Operator) :
    (d.word ++ r).head? ≠ some (.operator op) := by
  cases d with
  | plain base => exact base.head_word r op
  | raised base exponent =>
      rw [Power.word, List.append_assoc]
      exact base.head_word _ op

mutual

theorem Sum.prefix_unique : ∀ (d d' : Sum) {r r' : List Token}, d.word ++ r = d'.word ++ r' →
    Avoids Sum.continuing r → Avoids Sum.continuing r' → d = d' ∧ r = r'
  | .chain first rest, .chain first' rest', r, r', same, ends, ends' => by
      simp only [Sum.word, List.append_assoc] at same
      obtain ⟨rfl, tails⟩ := first.prefix_unique first' same (rest.avoids_word ends)
        (rest'.avoids_word ends')
      obtain ⟨rfl, rfl⟩ := rest.prefix_unique rest' tails ends ends'
      exact ⟨rfl, rfl⟩

theorem SumRest.prefix_unique : ∀ (d d' : SumRest) {r r' : List Token},
    d.word ++ r = d'.word ++ r' → Avoids Sum.continuing r → Avoids Sum.continuing r' →
    d = d' ∧ r = r'
  | .nil, .nil, _, _, same, _, _ => ⟨rfl, same⟩
  | .nil, .cons op next rest, r, r', same, ends, _ => by
      have begins : r = .operator op.operator :: (next.word ++ rest.word) ++ r' := same
      rw [begins] at ends
      exact absurd ends (not_avoids (by cases op <;> decide))
  | .cons op next rest, .nil, r, r', same, _, ends' => by
      have begins : r' = .operator op.operator :: (next.word ++ rest.word) ++ r := same.symm
      rw [begins] at ends'
      exact absurd ends' (not_avoids (by cases op <;> decide))
  | .cons op next rest, .cons op' next' rest', r, r', same, ends, ends' => by
      simp only [SumRest.word, List.cons_append, List.cons.injEq, Token.operator.injEq,
        List.append_assoc] at same
      obtain ⟨sameOp, same⟩ := same
      obtain rfl := Additive.operator_injective sameOp
      obtain ⟨rfl, tails⟩ := next.prefix_unique next' same (rest.avoids_word ends)
        (rest'.avoids_word ends')
      obtain ⟨rfl, rfl⟩ := rest.prefix_unique rest' tails ends ends'
      exact ⟨rfl, rfl⟩

theorem Product.prefix_unique : ∀ (d d' : Product) {r r' : List Token},
    d.word ++ r = d'.word ++ r' → Avoids Product.continuing r → Avoids Product.continuing r' →
    d = d' ∧ r = r'
  | .chain first rest, .chain first' rest', r, r', same, ends, ends' => by
      simp only [Product.word, List.append_assoc] at same
      obtain ⟨rfl, tails⟩ := first.prefix_unique first' same (rest.avoids_word ends)
        (rest'.avoids_word ends')
      obtain ⟨rfl, rfl⟩ := rest.prefix_unique rest' tails ends ends'
      exact ⟨rfl, rfl⟩

theorem ProductRest.prefix_unique : ∀ (d d' : ProductRest) {r r' : List Token},
    d.word ++ r = d'.word ++ r' → Avoids Product.continuing r → Avoids Product.continuing r' →
    d = d' ∧ r = r'
  | .nil, .nil, _, _, same, _, _ => ⟨rfl, same⟩
  | .nil, .cons op next rest, r, r', same, ends, _ => by
      have begins : r = .operator op.operator :: (next.word ++ rest.word) ++ r' := same
      rw [begins] at ends
      exact absurd ends (not_avoids (by cases op <;> decide))
  | .cons op next rest, .nil, r, r', same, _, ends' => by
      have begins : r' = .operator op.operator :: (next.word ++ rest.word) ++ r := same.symm
      rw [begins] at ends'
      exact absurd ends' (not_avoids (by cases op <;> decide))
  | .cons op next rest, .cons op' next' rest', r, r', same, ends, ends' => by
      simp only [ProductRest.word, List.cons_append, List.cons.injEq, Token.operator.injEq,
        List.append_assoc] at same
      obtain ⟨sameOp, same⟩ := same
      obtain rfl := Multiplicative.operator_injective sameOp
      obtain ⟨rfl, tails⟩ := next.prefix_unique next' same (rest.avoids_word ends)
        (rest'.avoids_word ends')
      obtain ⟨rfl, rfl⟩ := rest.prefix_unique rest' tails ends ends'
      exact ⟨rfl, rfl⟩

theorem Signed.prefix_unique : ∀ (d d' : Signed) {r r' : List Token},
    d.word ++ r = d'.word ++ r' → Avoids Signed.continuing r → Avoids Signed.continuing r' →
    d = d' ∧ r = r'
  | .sign op inner, .sign op' inner', r, r', same, ends, ends' => by
      simp only [Signed.word, List.cons_append, List.cons.injEq, Token.operator.injEq] at same
      obtain ⟨sameOp, same⟩ := same
      obtain rfl := Additive.operator_injective sameOp
      obtain ⟨rfl, rfl⟩ := inner.prefix_unique inner' same ends ends'
      exact ⟨rfl, rfl⟩
  | .sign op inner, .power power, r, r', same, _, _ =>
      absurd (congrArg List.head? same).symm (power.head_word r' op.operator)
  | .power power, .sign op inner, r, r', same, _, _ =>
      absurd (congrArg List.head? same) (power.head_word r op.operator)
  | .power power, .power power', r, r', same, ends, ends' => by
      obtain ⟨rfl, rfl⟩ := power.prefix_unique power' same ends ends'
      exact ⟨rfl, rfl⟩

theorem Power.prefix_unique : ∀ (d d' : Power) {r r' : List Token},
    d.word ++ r = d'.word ++ r' → Avoids Signed.continuing r → Avoids Signed.continuing r' →
    d = d' ∧ r = r'
  | .plain base, .plain base', r, r', same, _, _ => by
      obtain ⟨rfl, rfl⟩ := base.prefix_unique base' same
      exact ⟨rfl, rfl⟩
  | .plain base, .raised base' exponent', r, r', same, ends, _ => by
      simp only [Power.word, List.append_assoc] at same
      obtain ⟨rfl, rfl⟩ := base.prefix_unique base' same
      exact absurd ends (not_avoids (by decide))
  | .raised base exponent, .plain base', r, r', same, _, ends' => by
      simp only [Power.word, List.append_assoc] at same
      obtain ⟨rfl, rfl⟩ := base.prefix_unique base' same
      exact absurd ends' (not_avoids (by decide))
  | .raised base exponent, .raised base' exponent', r, r', same, ends, ends' => by
      simp only [Power.word, List.append_assoc] at same
      obtain ⟨rfl, tails⟩ := base.prefix_unique base' same
      simp only [List.cons_append, List.cons.injEq, true_and] at tails
      obtain ⟨rfl, rfl⟩ := exponent.prefix_unique exponent' tails ends ends'
      exact ⟨rfl, rfl⟩

theorem Primary.prefix_unique : ∀ (d d' : Primary) {r r' : List Token},
    d.word ++ r = d'.word ++ r' → d = d' ∧ r = r'
  | .number value, d', r, r', same => by
      cases d' <;> simp_all [Primary.word]
  | .var, d', r, r', same => by
      cases d' with
      | call name argument => simp [Primary.word, name.text_ne.1.symm] at same
      | _ => simp_all [Primary.word]
  | .circle, d', r, r', same => by
      cases d' with
      | call name argument => simp [Primary.word, name.text_ne.2.1.symm] at same
      | _ => simp_all [Primary.word]
  | .euler, d', r, r', same => by
      cases d' with
      | call name argument => simp [Primary.word, name.text_ne.2.2.symm] at same
      | _ => simp_all [Primary.word]
  | .call name argument, d', r, r', same => by
      have function := name.text_ne
      cases d' with
      | call name' argument' =>
          simp only [Primary.word, List.cons_append, List.append_assoc, List.cons.injEq,
            Token.name.injEq, true_and] at same
          obtain ⟨sameName, same⟩ := same
          obtain rfl := FunctionName.text_injective sameName
          obtain ⟨rfl, tails⟩ := argument.prefix_unique argument' same (avoids_cons (by simp))
            (avoids_cons (by simp))
          exact ⟨rfl, (List.cons.inj tails).2⟩
      | _ => simp_all [Primary.word]
  | .group inner, d', r, r', same => by
      cases d' with
      | group inner' =>
          simp only [Primary.word, List.cons_append, List.append_assoc, List.cons.injEq,
            true_and] at same
          obtain ⟨rfl, tails⟩ := inner.prefix_unique inner' same (avoids_cons (by simp))
            (avoids_cons (by simp))
          exact ⟨rfl, (List.cons.inj tails).2⟩
      | _ => simp_all [Primary.word]

end

theorem Primary.word_ne_nil (d : Primary) : d.word ≠ [] := by
  cases d <;> exact List.cons_ne_nil _ _

theorem Signed.word_ne_nil (d : Signed) : d.word ≠ [] := by
  cases d with
  | sign op inner => exact List.cons_ne_nil _ _
  | power power =>
      cases power with
      | plain base => exact base.word_ne_nil
      | raised base exponent => exact List.append_ne_nil_of_left_ne_nil base.word_ne_nil _

theorem Sum.word_ne_nil (d : Sum) : d.word ≠ [] := by
  obtain ⟨⟨first, products⟩, sums⟩ := d
  exact List.append_ne_nil_of_left_ne_nil
    (List.append_ne_nil_of_left_ne_nil first.word_ne_nil _) _

theorem Sum.word_injective {d d' : Sum} (same : d.word = d'.word) : d = d' := by
  have padded : d.word ++ [] = d'.word ++ [] := by rw [same]
  exact (d.prefix_unique d' padded (avoids_nil _) (avoids_nil _)).1

end PlotMarkup.Grammar
