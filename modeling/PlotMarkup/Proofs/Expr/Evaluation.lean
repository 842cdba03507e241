import Mathlib
import PlotMarkup.Expr.Formula
import PlotMarkup.Proofs.Expr.Lexemes
import PlotMarkup.Proofs.Expr.Parsing
import PlotMarkup.Proofs.Number.Finite

namespace PlotMarkup

theorem Operation.run_eq_ok {operation : Operation} {x v : Float} :
    operation.run x = .ok v ↔ operation.value.isFinite = true ∧ operation.value = v := by
  unfold Operation.run
  split <;> simp [*]

namespace Expr

/-- The nodes of a tree, operands before operators and left before right. -/
def postorder : Expr → List Expr
  | number value => [number value]
  | var => [var]
  | negate inner => inner.postorder ++ [negate inner]
  | binary left op right => left.postorder ++ right.postorder ++ [binary left op right]
  | call function argument => argument.postorder ++ [call function argument]

def operation? (x : Float) : Expr → Option Operation
  | binary left op right => some (.binary (left.value x) op (right.value x))
  | call function argument => some (.call function (argument.value x))
  | _ => none

def FiniteNumbers : Expr → Prop
  | number value => value.isFinite = true
  | var => True
  | negate inner => inner.FiniteNumbers
  | binary left _ right => left.FiniteNumbers ∧ right.FiniteNumbers
  | call _ argument => argument.FiniteNumbers

def firstNonFinite? (x : Float) (nodes : List Expr) : Option Expr :=
  nodes.find? fun node => !(node.value x).isFinite

theorem firstNonFinite?_eq_none {x : Float} {nodes : List Expr} :
    firstNonFinite? x nodes = none ↔ ∀ node ∈ nodes, (node.value x).isFinite = true := by
  simp [firstNonFinite?]

theorem firstNonFinite?_eq_some {x : Float} {nodes : List Expr} {node : Expr} :
    firstNonFinite? x nodes = some node ↔ (node.value x).isFinite = false ∧
      ∃ before after, nodes = before ++ node :: after ∧
        ∀ earlier ∈ before, (earlier.value x).isFinite = true := by
  simp [firstNonFinite?, List.find?_eq_some_iff_append]

theorem firstNonFinite?_append {x : Float} {nodes nodes' : List Expr} :
    firstNonFinite? x (nodes ++ nodes') =
      (firstNonFinite? x nodes).or (firstNonFinite? x nodes') :=
  List.find?_append

theorem firstNonFinite?_single {x : Float} {node first : Expr} :
    firstNonFinite? x [node] = some first ↔ (node.value x).isFinite = false ∧ node = first := by
  simp [firstNonFinite?, List.find?_cons]
  split <;> simp_all

theorem self_mem_postorder (e : Expr) : e ∈ e.postorder := by
  cases e <;> simp [postorder]

theorem eval_of_finite {x : Float} {e : Expr}
    (finite : ∀ node ∈ e.postorder, (node.value x).isFinite = true) :
    e.eval x = .ok (e.value x) := by
  induction e with
  | number value => rfl
  | var => rfl
  | negate inner ih =>
      rw [postorder, List.forall_mem_append] at finite
      rw [eval, ih finite.1]
      rfl
  | binary left op right ihLeft ihRight =>
      rw [postorder, List.forall_mem_append, List.forall_mem_append] at finite
      obtain ⟨⟨finiteLeft, finiteRight⟩, finiteRoot⟩ := finite
      rw [eval, ihLeft finiteLeft, ihRight finiteRight]
      exact if_pos (finiteRoot _ (List.mem_singleton_self _))
  | call function argument ih =>
      rw [postorder, List.forall_mem_append] at finite
      rw [eval, ih finite.1]
      exact if_pos (finite.2 _ (List.mem_singleton_self _))

theorem eval_of_first {x : Float} {e first : Expr} (point : x.isFinite = true)
    (numbers : e.FiniteNumbers) (found : firstNonFinite? x e.postorder = some first) :
    ∃ op, first.operation? x = some op ∧ e.eval x = .error ⟨op, x⟩ := by
  induction e with
  | number literal =>
      have finite : literal.isFinite = true := numbers
      have infinite := (firstNonFinite?_single.mp found).1
      rw [value, finite] at infinite
      contradiction
  | var =>
      have infinite := (firstNonFinite?_single.mp found).1
      rw [value, point] at infinite
      contradiction
  | negate inner ih =>
      rw [postorder, firstNonFinite?_append, Option.or_eq_some_iff] at found
      rcases found with inside | ⟨before, root⟩
      · obtain ⟨op, operation, failed⟩ := ih numbers inside
        exact ⟨op, operation, by rw [eval, failed]; rfl⟩
      · -- The sign of a finite value does not matter.
        have finite := firstNonFinite?_eq_none.mp before inner inner.self_mem_postorder
        have infinite := (firstNonFinite?_single.mp root).1
        rw [value, Number.isFinite_neg finite] at infinite
        contradiction
  | binary left op right ihLeft ihRight =>
      rw [postorder, firstNonFinite?_append, firstNonFinite?_append, Option.or_eq_some_iff,
        Option.or_eq_some_iff, Option.or_eq_none_iff] at found
      rcases found with (inLeft | ⟨before, inRight⟩) | ⟨⟨beforeLeft, beforeRight⟩, root⟩
      · obtain ⟨op, operation, failed⟩ := ihLeft numbers.1 inLeft
        exact ⟨op, operation, by rw [eval, failed]; rfl⟩
      · obtain ⟨op, operation, failed⟩ := ihRight numbers.2 inRight
        refine ⟨op, operation, ?_⟩
        rw [eval, eval_of_finite (firstNonFinite?_eq_none.mp before), failed]
        rfl
      · obtain ⟨infinite, rfl⟩ := firstNonFinite?_single.mp root
        refine ⟨_, rfl, ?_⟩
        rw [eval, eval_of_finite (firstNonFinite?_eq_none.mp beforeLeft),
          eval_of_finite (firstNonFinite?_eq_none.mp beforeRight)]
        exact if_neg (Bool.eq_false_iff.mp infinite)
  | call function argument ih =>
      rw [postorder, firstNonFinite?_append, Option.or_eq_some_iff] at found
      rcases found with inside | ⟨before, root⟩
      · obtain ⟨op, operation, failed⟩ := ih numbers inside
        exact ⟨op, operation, by rw [eval, failed]; rfl⟩
      · obtain ⟨infinite, rfl⟩ := firstNonFinite?_single.mp root
        refine ⟨_, rfl, ?_⟩
        rw [eval, eval_of_finite (firstNonFinite?_eq_none.mp before)]
        exact if_neg (Bool.eq_false_iff.mp infinite)

theorem eval_eq_ok {x v : Float} {e : Expr} (point : x.isFinite = true)
    (numbers : e.FiniteNumbers) :
    e.eval x = .ok v ↔
      (∀ node ∈ e.postorder, (node.value x).isFinite = true) ∧ v = e.value x := by
  constructor
  · intro result
    cases found : firstNonFinite? x e.postorder with
    | none =>
        have finite := firstNonFinite?_eq_none.mp found
        rw [eval_of_finite finite] at result
        cases result
        exact ⟨finite, rfl⟩
    | some first =>
        obtain ⟨op, -, failed⟩ := eval_of_first point numbers found
        rw [failed] at result
        cases result
  · rintro ⟨finite, rfl⟩
    exact eval_of_finite finite

end Expr

def Token.Finite : Token → Prop
  | number value => value.isFinite = true
  | _ => True

theorem Token.finite_ofChar {c : Char} {t : Token} (read : ofChar? c = some t) : t.Finite := by
  unfold ofChar? at read
  split at read <;> cases read <;> trivial

theorem Token.Lexeme.finite {t : Token} {lexeme rest : List Char} (found : Lexeme t lexeme rest) :
    t.Finite := by
  cases found with
  | symbol known => exact finite_ofChar known
  | number nonempty all part read finite => exact finite
  | name starts all ends => trivial

theorem Expr.Scans.finite {offset : Nat} {cs : List Char} {ts : List Located}
    (scans : Scans offset cs ts) : ∀ found ∈ ts, found.token.Finite := by
  induction scans with
  | nil => simp
  | blank blank others ih => exact ih
  | lexeme found others ih => exact List.forall_mem_cons.mpr ⟨found.finite, ih⟩

namespace Grammar

mutual

theorem Sum.finiteNumbers (d : Sum) (finite : ∀ t ∈ d.word, t.Finite) :
    d.tree.FiniteNumbers := by
  cases d with
  | chain first rest =>
      rw [Sum.word, List.forall_mem_append] at finite
      exact rest.finiteNumbers finite.2 (first.finiteNumbers finite.1)

theorem SumRest.finiteNumbers (d : SumRest) {left : Expr} (finite : ∀ t ∈ d.word, t.Finite)
    (before : left.FiniteNumbers) : (d.treeFrom left).FiniteNumbers := by
  cases d with
  | nil => exact before
  | cons op next rest =>
      rw [SumRest.word, List.forall_mem_cons, List.forall_mem_append] at finite
      exact rest.finiteNumbers finite.2.2 ⟨before, next.finiteNumbers finite.2.1⟩

theorem Product.finiteNumbers (d : Product) (finite : ∀ t ∈ d.word, t.Finite) :
    d.tree.FiniteNumbers := by
  cases d with
  | chain first rest =>
      rw [Product.word, List.forall_mem_append] at finite
      exact rest.finiteNumbers finite.2 (first.finiteNumbers finite.1)

theorem ProductRest.finiteNumbers (d : ProductRest) {left : Expr}
    (finite : ∀ t ∈ d.word, t.Finite) (before : left.FiniteNumbers) :
    (d.treeFrom left).FiniteNumbers := by
  cases d with
  | nil => exact before
  | cons op next rest =>
      rw [ProductRest.word, List.forall_mem_cons, List.forall_mem_append] at finite
      exact rest.finiteNumbers finite.2.2 ⟨before, next.finiteNumbers finite.2.1⟩

theorem Signed.finiteNumbers (d : Signed) (finite : ∀ t ∈ d.word, t.Finite) :
    d.tree.FiniteNumbers := by
  cases d with
  | sign sign inner =>
      rw [Signed.word, List.forall_mem_cons] at finite
      cases sign with
      | plus => exact inner.finiteNumbers finite.2
      | minus => exact inner.finiteNumbers finite.2
  | power power => exact power.finiteNumbers finite

theorem Power.finiteNumbers (d : Power) (finite : ∀ t ∈ d.word, t.Finite) :
    d.tree.FiniteNumbers := by
  cases d with
  | plain base => exact base.finiteNumbers finite
  | raised base exponent =>
      rw [Power.word, List.forall_mem_append, List.forall_mem_cons] at finite
      exact ⟨base.finiteNumbers finite.1, exponent.finiteNumbers finite.2.2⟩

theorem Primary.finiteNumbers (d : Primary) (finite : ∀ t ∈ d.word, t.Finite) :
    d.tree.FiniteNumbers := by
  cases d with
  | number value => exact finite _ (List.mem_singleton_self _)
  | var => trivial
  | circle =>
      show circleConstant.isFinite = true
      decide
  | euler =>
      show eulerNumber.isFinite = true
      decide
  | call name argument =>
      rw [Primary.word, List.forall_mem_cons, List.forall_mem_cons,
        List.forall_mem_append] at finite
      exact argument.finiteNumbers finite.2.2.1
  | group inner =>
      rw [Primary.word, List.forall_mem_cons, List.forall_mem_append] at finite
      exact inner.finiteNumbers finite.2.1

end

end Grammar

theorem Expr.finiteNumbers_of_parse {text : String} {e : Expr} (parsed : parse text = .ok e) :
    e.FiniteNumbers := by
  rw [parse, bind_eq_ok] at parsed
  obtain ⟨ts, read, parsed⟩ := parsed
  obtain ⟨d, word, rfl, -⟩ := Grammar.parseTokens_eq_ok.mp parsed
  apply d.finiteNumbers
  rw [word]
  exact List.forall_mem_map.mpr (tokensFrom_eq_ok.mp read).finite

theorem Formula.ofText_eq_ok {source : String} {f : Formula} :
    ofText source = .ok f ↔ f.source = source ∧ Expr.parse source = .ok f.expr := by
  unfold ofText
  split <;> rename_i parsed <;> rw [parsed]
  · obtain ⟨source', expr⟩ := f
    simp [eq_comm]
  · simp

theorem Formula.eval_eq_ok {f : Formula} {x v : Float} :
    f.eval x = .ok v ↔ f.expr.eval x = .ok v := by
  unfold eval
  split <;> rename_i result <;> simp [result]

theorem Formula.eval_of_error {f : Formula} {x : Float} {failure : NonFinite}
    (failed : f.expr.eval x = .error failure) :
    f.eval x = .error (f.failure failure.message) := by
  rw [eval, failed]

end PlotMarkup
