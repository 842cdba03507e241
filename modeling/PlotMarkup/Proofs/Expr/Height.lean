import Mathlib.Tactic.Ring
import PlotMarkup.Proofs.Expr.Spelling

namespace PlotMarkup

theorem Expr.height_pos (e : Expr) : 0 < e.height := by
  cases e <;> simp [Expr.height]

namespace Grammar

open PlotMarkup.Expr

theorem peak_cons (load : Nat) (loads : List Nat) :
    peak (load :: loads) = max load (peak loads) := rfl

theorem peak_append (loads loads' : List Nat) :
    peak (loads ++ loads') = max (peak loads) (peak loads') := by
  induction loads with
  | nil => exact (Nat.zero_max _).symm
  | cons load rest ih => rw [List.cons_append, peak_cons, peak_cons, ih, Nat.max_assoc]

theorem peak_map_succ {loads : List Nat} (ne : loads ≠ []) :
    peak (loads.map (· + 1)) = peak loads + 1 := by
  induction loads with
  | nil => exact absurd rfl ne
  | cons load rest ih =>
      rw [List.map_cons, peak_cons, peak_cons]
      by_cases last : rest = []
      · simp [last, peak]
      · rw [ih last, Nat.add_max_add_right]

mutual

/--
One number for each number or variable of the derivation: how many signs, functions and powers
enclose it, itself included, plus, for each sum and product around it, how many operators stand
after it there, and the one right before it.
-/
def Sum.reaches : Sum → List Nat
  | .chain first rest => rest.reachesFrom first.reaches

def SumRest.reachesFrom : SumRest → List Nat → List Nat
  | .nil, left => left
  | .cons _ next rest, left => rest.reachesFrom ((left ++ next.reaches).map (· + 1))

def Product.reaches : Product → List Nat
  | .chain first rest => rest.reachesFrom first.reaches

def ProductRest.reachesFrom : ProductRest → List Nat → List Nat
  | .nil, left => left
  | .cons _ next rest, left => rest.reachesFrom ((left ++ next.reaches).map (· + 1))

def Signed.reaches : Signed → List Nat
  | .sign .minus inner => inner.reaches.map (· + 1)
  | .sign .plus inner => inner.reaches
  | .power power => power.reaches

def Power.reaches : Power → List Nat
  | .plain base => base.reaches
  | .raised base exponent => (base.reaches ++ exponent.reaches).map (· + 1)

def Primary.reaches : Primary → List Nat
  | .call _ argument => argument.reaches.map (· + 1)
  | .group inner => inner.reaches
  | _ => [1]

end

theorem height_enclosed {e : Expr} {reaches : List Nat} (same : e.height = peak reaches) :
    e.height + 1 = peak (reaches.map (· + 1)) := by
  have ne : reaches ≠ [] := by
    rintro rfl
    exact absurd same (Nat.ne_of_gt e.height_pos)
  rw [peak_map_succ ne, same]

theorem height_binary {left right : Expr} {op : Operator} {reaches reaches' : List Nat}
    (same : left.height = peak reaches) (same' : right.height = peak reaches') :
    (Expr.binary left op right).height = peak ((reaches ++ reaches').map (· + 1)) := by
  have ne : reaches ++ reaches' ≠ [] := by
    intro nil
    rw [List.append_eq_nil_iff] at nil
    obtain ⟨rfl, -⟩ := nil
    exact absurd same (Nat.ne_of_gt left.height_pos)
  rw [peak_map_succ ne, peak_append, Expr.height, same, same']

mutual

theorem Sum.height_tree : ∀ d : Sum, d.tree.height = peak d.reaches
  | .chain first rest => rest.height_treeFrom first.height_tree

theorem SumRest.height_treeFrom : ∀ (d : SumRest) {left : Expr} {reaches : List Nat},
    left.height = peak reaches → (d.treeFrom left).height = peak (d.reachesFrom reaches)
  | .nil, _, _, same => same
  | .cons _ next rest, _, _, same => rest.height_treeFrom (height_binary same next.height_tree)

theorem Product.height_tree : ∀ d : Product, d.tree.height = peak d.reaches
  | .chain first rest => rest.height_treeFrom first.height_tree

theorem ProductRest.height_treeFrom : ∀ (d : ProductRest) {left : Expr} {reaches : List Nat},
    left.height = peak reaches → (d.treeFrom left).height = peak (d.reachesFrom reaches)
  | .nil, _, _, same => same
  | .cons _ next rest, _, _, same => rest.height_treeFrom (height_binary same next.height_tree)

theorem Signed.height_tree : ∀ d : Signed, d.tree.height = peak d.reaches
  | .sign .minus inner => height_enclosed inner.height_tree
  | .sign .plus inner => inner.height_tree
  | .power power => power.height_tree

theorem Power.height_tree : ∀ d : Power, d.tree.height = peak d.reaches
  | .plain base => base.height_tree
  | .raised base exponent => height_binary base.height_tree exponent.height_tree

theorem Primary.height_tree : ∀ d : Primary, d.tree.height = peak d.reaches
  | .number _ => rfl
  | .var => rfl
  | .circle => rfl
  | .euler => rfl
  | .call _ argument => height_enclosed argument.height_tree
  | .group inner => inner.height_tree

end

theorem Signed.budget_pos (d : Signed) {budget : Nat} (within : Within budget d.loads) :
    0 < budget := by
  cases d <;> exact within 1 List.mem_cons_self

theorem Product.budget_pos (d : Product) {budget : Nat} (within : Within budget d.loads) :
    0 < budget := by
  obtain ⟨first, rest⟩ := d
  exact first.budget_pos (within_append.mp within).1

mutual

theorem Sum.height_lt : ∀ (d : Sum) {budget : Nat}, Within budget d.loads →
    d.tree.height < budget * (budget + 1)
  | .chain first rest, budget, within => by
      obtain ⟨withinFirst, withinRest⟩ := within_append.mp within
      have bound := rest.height_le withinRest le_rfl (first.height_le withinFirst)
      have pos := first.budget_pos withinFirst
      rw [Nat.mul_add_one]
      show (rest.treeFrom first.tree).height < _
      omega

theorem SumRest.height_le : ∀ (d : SumRest) {budget : Nat} {left : Expr} {height : Nat},
    Within budget d.loads → budget * budget ≤ height → left.height ≤ height →
    (d.treeFrom left).height ≤ height + (budget - 1)
  | .nil, budget, left, height, _, _, bound => Nat.le_add_right_of_le bound
  | .cons op next rest, budget, left, height, within, room, bound => by
      obtain ⟨less, rfl, withinTail⟩ := Within.of_map
        (List.append_ne_nil_of_left_ne_nil next.loads_ne_nil rest.loads) within
      obtain ⟨withinNext, withinRest⟩ := within_append.mp withinTail
      have nextBound := next.height_le withinNext
      have pos := next.budget_pos withinNext
      have square : (less + 1) * (less + 1) = less * less + 2 * less + 1 := by ring
      have joined : (Expr.binary left op.operator next.tree).height ≤ height + 1 := by
        rw [Expr.height]
        omega
      have := rest.height_le withinRest (by omega) joined
      show (rest.treeFrom _).height ≤ _
      omega

theorem Product.height_le : ∀ (d : Product) {budget : Nat}, Within budget d.loads →
    d.tree.height ≤ budget * budget
  | .chain first rest, budget, within => by
      obtain ⟨withinFirst, withinRest⟩ := within_append.mp within
      have firstBound := first.height_le withinFirst
      have pos := first.budget_pos withinFirst
      have square : budget ≤ budget * budget := Nat.le_mul_self budget
      have height : first.tree.height ≤ budget * budget + 1 - budget := by omega
      have bound := rest.height_le withinRest (by omega) height
      show (rest.treeFrom first.tree).height ≤ _
      omega

theorem ProductRest.height_le : ∀ (d : ProductRest) {budget : Nat} {left : Expr} {height : Nat},
    Within budget d.loads → budget * budget + 1 ≤ height + budget → left.height ≤ height →
    (d.treeFrom left).height ≤ height + (budget - 1)
  | .nil, budget, left, height, _, _, bound => Nat.le_add_right_of_le bound
  | .cons op next rest, budget, left, height, within, room, bound => by
      obtain ⟨less, rfl, withinTail⟩ := Within.of_map
        (List.append_ne_nil_of_left_ne_nil next.loads_ne_nil rest.loads) within
      obtain ⟨withinNext, withinRest⟩ := within_append.mp withinTail
      have nextBound := next.height_le withinNext
      have pos := next.budget_pos withinNext
      have square : (less + 1) * (less + 1) = less * less + 2 * less + 1 := by ring
      have joined : (Expr.binary left op.operator next.tree).height ≤ height + 1 := by
        rw [Expr.height]
        omega
      have := rest.height_le withinRest (by omega) joined
      show (rest.treeFrom _).height ≤ _
      omega

theorem Signed.height_le : ∀ (d : Signed) {budget : Nat}, Within budget d.loads →
    d.tree.height + budget ≤ budget * budget + 1
  | .sign op inner, budget, within => by
      obtain ⟨less, rfl, withinInner⟩ := Within.of_cons within
      have bound := inner.height_le withinInner
      have pos := inner.budget_pos withinInner
      have square : (less + 1) * (less + 1) = less * less + 2 * less + 1 := by ring
      have signed : (Signed.sign op inner).tree.height ≤ inner.tree.height + 1 := by
        cases op with
        | plus => exact Nat.le_succ _
        | minus => exact le_rfl
      omega
  | .power power, budget, within => by
      obtain ⟨less, rfl, withinPower⟩ := Within.of_cons within
      have bound := power.height_le withinPower
      have square : (less + 1) * (less + 1) = less * less + 2 * less + 1 := by ring
      show power.tree.height + _ ≤ _
      omega

theorem Power.height_le : ∀ (d : Power) {budget : Nat}, Within budget d.loads →
    d.tree.height ≤ budget * budget + budget + 1
  | .plain base, budget, within => by
      have bound := base.height_le within
      show base.tree.height ≤ _
      omega
  | .raised base exponent, budget, within => by
      obtain ⟨withinBase, withinExponent⟩ := within_append.mp within
      have baseBound := base.height_le withinBase
      have exponentBound := exponent.height_le withinExponent
      have pos := exponent.budget_pos withinExponent
      rw [Power.tree, Expr.height]
      omega

theorem Primary.height_le : ∀ (d : Primary) {budget : Nat}, Within budget d.loads →
    d.tree.height ≤ max 1 (budget * budget + budget)
  | .number _, _, _ => Nat.le_max_left _ _
  | .var, _, _ => Nat.le_max_left _ _
  | .circle, _, _ => Nat.le_max_left _ _
  | .euler, _, _ => Nat.le_max_left _ _
  | .call _ argument, budget, within => by
      have bound := argument.height_lt within
      rw [Nat.mul_add_one] at bound
      rw [Primary.tree, Expr.height]
      omega
  | .group inner, budget, within => by
      have bound := inner.height_lt within
      rw [Nat.mul_add_one] at bound
      show inner.tree.height ≤ _
      omega

end

def Signed.lone : Signed :=
  .power (.plain .var)

theorem Signed.within_lone (n : Nat) : Within (n + 1) Signed.lone.loads := by
  simp [Signed.lone, Signed.loads, Power.loads, Primary.loads, Within]

def longProduct : Nat → ProductRest
  | 0 => .nil
  | n + 1 => .cons .times .lone (longProduct n)

def longSum : Nat → SumRest
  | 0 => .nil
  | n + 1 => .cons .plus (.chain .lone .nil) (longSum n)

def lengthened (first : Signed) (n : Nat) : Sum :=
  .chain (.chain first (longProduct n)) (longSum n)

def highest : Nat → Signed
  | 0 => .lone
  | n + 1 => .power (.raised (.call (.own .sin) (lengthened (highest n) n)) .lone)

theorem within_longProduct (n : Nat) : Within (n + 1) (longProduct n).loads := by
  induction n with
  | zero => simp [longProduct, ProductRest.loads, Within]
  | succ n ih => exact within_succ.mpr (within_append.mpr ⟨Signed.within_lone n, ih⟩)

theorem within_longSum (n : Nat) : Within (n + 1) (longSum n).loads := by
  induction n with
  | zero => simp [longSum, SumRest.loads, Within]
  | succ n ih =>
      have withinNext : Within (n + 1) (Product.chain .lone .nil).loads :=
        within_append.mpr ⟨Signed.within_lone n, within_longProduct 0 |>.mono (by omega)⟩
      exact within_succ.mpr (within_append.mpr ⟨withinNext, ih⟩)

theorem within_lengthened {first : Signed} {n : Nat} (within : Within (n + 1) first.loads) :
    Within (n + 1) (lengthened first n).loads :=
  within_append.mpr ⟨within_append.mpr ⟨within, within_longProduct n⟩, within_longSum n⟩

theorem within_highest (n : Nat) : Within (n + 1) (highest n).loads := by
  induction n with
  | zero => exact Signed.within_lone 0
  | succ n ih =>
      exact Within.cons (within_append.mpr ⟨within_lengthened ih, Signed.within_lone n⟩)

theorem height_longProduct (n : Nat) (left : Expr) :
    ((longProduct n).treeFrom left).height = left.height + n := by
  induction n generalizing left with
  | zero => rfl
  | succ n ih =>
      have joined : (Expr.binary left .mul .var).height = left.height + 1 :=
        congrArg (· + 1) (Nat.max_eq_left left.height_pos)
      rw [longProduct, ProductRest.treeFrom, ih]
      show (Expr.binary left .mul .var).height + n = _
      omega

theorem height_longSum (n : Nat) (left : Expr) :
    ((longSum n).treeFrom left).height = left.height + n := by
  induction n generalizing left with
  | zero => rfl
  | succ n ih =>
      have joined : (Expr.binary left .add .var).height = left.height + 1 :=
        congrArg (· + 1) (Nat.max_eq_left left.height_pos)
      rw [longSum, SumRest.treeFrom, ih]
      show (Expr.binary left .add .var).height + n = _
      omega

theorem height_lengthened (first : Signed) (n : Nat) :
    (lengthened first n).tree.height = first.tree.height + 2 * n := by
  rw [lengthened, Sum.tree, height_longSum, Product.tree, height_longProduct]
  omega

theorem height_highest (n : Nat) : (highest n).tree.height = n * (n + 1) + 1 := by
  induction n with
  | zero => rfl
  | succ n ih =>
      have raised : (highest (n + 1)).tree.height = (lengthened (highest n) n).tree.height + 2 :=
        congrArg (· + 1) (Nat.max_eq_left (Nat.succ_pos _))
      have square : (n + 1) * (n + 1 + 1) = n * (n + 1) + 2 * n + 2 := by ring
      rw [raised, height_lengthened, ih]
      omega

def negated : Nat → Signed
  | 0 => .lone
  | n + 1 => .sign .minus (negated n)

theorem within_negated (n : Nat) : Within (n + 1) (negated n).loads := by
  induction n with
  | zero => exact Signed.within_lone 0
  | succ n ih => exact Within.cons ih

theorem height_negated (n : Nat) : (negated n).tree.height = n + 1 := by
  induction n with
  | zero => rfl
  | succ n ih => exact congrArg (· + 1) ih

theorem plain_lone : ∀ t ∈ Signed.lone.word, Plain t := by
  simp [Signed.lone, Signed.word, Power.word, Primary.word, Plain.var]

theorem plain_longProduct (n : Nat) : ∀ t ∈ (longProduct n).word, Plain t := by
  induction n with
  | zero => simp [longProduct, ProductRest.word]
  | succ n ih =>
      exact List.forall_mem_cons.mpr
        ⟨.operator _, List.forall_mem_append.mpr ⟨plain_lone, ih⟩⟩

theorem plain_longSum (n : Nat) : ∀ t ∈ (longSum n).word, Plain t := by
  induction n with
  | zero => simp [longSum, SumRest.word]
  | succ n ih =>
      have plainNext : ∀ t ∈ (Product.chain .lone .nil).word, Plain t :=
        List.forall_mem_append.mpr ⟨plain_lone, plain_longProduct 0⟩
      exact List.forall_mem_cons.mpr
        ⟨.operator _, List.forall_mem_append.mpr ⟨plainNext, ih⟩⟩

theorem plain_lengthened {first : Signed} (plain : ∀ t ∈ first.word, Plain t) (n : Nat) :
    ∀ t ∈ (lengthened first n).word, Plain t :=
  List.forall_mem_append.mpr
    ⟨List.forall_mem_append.mpr ⟨plain, plain_longProduct n⟩, plain_longSum n⟩

theorem plain_highest (n : Nat) : ∀ t ∈ (highest n).word, Plain t := by
  induction n with
  | zero => exact plain_lone
  | succ n ih =>
      have closed : ∀ t ∈ [Token.closeParen], Plain t := by simp [Plain.closeParen]
      have argument : ∀ t ∈ (lengthened (highest n) n).word ++ [.closeParen], Plain t :=
        List.forall_mem_append.mpr ⟨plain_lengthened ih n, closed⟩
      have call : ∀ t ∈ (Primary.call (.own .sin) (lengthened (highest n) n)).word, Plain t :=
        List.forall_mem_cons.mpr ⟨.sin, List.forall_mem_cons.mpr ⟨.openParen, argument⟩⟩
      exact List.forall_mem_append.mpr ⟨call, List.forall_mem_cons.mpr ⟨.operator _, plain_lone⟩⟩

theorem plain_negated (n : Nat) : ∀ t ∈ (negated n).word, Plain t := by
  induction n with
  | zero => exact plain_lone
  | succ n ih => exact List.forall_mem_cons.mpr ⟨.operator _, ih⟩

theorem spelling_negated (n : Nat) :
    (negated n).word.flatMap spelling = List.replicate n '-' ++ ['x', ' '] := by
  induction n with
  | zero => rfl
  | succ n ih => exact congrArg ('-' :: ·) ih

end Grammar

namespace Expr

open Grammar

/--
The levels of nesting do not bound the height of an expression.  The height is within them exactly
if no number or variable of the derivation reaches further, with the operators of sums and products
charged to the operands before them; in general it is only less than the number of levels times the
next number.
-/
theorem height_of_parse {text : String} {e : Expr} (parsed : parse text = .ok e) :
    (e.height ≤ maxDepth ↔ ∃ ts, tokens text = .ok ts ∧ ∃ d : Grammar.Sum,
      d.word = ts.map Located.token ∧ peak d.reaches ≤ maxDepth) ∧
    e.height < maxDepth * (maxDepth + 1) := by
  obtain ⟨ts, read, parsed⟩ := bind_eq_ok.mp parsed
  obtain ⟨d, word, rfl, within⟩ := parseTokens_eq_ok.mp parsed
  refine ⟨?_, d.height_lt within⟩
  rw [d.height_tree]
  constructor
  · intro low
    exact ⟨ts, read, d, word, low⟩
  · rintro ⟨ts', read', d', word', low⟩
    rw [read] at read'
    cases read'
    rwa [Sum.word_injective (word.trans word'.symm)]

theorem exists_height_eq :
    ∃ text e, parse text = .ok e ∧ e.height < maxDepth * (maxDepth + 1) ∧
      e.height + 1 = maxDepth * (maxDepth + 1) := by
  have parsed := parse_text (plain_lengthened (plain_highest 255) 255)
    (within_lengthened (within_highest 255))
  refine ⟨_, _, parsed, (height_of_parse parsed).2, ?_⟩
  rw [height_lengthened, height_highest]
  rfl

theorem exists_height_gt_maxDepth :
    ∃ e, parse (String.ofList (List.replicate 255 '-' ++ ['x', ' ', '+', 'x', ' '])) = .ok e ∧
      maxDepth < e.height := by
  let d : Grammar.Sum := .chain (.chain (negated 255) .nil) (longSum 1)
  have plain : ∀ t ∈ d.word, Plain t := List.forall_mem_append.mpr
    ⟨List.forall_mem_append.mpr ⟨plain_negated 255, plain_longProduct 0⟩, plain_longSum 1⟩
  have within : Within maxDepth d.loads := within_append.mpr
    ⟨within_append.mpr ⟨within_negated 255, (within_longProduct 0).mono (by decide)⟩,
      (within_longSum 1).mono (by decide)⟩
  have spelled : d.word.flatMap spelling =
      List.replicate 255 '-' ++ ['x', ' ', '+', 'x', ' '] := by
    show ((negated 255).word ++ [] ++ (longSum 1).word).flatMap spelling = _
    rw [List.append_nil, List.flatMap_append, spelling_negated, List.append_assoc]
    rfl
  refine ⟨d.tree, spelled ▸ parse_text plain within, ?_⟩
  show maxDepth < ((longSum 1).treeFrom (negated 255).tree).height
  rw [height_longSum, height_negated]
  decide

end Expr

end PlotMarkup
