import PlotMarkup.Proofs.Outcome
import PlotMarkup.Proofs.Expr.Grammar

namespace PlotMarkup.Grammar

open PlotMarkup.Expr

/-- Reading a word from the head of a token list leaves the rest. -/
def Reads (word : List Token) (ts rest : List Located) : Prop :=
  ∃ front, ts = front ++ rest ∧ front.map Located.token = word

theorem reads_nil (ts : List Located) : Reads [] ts ts :=
  ⟨[], rfl, rfl⟩

theorem Reads.cons {word : List Token} {ts rest : List Located} {found : Located} {t : Token}
    (reads : Reads word ts rest) (token : found.token = t) :
    Reads (t :: word) (found :: ts) rest := by
  obtain ⟨front, rfl, rfl⟩ := reads
  obtain rfl := token
  exact ⟨found :: front, rfl, rfl⟩

theorem Reads.append {word word' : List Token} {ts mid rest : List Located}
    (first : Reads word ts mid) (second : Reads word' mid rest) :
    Reads (word ++ word') ts rest := by
  obtain ⟨front, rfl, rfl⟩ := first
  obtain ⟨front', rfl, rfl⟩ := second
  exact ⟨front ++ front', by simp, by simp⟩

theorem Reads.of_nil {ts rest : List Located} (reads : Reads [] ts rest) : ts = rest := by
  obtain ⟨front, rfl, none⟩ := reads
  simp [List.map_eq_nil_iff.mp none]

theorem Reads.of_cons {t : Token} {word : List Token} {ts rest : List Located}
    (reads : Reads (t :: word) ts rest) :
    ∃ offset tail, ts = ⟨t, offset⟩ :: tail ∧ Reads word tail rest := by
  obtain ⟨front, rfl, same⟩ := reads
  obtain ⟨found, tail, rfl, rfl, rfl⟩ := List.map_eq_cons_iff.mp same
  exact ⟨found.offset, tail ++ rest, rfl, tail, rfl, rfl⟩

theorem Reads.of_append {word word' : List Token} {ts rest : List Located}
    (reads : Reads (word ++ word') ts rest) : ∃ mid, Reads word ts mid ∧ Reads word' mid rest := by
  obtain ⟨front, rfl, same⟩ := reads
  obtain ⟨first, second, rfl, rfl, rfl⟩ := List.map_eq_append_iff.mp same
  exact ⟨second ++ rest, ⟨first, by simp, rfl⟩, second, rfl, rfl⟩

theorem Reads.tokens {word : List Token} {ts rest : List Located} (reads : Reads word ts rest) :
    ts.map Located.token = word ++ rest.map Located.token := by
  obtain ⟨front, rfl, rfl⟩ := reads
  exact List.map_append

theorem reads_all {word : List Token} {ts : List Located} :
    Reads word ts [] ↔ word = ts.map Located.token := by
  constructor
  · rintro ⟨front, rfl, rfl⟩
    simp
  · rintro rfl
    exact ⟨ts, by simp, rfl⟩

def Within (budget : Nat) (loads : List Nat) : Prop :=
  ∀ load ∈ loads, load ≤ budget

theorem within_append {budget : Nat} {loads loads' : List Nat} :
    Within budget (loads ++ loads') ↔ Within budget loads ∧ Within budget loads' :=
  List.forall_mem_append

theorem Within.mono {budget budget' : Nat} {loads : List Nat} (le : budget ≤ budget')
    (within : Within budget loads) : Within budget' loads :=
  fun load mem => Nat.le_trans (within load mem) le

theorem within_succ {budget : Nat} {loads : List Nat} :
    Within (budget + 1) (loads.map (· + 1)) ↔ Within budget loads := by
  simp [Within]

theorem Signed.loads_ne_nil (d : Signed) : d.loads ≠ [] := by
  cases d <;> exact List.cons_ne_nil _ _

theorem Product.loads_ne_nil (d : Product) : d.loads ≠ [] := by
  obtain ⟨first, rest⟩ := d
  exact List.append_ne_nil_of_left_ne_nil first.loads_ne_nil rest.loads

theorem Within.of_map {budget : Nat} {loads : List Nat} (ne : loads ≠ [])
    (within : Within budget (loads.map (· + 1))) :
    ∃ less, budget = less + 1 ∧ Within less loads := by
  cases budget with
  | zero =>
      obtain ⟨load, rest, rfl⟩ := List.exists_cons_of_ne_nil ne
      exact absurd (within (load + 1) (by simp)) (by omega)
  | succ less => exact ⟨less, rfl, within_succ.mp within⟩

theorem Within.cons {budget : Nat} {loads : List Nat} (within : Within budget loads) :
    Within (budget + 1) (1 :: loads.map (· + 1)) := by
  have headed : Within budget (0 :: loads) := by simpa [Within] using within
  exact within_succ.mpr headed

theorem Within.of_cons {budget : Nat} {loads : List Nat}
    (within : Within budget (1 :: loads.map (· + 1))) :
    ∃ less, budget = less + 1 ∧ Within less loads := by
  obtain ⟨less, rfl, inner⟩ := Within.of_map (List.cons_ne_nil 0 loads) within
  exact ⟨less, rfl, fun load mem => inner load (List.mem_cons_of_mem 0 mem)⟩

theorem parseSumTail_stops (stop budget : Nat) (left : Expr) {rest : List Located}
    (ends : Avoids Sum.continuing (rest.map Located.token)) :
    parseSumTail stop budget left rest = .ok (left, rest) := by
  cases rest with
  | nil => rw [parseSumTail]
  | cons found rest =>
      rw [parseSumTail]
      split
      · rename_i token
        exact absurd (congrArg some token) (ends .add (by decide))
      · rename_i token
        exact absurd (congrArg some token) (ends .sub (by decide))
      · rfl

theorem parseProductTail_stops (stop budget : Nat) (left : Expr) {rest : List Located}
    (ends : Avoids Product.continuing (rest.map Located.token)) :
    parseProductTail stop budget left rest = .ok (left, rest) := by
  cases rest with
  | nil => rw [parseProductTail]
  | cons found rest =>
      rw [parseProductTail]
      split
      · rename_i token
        exact absurd (congrArg some token) (ends .mul (by decide))
      · rename_i token
        exact absurd (congrArg some token) (ends .div (by decide))
      · rfl

theorem FunctionName.constant?_text (name : FunctionName) : constant? name.text = none := by
  cases name with
  | own function => cases function <;> rfl
  | log => rfl

mutual

theorem Sum.parses : ∀ (d : Sum) {stop budget : Nat} {ts rest : List Located},
    Reads d.word ts rest → Within budget d.loads → Avoids Sum.continuing (rest.map Located.token) →
    parseSum stop budget ts = .ok (d.tree, rest)
  | .chain first after, stop, budget, ts, rest, reads, within, ends => by
      obtain ⟨mid, readsFirst, readsAfter⟩ := Reads.of_append reads
      obtain ⟨withinFirst, withinAfter⟩ := within_append.mp within
      have endsFirst : Avoids Product.continuing (mid.map Located.token) := by
        rw [readsAfter.tokens]
        exact after.avoids_word ends
      rw [parseSum, first.parses readsFirst withinFirst endsFirst]
      exact after.parses first.tree readsAfter withinAfter ends

theorem SumRest.parses : ∀ (d : SumRest) (left : Expr) {stop budget : Nat}
    {ts rest : List Located}, Reads d.word ts rest → Within budget d.loads →
    Avoids Sum.continuing (rest.map Located.token) →
    parseSumTail stop budget left ts = .ok (d.treeFrom left, rest)
  | .nil, left, stop, budget, ts, rest, reads, _, ends => by
      rw [Reads.of_nil reads]
      exact parseSumTail_stops stop budget left ends
  | .cons op next after, left, stop, budget, ts, rest, reads, within, ends => by
      obtain ⟨offset, tail, rfl, readsTail⟩ := Reads.of_cons reads
      obtain ⟨mid, readsNext, readsAfter⟩ := Reads.of_append readsTail
      obtain ⟨less, rfl, withinTail⟩ := Within.of_map
        (List.append_ne_nil_of_left_ne_nil next.loads_ne_nil after.loads) within
      obtain ⟨withinNext, withinAfter⟩ := within_append.mp withinTail
      have endsNext : Avoids Product.continuing (mid.map Located.token) := by
        rw [readsAfter.tokens]
        exact after.avoids_word ends
      have step : parseSumTail stop (less + 1) left (⟨.operator op.operator, offset⟩ :: tail) =
          parseSumNext stop (less + 1) left op.operator tail := by
        cases op <;> rw [parseSumTail] <;> rfl
      rw [step, parseSumNext, next.parses readsNext withinNext endsNext]
      exact after.parses _ readsAfter withinAfter ends

theorem Product.parses : ∀ (d : Product) {stop budget : Nat} {ts rest : List Located},
    Reads d.word ts rest → Within budget d.loads →
    Avoids Product.continuing (rest.map Located.token) →
    parseProduct stop budget ts = .ok (d.tree, rest)
  | .chain first after, stop, budget, ts, rest, reads, within, ends => by
      obtain ⟨mid, readsFirst, readsAfter⟩ := Reads.of_append reads
      obtain ⟨withinFirst, withinAfter⟩ := within_append.mp within
      have endsFirst : Avoids Signed.continuing (mid.map Located.token) := by
        rw [readsAfter.tokens]
        exact after.avoids_word ends
      rw [parseProduct, first.parses readsFirst withinFirst endsFirst]
      exact after.parses first.tree readsAfter withinAfter ends

theorem ProductRest.parses : ∀ (d : ProductRest) (left : Expr) {stop budget : Nat}
    {ts rest : List Located}, Reads d.word ts rest → Within budget d.loads →
    Avoids Product.continuing (rest.map Located.token) →
    parseProductTail stop budget left ts = .ok (d.treeFrom left, rest)
  | .nil, left, stop, budget, ts, rest, reads, _, ends => by
      rw [Reads.of_nil reads]
      exact parseProductTail_stops stop budget left ends
  | .cons op next after, left, stop, budget, ts, rest, reads, within, ends => by
      obtain ⟨offset, tail, rfl, readsTail⟩ := Reads.of_cons reads
      obtain ⟨mid, readsNext, readsAfter⟩ := Reads.of_append readsTail
      obtain ⟨less, rfl, withinTail⟩ := Within.of_map
        (List.append_ne_nil_of_left_ne_nil next.loads_ne_nil after.loads) within
      obtain ⟨withinNext, withinAfter⟩ := within_append.mp withinTail
      have endsNext : Avoids Signed.continuing (mid.map Located.token) := by
        rw [readsAfter.tokens]
        exact after.avoids_word ends
      have step :
          parseProductTail stop (less + 1) left (⟨.operator op.operator, offset⟩ :: tail) =
            parseProductNext stop (less + 1) left op.operator tail := by
        cases op <;> rw [parseProductTail] <;> rfl
      rw [step, parseProductNext, next.parses readsNext withinNext endsNext]
      exact after.parses _ readsAfter withinAfter ends

theorem Signed.parses : ∀ (d : Signed) {stop budget : Nat} {ts rest : List Located},
    Reads d.word ts rest → Within budget d.loads →
    Avoids Signed.continuing (rest.map Located.token) →
    parseSigned stop budget ts = .ok (d.tree, rest)
  | .sign op inner, stop, budget, ts, rest, reads, within, ends => by
      obtain ⟨offset, tail, rfl, readsInner⟩ := Reads.of_cons reads
      obtain ⟨less, rfl, withinInner⟩ := Within.of_cons within
      cases op with
      | plus =>
          rw [Additive.operator, parseSigned]
          exact inner.parses readsInner withinInner ends
      | minus =>
          rw [Additive.operator, parseSigned, inner.parses readsInner withinInner ends]
          rfl
  | .power power, stop, budget, ts, rest, reads, within, ends => by
      obtain ⟨less, rfl, withinPower⟩ := Within.of_cons within
      have readsPower : Reads power.word ts rest := reads
      have head (op : Operator) : (ts.map Located.token).head? ≠ some (.operator op) := by
        rw [readsPower.tokens]
        exact power.head_word _ op
      rw [parseSigned]
      · exact power.parses readsPower withinPower ends
      · rintro offset tail rfl
        exact head .sub rfl
      · rintro offset tail rfl
        exact head .add rfl

theorem Power.parses : ∀ (d : Power) {stop budget : Nat} {ts rest : List Located},
    Reads d.word ts rest → Within budget d.loads →
    Avoids Signed.continuing (rest.map Located.token) →
    parsePower stop budget ts = .ok (d.tree, rest)
  | .plain base, stop, budget, ts, rest, reads, within, ends => by
      rw [parsePower, base.parses reads within]
      show (match rest with | ⟨.operator .pow, _⟩ :: rest => _ | rest => _) = _
      split
      · exact absurd rfl (ends .pow (by decide))
      · rfl
  | .raised base exponent, stop, budget, ts, rest, reads, within, ends => by
      obtain ⟨mid, readsBase, readsMid⟩ := Reads.of_append reads
      obtain ⟨offset, tail, rfl, readsExponent⟩ := Reads.of_cons readsMid
      obtain ⟨withinBase, withinExponent⟩ := within_append.mp within
      have exponentParsed : parseSigned stop budget tail = .ok (exponent.tree, rest) :=
        exponent.parses readsExponent withinExponent ends
      rw [parsePower, base.parses readsBase withinBase]
      show (do let (exponent, rest) ← parseSigned stop budget tail
               return (Expr.binary base.tree .pow exponent, rest)) = _
      rw [exponentParsed]
      rfl

theorem Primary.parses : ∀ (d : Primary) {stop budget : Nat} {ts rest : List Located},
    Reads d.word ts rest → Within budget d.loads →
    parsePrimary stop budget ts = .ok (d.tree, rest)
  | .number value, stop, budget, ts, rest, reads, _ => by
      obtain ⟨offset, tail, rfl, readsTail⟩ := Reads.of_cons reads
      rw [parsePrimary, readsTail.of_nil]
      rfl
  | .var, stop, budget, ts, rest, reads, _ => by
      obtain ⟨offset, tail, rfl, readsTail⟩ := Reads.of_cons reads
      rw [parsePrimary, readsTail.of_nil]
      rfl
  | .circle, stop, budget, ts, rest, reads, _ => by
      obtain ⟨offset, tail, rfl, readsTail⟩ := Reads.of_cons reads
      rw [parsePrimary, readsTail.of_nil]
      rfl
  | .euler, stop, budget, ts, rest, reads, _ => by
      obtain ⟨offset, tail, rfl, readsTail⟩ := Reads.of_cons reads
      rw [parsePrimary, readsTail.of_nil]
      rfl
  | .call name argument, stop, budget, ts, rest, reads, within => by
      obtain ⟨offset, tail, rfl, readsOpen⟩ := Reads.of_cons reads
      obtain ⟨offset', tail', rfl, readsInner⟩ := Reads.of_cons readsOpen
      obtain ⟨mid, readsArgument, readsClose⟩ := Reads.of_append readsInner
      obtain ⟨offset'', tail'', rfl, readsTail⟩ := Reads.of_cons readsClose
      rw [parsePrimary, if_neg name.text_ne.1, name.constant?_text, name.ofName?_text]
      show (do let (argument, rest) ← parseSum stop budget tail'
               let rest ← closeParen stop rest
               return (Expr.call name.function argument, rest)) = _
      rw [argument.parses readsArgument within (avoids_cons (by simp)), readsTail.of_nil]
      rfl
  | .group inner, stop, budget, ts, rest, reads, within => by
      obtain ⟨offset, tail, rfl, readsInner⟩ := Reads.of_cons reads
      obtain ⟨mid, readsSum, readsClose⟩ := Reads.of_append readsInner
      obtain ⟨offset', tail', rfl, readsTail⟩ := Reads.of_cons readsClose
      rw [parsePrimary, inner.parses readsSum within (avoids_cons (by simp)), readsTail.of_nil]
      rfl

end

theorem closeParen_eq_ok {stop : Nat} {ts rest : List Located}
    (closed : closeParen stop ts = .ok rest) : Reads [.closeParen] ts rest := by
  cases ts with
  | nil => cases closed
  | cons found tail =>
      rw [closeParen] at closed
      split at closed
      · rename_i token
        obtain rfl := Except.ok.inj closed
        exact (reads_nil tail).cons token
      · cases closed

theorem enclosed_eq_ok {stop : Nat} {inner : Parsed} (build : Expr → Expr) {e : Expr}
    {rest : List Located}
    (parsed : (do let (sum, rest) ← inner
                  let rest ← closeParen stop rest
                  return (build sum, rest)) = Except.ok (e, rest)) :
    ∃ sum mid, inner = .ok (sum, mid) ∧ Reads [.closeParen] mid rest ∧ build sum = e := by
  obtain ⟨⟨sum, mid⟩, innerParsed, parsed⟩ := bind_eq_ok.mp parsed
  obtain ⟨rest', closed, built⟩ := bind_eq_ok.mp parsed
  cases built
  exact ⟨sum, mid, innerParsed, closeParen_eq_ok closed, rfl⟩

theorem Builtin.exists_text {name : String} {function : Builtin}
    (known : Builtin.ofName? name = some function) :
    ∃ called : FunctionName, called.text = name ∧ called.function = function := by
  unfold Builtin.ofName? at known
  split at known <;> cases known
  case h_11 => exact ⟨.log, rfl, rfl⟩
  all_goals exact ⟨.own _, rfl, rfl⟩

theorem constant?_eq_some {name : String} {value : Float} (known : constant? name = some value) :
    (name = "pi" ∧ value = circleConstant) ∨ (name = "e" ∧ value = eulerNumber) := by
  unfold constant? at known
  split at known
  · exact .inl ⟨rfl, (Option.some.inj known).symm⟩
  · exact .inr ⟨rfl, (Option.some.inj known).symm⟩
  · cases known

mutual

theorem parseSum_sound (stop budget : Nat) (ts : List Located) {e : Expr} {rest : List Located}
    (parsed : parseSum stop budget ts = .ok (e, rest)) :
    ∃ d : Sum, Reads d.word ts rest ∧ d.tree = e ∧ Within budget d.loads := by
  rw [parseSum, bind_eq_ok] at parsed
  obtain ⟨⟨left, mid⟩, firstParsed, tailParsed⟩ := parsed
  obtain ⟨first, readsFirst, rfl, withinFirst⟩ := parseProduct_sound stop budget ts firstParsed
  obtain ⟨after, readsAfter, rfl, withinAfter⟩ := parseSumTail_sound stop budget _ mid tailParsed
  exact ⟨.chain first after, readsFirst.append readsAfter, rfl,
    within_append.mpr ⟨withinFirst, withinAfter⟩⟩
termination_by 6 * budget + 3

theorem parseSumTail_sound (stop budget : Nat) (left : Expr) (ts : List Located) {e : Expr}
    {rest : List Located} (parsed : parseSumTail stop budget left ts = .ok (e, rest)) :
    ∃ d : SumRest, Reads d.word ts rest ∧ d.treeFrom left = e ∧ Within budget d.loads := by
  have stops {ts : List Located} (parsed : (.ok (left, ts) : Parsed) = .ok (e, rest)) :
      ∃ d : SumRest, Reads d.word ts rest ∧ d.treeFrom left = e ∧ Within budget d.loads := by
    cases parsed
    exact ⟨.nil, reads_nil _, rfl, by simp [SumRest.loads, Within]⟩
  cases ts with
  | nil =>
      rw [parseSumTail] at parsed
      exact stops parsed
  | cons found tail =>
      rw [parseSumTail] at parsed
      split at parsed
      · rename_i token
        obtain ⟨next, after, reads, tree, within⟩ :=
          parseSumNext_sound stop budget left .plus tail parsed
        exact ⟨.cons .plus next after, reads.cons token, tree, within⟩
      · rename_i token
        obtain ⟨next, after, reads, tree, within⟩ :=
          parseSumNext_sound stop budget left .minus tail parsed
        exact ⟨.cons .minus next after, reads.cons token, tree, within⟩
      · exact stops parsed
termination_by 6 * budget + 1

theorem parseSumNext_sound (stop budget : Nat) (left : Expr) (op : Additive) (ts : List Located)
    {e : Expr} {rest : List Located}
    (parsed : parseSumNext stop budget left op.operator ts = .ok (e, rest)) :
    ∃ (next : Product) (after : SumRest), Reads (next.word ++ after.word) ts rest ∧
      after.treeFrom (.binary left op.operator next.tree) = e ∧
      Within budget ((next.loads ++ after.loads).map (· + 1)) := by
  cases budget with
  | zero =>
      rw [parseSumNext] at parsed
      cases parsed
  | succ less =>
      rw [parseSumNext, bind_eq_ok] at parsed
      obtain ⟨⟨right, mid⟩, nextParsed, tailParsed⟩ := parsed
      obtain ⟨next, readsNext, rfl, withinNext⟩ := parseProduct_sound stop less ts nextParsed
      obtain ⟨after, readsAfter, tree, withinAfter⟩ := parseSumTail_sound stop less _ mid tailParsed
      exact ⟨next, after, readsNext.append readsAfter, tree,
        within_succ.mpr (within_append.mpr ⟨withinNext, withinAfter⟩)⟩
termination_by 6 * budget

theorem parseProduct_sound (stop budget : Nat) (ts : List Located) {e : Expr}
    {rest : List Located} (parsed : parseProduct stop budget ts = .ok (e, rest)) :
    ∃ d : Product, Reads d.word ts rest ∧ d.tree = e ∧ Within budget d.loads := by
  rw [parseProduct, bind_eq_ok] at parsed
  obtain ⟨⟨left, mid⟩, firstParsed, tailParsed⟩ := parsed
  obtain ⟨first, readsFirst, rfl, withinFirst⟩ := parseSigned_sound stop budget ts firstParsed
  obtain ⟨after, readsAfter, rfl, withinAfter⟩ :=
    parseProductTail_sound stop budget _ mid tailParsed
  exact ⟨.chain first after, readsFirst.append readsAfter, rfl,
    within_append.mpr ⟨withinFirst, withinAfter⟩⟩
termination_by 6 * budget + 2

theorem parseProductTail_sound (stop budget : Nat) (left : Expr) (ts : List Located) {e : Expr}
    {rest : List Located} (parsed : parseProductTail stop budget left ts = .ok (e, rest)) :
    ∃ d : ProductRest, Reads d.word ts rest ∧ d.treeFrom left = e ∧ Within budget d.loads := by
  have stops {ts : List Located} (parsed : (.ok (left, ts) : Parsed) = .ok (e, rest)) :
      ∃ d : ProductRest, Reads d.word ts rest ∧ d.treeFrom left = e ∧ Within budget d.loads := by
    cases parsed
    exact ⟨.nil, reads_nil _, rfl, by simp [ProductRest.loads, Within]⟩
  cases ts with
  | nil =>
      rw [parseProductTail] at parsed
      exact stops parsed
  | cons found tail =>
      rw [parseProductTail] at parsed
      split at parsed
      · rename_i token
        obtain ⟨next, after, reads, tree, within⟩ :=
          parseProductNext_sound stop budget left .times tail parsed
        exact ⟨.cons .times next after, reads.cons token, tree, within⟩
      · rename_i token
        obtain ⟨next, after, reads, tree, within⟩ :=
          parseProductNext_sound stop budget left .divide tail parsed
        exact ⟨.cons .divide next after, reads.cons token, tree, within⟩
      · exact stops parsed
termination_by 6 * budget + 1

theorem parseProductNext_sound (stop budget : Nat) (left : Expr) (op : Multiplicative)
    (ts : List Located) {e : Expr} {rest : List Located}
    (parsed : parseProductNext stop budget left op.operator ts = .ok (e, rest)) :
    ∃ (next : Signed) (after : ProductRest), Reads (next.word ++ after.word) ts rest ∧
      after.treeFrom (.binary left op.operator next.tree) = e ∧
      Within budget ((next.loads ++ after.loads).map (· + 1)) := by
  cases budget with
  | zero =>
      rw [parseProductNext] at parsed
      cases parsed
  | succ less =>
      rw [parseProductNext, bind_eq_ok] at parsed
      obtain ⟨⟨right, mid⟩, nextParsed, tailParsed⟩ := parsed
      obtain ⟨next, readsNext, rfl, withinNext⟩ := parseSigned_sound stop less ts nextParsed
      obtain ⟨after, readsAfter, tree, withinAfter⟩ :=
        parseProductTail_sound stop less _ mid tailParsed
      exact ⟨next, after, readsNext.append readsAfter, tree,
        within_succ.mpr (within_append.mpr ⟨withinNext, withinAfter⟩)⟩
termination_by 6 * budget

theorem parseSigned_sound (stop budget : Nat) (ts : List Located) {e : Expr}
    {rest : List Located} (parsed : parseSigned stop budget ts = .ok (e, rest)) :
    ∃ d : Signed, Reads d.word ts rest ∧ d.tree = e ∧ Within budget d.loads := by
  cases budget with
  | zero =>
      rw [parseSigned] at parsed
      cases parsed
  | succ less =>
      rw [parseSigned.eq_def] at parsed
      simp only at parsed
      split at parsed
      · rename_i offset tail
        obtain ⟨⟨inner, rest'⟩, innerParsed, built⟩ := bind_eq_ok.mp parsed
        cases built
        obtain ⟨d, reads, rfl, within⟩ := parseSigned_sound stop less tail innerParsed
        exact ⟨.sign .minus d, reads.cons rfl, rfl, Within.cons within⟩
      · rename_i offset tail
        obtain ⟨d, reads, rfl, within⟩ := parseSigned_sound stop less tail parsed
        exact ⟨.sign .plus d, reads.cons rfl, rfl, Within.cons within⟩
      · obtain ⟨d, reads, rfl, within⟩ := parsePower_sound stop less ts parsed
        exact ⟨.power d, reads, rfl, Within.cons within⟩
termination_by 6 * budget

theorem parsePower_sound (stop budget : Nat) (ts : List Located) {e : Expr}
    {rest : List Located} (parsed : parsePower stop budget ts = .ok (e, rest)) :
    ∃ d : Power, Reads d.word ts rest ∧ d.tree = e ∧ Within budget d.loads := by
  rw [parsePower, bind_eq_ok] at parsed
  obtain ⟨⟨base, mid⟩, baseParsed, tailParsed⟩ := parsed
  obtain ⟨base, readsBase, rfl, withinBase⟩ := parsePrimary_sound stop budget ts baseParsed
  simp only at tailParsed
  split at tailParsed
  · rename_i offset tail
    obtain ⟨⟨exponent, rest'⟩, exponentParsed, built⟩ := bind_eq_ok.mp tailParsed
    cases built
    obtain ⟨exponent, reads, rfl, within⟩ := parseSigned_sound stop budget tail exponentParsed
    exact ⟨.raised base exponent, readsBase.append (reads.cons rfl), rfl,
      within_append.mpr ⟨withinBase, within⟩⟩
  · cases tailParsed
    exact ⟨.plain base, readsBase, rfl, withinBase⟩
termination_by 6 * budget + 5

theorem parsePrimary_sound (stop budget : Nat) (ts : List Located) {e : Expr}
    {rest : List Located} (parsed : parsePrimary stop budget ts = .ok (e, rest)) :
    ∃ d : Primary, Reads d.word ts rest ∧ d.tree = e ∧ Within budget d.loads := by
  rw [parsePrimary.eq_def] at parsed
  split at parsed
  · cases parsed
    exact ⟨.number _, (reads_nil _).cons rfl, rfl, by simp [Primary.loads, Within]⟩
  · obtain ⟨sum, mid, innerParsed, closed, rfl⟩ := enclosed_eq_ok id parsed
    obtain ⟨d, reads, rfl, within⟩ := parseSum_sound stop budget _ innerParsed
    exact ⟨.group d, (reads.append closed).cons rfl, rfl, within⟩
  · rename_i name offset tail
    split at parsed
    · rename_i isVar
      cases parsed
      exact ⟨.var, (reads_nil _).cons (by rw [isVar]), rfl, by simp [Primary.loads, Within]⟩
    · split at parsed
      · rename_i value known
        cases parsed
        obtain ⟨rfl, rfl⟩ | ⟨rfl, rfl⟩ := constant?_eq_some known
        · exact ⟨.circle, (reads_nil _).cons rfl, rfl, by simp [Primary.loads, Within]⟩
        · exact ⟨.euler, (reads_nil _).cons rfl, rfl, by simp [Primary.loads, Within]⟩
      · split at parsed
        · cases parsed
        · rename_i function known
          obtain ⟨called, rfl, rfl⟩ := Builtin.exists_text known
          split at parsed
          · obtain ⟨sum, mid, innerParsed, closed, rfl⟩ := enclosed_eq_ok (.call _) parsed
            obtain ⟨d, reads, rfl, within⟩ := parseSum_sound stop budget _ innerParsed
            exact ⟨.call called d, ((reads.append closed).cons rfl).cons rfl, rfl, within⟩
          · cases parsed
  · cases parsed
termination_by 6 * budget + 4

end

theorem parseTokens_eq_ok {stop : Nat} {ts : List Located} {e : Expr} :
    parseTokens stop ts = .ok e ↔
      ∃ d : Sum, d.word = ts.map Located.token ∧ d.tree = e ∧ Within maxDepth d.loads := by
  constructor
  · intro parsed
    unfold parseTokens at parsed
    split at parsed
    · cases parsed
    · obtain ⟨⟨e', rest⟩, sumParsed, parsed⟩ := bind_eq_ok.mp parsed
      split at parsed
      · rename_i e'' whole
        cases parsed
        cases whole
        obtain ⟨d, reads, tree, within⟩ := parseSum_sound stop maxDepth ts sumParsed
        exact ⟨d, reads_all.mp reads, tree, within⟩
      · cases parsed
  · rintro ⟨d, word, rfl, within⟩
    have parsed : parseSum stop maxDepth ts = .ok (d.tree, []) :=
      d.parses (reads_all.mpr word) within (avoids_nil _)
    unfold parseTokens
    split
    · exact absurd word d.word_ne_nil
    · rw [parsed]
      rfl

end PlotMarkup.Grammar

namespace PlotMarkup.Expr

/--
A text is an expression exactly if its tokens have a derivation, which is then the only one, and
the derivation stays within the levels of nesting that are allowed.
-/
theorem parse_eq_ok (text : String) (e : Expr) :
    parse text = .ok e ↔ ∃ ts, tokens text = .ok ts ∧ ∃ d : Grammar.Sum,
      (∀ d' : Grammar.Sum, d'.word = ts.map Located.token ↔ d' = d) ∧
        d.tree = e ∧ Grammar.peak d.loads ≤ maxDepth := by
  rw [parse, bind_eq_ok]
  refine exists_congr fun ts => and_congr_right fun _ => ?_
  rw [Grammar.parseTokens_eq_ok]
  refine exists_congr fun d => ?_
  rw [Grammar.peak_le]
  refine and_congr_left fun _ => ⟨fun word d' => ⟨fun word' => ?_, ?_⟩, fun unique => ?_⟩
  · exact Grammar.Sum.word_injective (word'.trans word.symm)
  · rintro rfl
    exact word
  · exact (unique d).mpr rfl

end PlotMarkup.Expr
