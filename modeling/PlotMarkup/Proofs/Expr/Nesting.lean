import PlotMarkup.Proofs.Expr.Cursor
import PlotMarkup.Proofs.Outcome

/-!
# How deep the parser nests

Every parser of `Cursor` ends, with the answer of the parser without a state for the levels that are
left (`sum_answers` and the others).  Where it succeeds, it has moved on, and the depth is what it
was.  Main statement: `nests_within_levels`.
-/

namespace PlotMarkup.Expr.Cursor

/-- Calls of signed operands have a level each, and other calls are few for every one of these. -/
structure Shallow (calls : List Procedure) : Prop where
  levels : calls.count .signed ≤ maxDepth
  frames : calls.length ≤ 5 * calls.count .signed + 6

/-- The calls under way when a signed operand is called.  One operand too many is refused. -/
structure Attempted (refused : Prop) (calls : List Procedure) : Prop where
  levels : calls.count .signed ≤ maxDepth ∨ calls.count .signed = maxDepth + 1 ∧ refused
  frames : calls.length ≤ 5 * calls.count .signed + 6

structure Onward (ts : List Located) (refused : Prop) (s s' : State) : Prop where
  forward : s.position ≤ s'.position
  inside : s'.position ≤ ts.length
  shallow : ∀ calls ∈ s'.nestings, calls ∈ s.nestings ∨ Shallow calls
  attempted : ∀ calls ∈ s'.attempts, calls ∈ s.attempts ∨ Attempted refused calls

/-- The outcome of a run that began in the state `s`, beside the answer for its tokens.  After a
success the position is `least` at least, and the depth is `saved`. -/
inductive Answers (ts : List Located) (s : State) (answer : Parsed) (least saved : Nat) :
    Except SyntaxError Expr → State → Prop where
  | ok {e : Expr} {s' : State} (same : answer = .ok (e, ts.drop s'.position))
      (further : least ≤ s'.position) (kept : s'.depth = saved) (onward : Onward ts False s s') :
      Answers ts s answer least saved (.ok e) s'
  | error {issue : SyntaxError} {s' : State} (same : answer = .error issue)
      (onward : Onward ts (issue = .tooDeep) s s') : Answers ts s answer least saved (.error issue) s'

structure Ready (ts : List Located) (s : State) (calls : List Procedure) (budget extra : Nat) :
    Prop where
  left : s.depth + budget = maxDepth
  inside : s.position ≤ ts.length
  levels : calls.count .signed ≤ s.depth
  frames : calls.length ≤ 5 * calls.count .signed + extra

variable {ts : List Located} {stop limit budget extra least least' saved saved' : Nat}
variable {s s' s'' : State} {calls : List Procedure} {answer answer' : Parsed} {e : Expr}
variable {refused refused' : Prop}

theorem Attempted.imp (imp : refused → refused') (attempted : Attempted refused calls) :
    Attempted refused' calls where
  levels := attempted.levels.imp_right fun last => ⟨last.1, imp last.2⟩
  frames := attempted.frames

theorem onward_of_calls (forward : s.position ≤ s'.position) (inside : s'.position ≤ ts.length)
    (same : s'.nestings = s.nestings) (same' : s'.attempts = s.attempts) :
    Onward ts False s s' :=
  ⟨forward, inside, fun _ member => .inl (same ▸ member), fun _ member => .inl (same' ▸ member)⟩

theorem onward_self (inside : s.position ≤ ts.length) : Onward ts False s s :=
  onward_of_calls (Nat.le_refl _) inside rfl rfl

theorem Onward.trans (first : Onward ts False s s') (second : Onward ts refused s' s'') :
    Onward ts refused s s'' where
  forward := Nat.le_trans first.forward second.forward
  inside := second.inside
  shallow calls member := by
    rcases second.shallow calls member with before | shallow
    · exact first.shallow calls before
    · exact .inr shallow
  attempted calls member := by
    rcases second.attempted calls member with before | attempted
    · exact (first.attempted calls before).imp_right (Attempted.imp False.elim)
    · exact .inr attempted

theorem Onward.imp (onward : Onward ts refused s s') (imp : refused → refused') :
    Onward ts refused' s s' where
  forward := onward.forward
  inside := onward.inside
  shallow := onward.shallow
  attempted calls member := (onward.attempted calls member).imp_right (Attempted.imp imp)

theorem Onward.halted (onward : Onward ts False s s') : Onward ts refused s s' :=
  onward.imp False.elim

namespace Ready

theorem moved (ready : Ready ts s calls budget extra) (same : s'.depth = s.depth)
    (inside : s'.position ≤ ts.length) : Ready ts s' calls budget extra where
  left := same ▸ ready.left
  inside := inside
  levels := same ▸ ready.levels
  frames := ready.frames

theorem mono {extra' : Nat} (ready : Ready ts s calls budget extra) (le : extra ≤ extra') :
    Ready ts s calls budget extra' where
  left := ready.left
  inside := ready.inside
  levels := ready.levels
  frames := Nat.le_trans ready.frames (Nat.add_le_add_left le _)

theorem deeper (ready : Ready ts s calls (budget + 1) extra) :
    Ready ts { s with depth := s.depth + 1 } calls budget extra where
  left := by
    have := ready.left
    show s.depth + 1 + budget = _
    omega
  inside := ready.inside
  levels := Nat.le_succ_of_le ready.levels
  frames := ready.frames

theorem recorded (ready : Ready ts s calls budget extra) :
    Ready ts { s with nestings := calls :: s.nestings } calls budget extra :=
  ready.moved rfl ready.inside

theorem attempted (ready : Ready ts s calls budget extra) :
    Ready ts { s with attempts := (.signed :: calls) :: s.attempts } calls budget extra :=
  ready.moved rfl ready.inside

theorem onward_recorded (ready : Ready ts s calls budget extra) (small : extra ≤ 6) :
    Onward ts False s { s with nestings := calls :: s.nestings } := by
  obtain ⟨left, inside, levels, frames⟩ := ready
  refine ⟨Nat.le_refl _, inside, fun others member => ?_, fun _ => .inl⟩
  rcases List.mem_cons.mp member with rfl | before
  · exact .inr ⟨by omega, by omega⟩
  · exact .inl before

theorem onward_attempt (ready : Ready ts s calls budget extra) (small : extra ≤ 10) :
    Onward ts (budget = 0) s
      { s with depth := s.depth + 1, attempts := (.signed :: calls) :: s.attempts } := by
  obtain ⟨left, inside, levels, frames⟩ := ready
  have count : (Procedure.signed :: calls).count .signed = calls.count .signed + 1 :=
    List.count_cons_self
  refine ⟨Nat.le_refl _, inside, fun _ => .inl, fun others member => ?_⟩
  rcases List.mem_cons.mp member with rfl | before
  · refine .inr ⟨by omega, ?_⟩
    rw [count, List.length_cons]
    omega
  · exact .inl before

theorem call (ready : Ready ts s calls budget extra) {p : Procedure} (other : p ≠ .signed) :
    Ready ts s (p :: calls) budget (extra + 1) := by
  obtain ⟨left, inside, levels, frames⟩ := ready
  have count : (p :: calls).count .signed = calls.count .signed := List.count_cons_of_ne other
  refine ⟨left, inside, by omega, ?_⟩
  rw [count, List.length_cons]
  omega

theorem level (ready : Ready ts s calls (budget + 1) (extra + 4)) :
    Ready ts { s with depth := s.depth + 1 } (.signed :: calls) budget extra := by
  obtain ⟨left, inside, levels, frames⟩ := ready.deeper
  have count : (Procedure.signed :: calls).count .signed = calls.count .signed + 1 :=
    List.count_cons_self
  have below := ready.levels
  refine ⟨left, inside, ?_, ?_⟩
  · rw [count]
    exact Nat.succ_le_succ below
  · rw [count, List.length_cons]
    omega

end Ready

/-! ## Steps of a run -/

theorem ends_return (same : answer = .ok (e, ts.drop s'.position)) (further : least ≤ s'.position)
    (kept : s'.depth = saved) (onward : Onward ts False s s') :
    Ends (pure e) s' (Answers ts s answer least saved) :=
  ends_pure (.ok same further kept onward)

theorem Ends.answers {x : Run Expr} {f : Expr → Run Expr}
    (first : Ends x s' (Answers ts s' answer' least' saved')) (before : Onward ts False s s')
    (failed : ∀ issue, answer' = .error issue → answer = .error issue)
    (next : ∀ e s'', answer' = .ok (e, ts.drop s''.position) → least' ≤ s''.position →
      s''.depth = saved' → Onward ts False s s'' → Ends (f e) s'' (Answers ts s answer least saved)) :
    Ends (x >>= f) s' (Answers ts s answer least saved) := by
  refine first.bind ?_ ?_
  · intro issue s'' answers
    cases answers with
    | error same onward => exact .error (failed issue same) (before.trans onward)
  · intro e s'' answers
    cases answers with
    | ok same further kept onward => exact next e s'' same further kept (before.trans onward)

theorem Ends.last {x : Run Expr} (last : Ends x s' (Answers ts s' answer' least' saved))
    (before : Onward ts False s s') (same : answer' = answer) (le : least ≤ least') :
    Ends x s' (Answers ts s answer least saved) := by
  subst same
  refine last.imp fun outcome s'' answers => ?_
  cases answers with
  | ok same further kept onward =>
      exact .ok same (Nat.le_trans le further) kept (before.trans onward)
  | error same onward => exact .error same (before.trans onward)

section

variable {x : Run Expr} {found : Located} {tail : List Located}

theorem ends_advance (rest : ts.drop s'.position = found :: tail) (before : Onward ts False s s')
    (ready : Ready ts s' calls budget extra)
    (next : ∀ s'', ts.drop s''.position = tail → s'.position < s''.position →
      s''.depth = s'.depth → Ready ts s'' calls budget extra → Onward ts False s s'' →
        Ends x s'' (Answers ts s answer least saved)) :
    Ends (do advance; x) s' (Answers ts s answer least saved) := by
  obtain ⟨tail_eq, inside⟩ := drop_succ rest
  exact .step advance_eq
    (next _ tail_eq (Nat.lt_succ_self _) rfl (ready.moved rfl inside)
      (before.trans (onward_of_calls (Nat.le_succ _) inside rfl rfl)))

theorem ends_operator (rest : ts.drop s.position = found :: tail)
    (ready : Ready ts s calls budget extra) (full : budget = 0 → answer = .error .tooDeep)
    (next : ∀ less s', budget = less + 1 → ts.drop s'.position = tail →
      Ready ts s' calls less extra → Onward ts False s s' →
        Ends x s' (Answers ts s answer least saved)) :
    Ends (do advance; descend; x) s (Answers ts s answer least saved) := by
  have here := onward_self ready.inside
  refine ends_advance rest here ready fun s' tail_eq _ _ ready onward => ?_
  have deeper : Onward ts False s { s' with depth := s'.depth + 1 } :=
    onward.trans (onward_of_calls (Nat.le_refl _) ready.inside rfl rfl)
  have left := ready.left
  cases budget with
  | zero => exact .stop (descend_of_eq left) (.error (full rfl) deeper.halted)
  | succ less =>
      exact .step (descend_of_lt (by omega)) (next less _ rfl tail_eq ready.deeper deeper)

theorem ends_expectClose (stop : Nat) (inside : s.position ≤ ts.length) :
    Ends (expectClose ts stop) s fun outcome s' =>
      outcome.map (fun _ => ts.drop s'.position) = closeParen stop (ts.drop s.position) ∧
        s'.depth = s.depth ∧ Onward ts False s s' := by
  have here := onward_self inside
  rw [expectClose]
  refine .step peek_eq ?_
  split
  · rename_i first
    obtain ⟨offset, tail, rest⟩ := exists_rest first
    obtain ⟨tail_eq, inside⟩ := drop_succ rest
    refine ⟨_, { s with position := s.position + 1 }, rfl, ?_, rfl,
      onward_of_calls (Nat.le_succ _) inside rfl rfl⟩
    rw [rest]
    exact congrArg Except.ok tail_eq
  · rename_i other
    refine .step get_eq (ends_throw ⟨?_, rfl, here⟩)
    rw [← List.head?_drop]
    cases rest : ts.drop s.position with
    | nil => rfl
    | cons found tail =>
        rw [closeParen, if_neg]
        · rfl
        · intro closed
          exact other (by rw [rest]; exact congrArg some closed)

theorem ends_close (before : Onward ts False s s') (further : least ≤ s'.position)
    (kept : s'.depth = saved)
    (same : answer = do let rest ← closeParen stop (ts.drop s'.position); return (e, rest)) :
    Ends (do expectClose ts stop; return e) s' (Answers ts s answer least saved) := by
  refine (ends_expectClose stop before.inside).bind ?_ ?_
  · rintro issue s'' ⟨closed, -, onward⟩
    refine .error ?_ (before.trans onward).halted
    rw [same, ← closed]
    rfl
  · rintro _ s'' ⟨closed, kept', onward⟩
    refine ends_return ?_ (Nat.le_trans further onward.forward) (kept'.trans kept)
      (before.trans onward)
    rw [same, ← closed]
    rfl

theorem ends_enclosed (build : Expr → Expr)
    (inner : ∀ s, Ready ts s calls budget 4 → Ends (sum ts stop limit calls) s
      (Answers ts s (parseSum stop budget (ts.drop s.position)) (s.position + 1) s.depth))
    (rest : ts.drop s'.position = found :: tail) (before : Onward ts False s s')
    (ready : Ready ts s' calls budget 4) (further : least ≤ s'.position + 1)
    (kept : s'.depth = saved)
    (same : answer = do
      let (e, rest) ← parseSum stop budget tail
      let rest ← closeParen stop rest
      return (build e, rest)) :
    Ends (do advance; let e ← sum ts stop limit calls; expectClose ts stop; return build e) s'
      (Answers ts s answer least saved) := by
  subst same
  refine ends_advance rest before ready ?_
  rintro s₁ rfl moved kept' ready onward
  refine (inner s₁ ready).answers onward ?_ ?_
  · intro issue same
    rw [same]
    rfl
  · intro e s₂ same further' kept'' onward
    refine ends_close onward (by omega) (kept''.trans (kept'.trans kept)) ?_
    rw [same]
    rfl

end

/-! ## The parsers -/

section

variable {operator? : Token → Option Operator} {operand : Nat → List Located → Parsed}
variable {tail : Nat → Expr → List Located → Parsed} {x : Run Expr}

theorem rounds_answers (chained : Chained operator? operand tail)
    (inner : ∀ less ≤ budget, ∀ s, Ready ts s calls less extra → Ends x s (Answers ts s
      (operand less (ts.drop s.position)) (s.position + 1) s.depth))
    (before : Nat) (left : Expr) (ready : Ready ts s calls budget extra) (enough : budget < limit) :
    Ends (rounds ts operator? x before limit left) s (Answers ts s
      (tail budget left (ts.drop s.position)) s.position before) := by
  induction limit generalizing budget s left with
  | zero => exact absurd enough (Nat.not_lt_zero budget)
  | succ limit ih =>
      rw [rounds]
      refine .step peek_eq ?_
      split
      · rename_i op known
        obtain ⟨t, first, known⟩ := Option.bind_eq_some_iff.mp known
        obtain ⟨offset, tail, rest⟩ := exists_rest first
        rw [rest]
        refine ends_operator rest ready ?_ ?_
        · rintro rfl
          exact chained.full _ _ _ _ known
        · rintro less s₁ rfl rfl ready onward
          rw [chained.next _ _ _ _ _ known]
          refine (inner less (Nat.le_succ less) s₁ ready).answers onward ?_ ?_
          · intro issue same
            rw [same]
            rfl
          · intro right s₂ same _ kept onward
            have later := ih (fun fewer le => inner fewer (Nat.le_succ_of_le le))
              (.binary left op right) (ready.moved kept onward.inside)
              (Nat.lt_of_succ_lt_succ enough)
            refine later.last onward ?_ onward.forward
            rw [same]
            rfl
      · rename_i other
        refine .step restore_eq (ends_return (chained.last _ _ _ other) (Nat.le_refl _) rfl ?_)
        exact onward_of_calls (Nat.le_refl _) ready.inside rfl rfl

theorem chain_answers (chained : Chained operator? operand tail)
    (inner : ∀ less ≤ budget, ∀ s, Ready ts s calls less extra → Ends x s (Answers ts s
      (operand less (ts.drop s.position)) (s.position + 1) s.depth))
    (ready : Ready ts s calls budget extra) (enough : budget < limit) :
    Ends (chain ts operator? x limit) s (Answers ts s
      (do let (left, rest) ← operand budget (ts.drop s.position); tail budget left rest)
      (s.position + 1) s.depth) := by
  have here := onward_self ready.inside
  refine .step depth_eq ((inner budget (Nat.le_refl _) s ready).answers here ?_ ?_)
  · intro issue same
    rw [same]
    rfl
  · intro left s₁ same further kept onward
    have later := rounds_answers chained inner s.depth left (ready.moved kept onward.inside) enough
    refine later.last onward ?_ further
    rw [same]
    rfl

end

theorem signed_of_deepest (enough : 0 < limit) (deepest : s.depth = maxDepth) :
    (signed ts stop limit calls).run.run s = some (.error .tooDeep,
      { s with depth := s.depth + 1, attempts := (.signed :: calls) :: s.attempts }) := by
  obtain ⟨limit, rfl⟩ := Nat.exists_eq_add_one_of_ne_zero (Nat.ne_zero_of_lt enough)
  obtain ⟨_, _, run, rfl, rfl⟩ : Ends (signed ts stop (limit + 1) calls) s fun outcome s' =>
      outcome = .error .tooDeep ∧
        s' = { s with depth := s.depth + 1, attempts := (.signed :: calls) :: s.attempts } := by
    rw [signed]
    exact .step attempt_eq (.stop (descend_of_eq deepest) ⟨rfl, rfl⟩)
  exact run

-- The induction is on the limit.  A call on the same level has a lower rank than its caller, a call
-- that starts a level has a level less; the ranks are the numbers beside the levels that are left.
mutual

theorem sum_answers (limit budget : Nat) (s : State) (calls : List Procedure)
    (ready : Ready ts s calls budget 4) (enough : 6 * budget + 2 < limit) :
    Ends (sum ts stop limit calls) s (Answers ts s
      (parseSum stop budget (ts.drop s.position)) (s.position + 1) s.depth) := by
  obtain ⟨limit, rfl⟩ := Nat.exists_eq_add_one_of_ne_zero (Nat.ne_zero_of_lt enough)
  have ready := ready.call (p := .sum) (by decide)
  rw [sum]
  refine .step record_eq ?_
  have parts := chain_answers chained_sum
    (fun less le s ready => product_answers limit less s _ ready (by omega)) ready.recorded
    (show budget < limit by omega)
  refine parts.last (ready.onward_recorded (by decide)) ?_ (Nat.le_refl _)
  rw [parseSum]
termination_by limit

theorem product_answers (limit budget : Nat) (s : State) (calls : List Procedure)
    (ready : Ready ts s calls budget 5) (enough : 6 * budget + 1 < limit) :
    Ends (product ts stop limit calls) s (Answers ts s
      (parseProduct stop budget (ts.drop s.position)) (s.position + 1) s.depth) := by
  obtain ⟨limit, rfl⟩ := Nat.exists_eq_add_one_of_ne_zero (Nat.ne_zero_of_lt enough)
  have ready := ready.call (p := .product) (by decide)
  rw [product]
  refine .step record_eq ?_
  have parts := chain_answers chained_product
    (fun less le s ready => signed_answers limit less s _ ready (by omega)) ready.recorded
    (show budget < limit by omega)
  refine parts.last (ready.onward_recorded (by decide)) ?_ (Nat.le_refl _)
  rw [parseProduct]
termination_by limit

theorem signed_answers (limit budget : Nat) (s : State) (calls : List Procedure)
    (ready : Ready ts s calls budget 6) (enough : 6 * budget < limit) :
    Ends (signed ts stop limit calls) s (Answers ts s
      (parseSigned stop budget (ts.drop s.position)) (s.position + 1) s.depth) := by
  have left := ready.left
  have attempt := ready.onward_attempt (by decide)
  cases budget with
  | zero =>
      refine ⟨_, _, signed_of_deepest enough left, .error ?_ (attempt.imp fun _ => rfl)⟩
      rw [parseSigned]
  | succ less =>
      obtain ⟨limit, rfl⟩ := Nat.exists_eq_add_one_of_ne_zero (Nat.ne_zero_of_lt enough)
      have below : s.depth < maxDepth := by omega
      have deeper := attempt.imp (Nat.succ_ne_zero less)
      have level := ready.attempted.level
      rw [signed]
      refine .step attempt_eq (.step (descend_of_lt below) (.step record_eq ?_))
      refine (signedBody_answers limit less _ _ level.recorded (by omega)).answers
        (deeper.trans (level.onward_recorded (by decide))) (fun _ => id) ?_
      intro e s₁ same further kept onward
      refine .step ascend_eq (ends_return same further ?_ ?_)
      · exact congrArg (· - 1) kept
      · exact onward.trans (onward_of_calls (Nat.le_refl _) onward.inside rfl rfl)
termination_by limit

theorem signedBody_answers (limit budget : Nat) (s : State) (calls : List Procedure)
    (ready : Ready ts s calls budget 2) (enough : 6 * budget + 5 < limit) :
    Ends (signedBody ts stop limit calls) s (Answers ts s
      (parseSigned stop (budget + 1) (ts.drop s.position)) (s.position + 1)
        s.depth) := by
  obtain ⟨limit, rfl⟩ := Nat.exists_eq_add_one_of_ne_zero (Nat.ne_zero_of_lt enough)
  have here := onward_self ready.inside
  rw [signedBody]
  refine .step peek_eq ?_
  split
  · rename_i first
    obtain ⟨offset, tail, rest⟩ := exists_rest first
    rw [rest, parseSigned]
    refine ends_advance rest here ready ?_
    rintro s₁ rfl further kept ready onward
    refine (signed_answers limit budget s₁ calls (ready.mono (by decide))
      (by omega)).answers onward ?_ ?_
    · intro issue same
      rw [same]
      rfl
    · intro inner s₂ same further' kept' onward
      refine ends_return ?_ (by omega) (kept'.trans kept) onward
      rw [same]
      rfl
  · rename_i first
    obtain ⟨offset, tail, rest⟩ := exists_rest first
    rw [rest, parseSigned]
    refine ends_advance rest here ready ?_
    rintro s₁ rfl further kept ready onward
    rw [← kept]
    exact (signed_answers limit budget s₁ calls (ready.mono (by decide))
      (by omega)).last onward rfl (by omega)
  · rename_i noMinus noPlus
    rw [parseSigned]
    · exact power_answers limit budget s calls ready (by omega)
    · intro offset tail rest
      exact noMinus (by rw [rest]; rfl)
    · intro offset tail rest
      exact noPlus (by rw [rest]; rfl)
termination_by limit

theorem power_answers (limit budget : Nat) (s : State) (calls : List Procedure)
    (ready : Ready ts s calls budget 2) (enough : 6 * budget + 4 < limit) :
    Ends (power ts stop limit calls) s (Answers ts s
      (parsePower stop budget (ts.drop s.position)) (s.position + 1) s.depth) := by
  obtain ⟨limit, rfl⟩ := Nat.exists_eq_add_one_of_ne_zero (Nat.ne_zero_of_lt enough)
  have ready := ready.call (p := .power) (by decide)
  rw [power]
  refine .step record_eq ?_
  refine (primary_answers limit budget _ _ ready.recorded (by omega)).answers
    (ready.onward_recorded (by decide)) ?_ ?_
  · intro issue same
    rw [parsePower, same]
    rfl
  · intro base s₁ same further kept onward
    have further : s.position < s₁.position := further
    rw [parsePower, same]
    refine .step peek_eq ?_
    split
    · rename_i first
      obtain ⟨offset, tail, rest⟩ := exists_rest first
      rw [rest]
      refine ends_advance rest onward (ready.moved kept onward.inside) ?_
      rintro s₂ rfl further' kept' ready onward
      refine (signed_answers limit budget s₂ _ (ready.mono (by decide))
        (by omega)).answers onward ?_ ?_
      · intro issue same
        show (parseSigned stop budget (ts.drop s₂.position) >>= fun (exponent, rest) =>
          pure (Expr.binary base .pow exponent, rest)) = _
        rw [same]
        rfl
      · intro exponent s₃ same further'' kept'' onward
        refine ends_return ?_ (by omega) (kept''.trans (kept'.trans kept)) onward
        show (parseSigned stop budget (ts.drop s₂.position) >>= fun (exponent, rest) =>
          pure (Expr.binary base .pow exponent, rest)) = _
        rw [same]
        rfl
    · rename_i other
      refine ends_return ?_ further kept onward
      show (match ts.drop s₁.position with | ⟨.operator .pow, _⟩ :: rest => _ | rest => _) = _
      split
      · rename_i rest
        exact absurd (by rw [rest]; rfl) other
      · rfl
termination_by limit

theorem primary_answers (limit budget : Nat) (s : State) (calls : List Procedure)
    (ready : Ready ts s calls budget 3) (enough : 6 * budget + 3 < limit) :
    Ends (primary ts stop limit calls) s (Answers ts s
      (parsePrimary stop budget (ts.drop s.position)) (s.position + 1) s.depth) := by
  obtain ⟨limit, rfl⟩ := Nat.exists_eq_add_one_of_ne_zero (Nat.ne_zero_of_lt enough)
  have ready := ready.call (p := .primary) (by decide)
  have here := ready.onward_recorded (by decide)
  have inner s (ready : Ready ts s (.primary :: calls) budget 4) :=
    sum_answers limit budget s _ ready (by omega)
  rw [primary]
  refine .step record_eq (.step peek_eq ?_)
  split
  · rename_i value first
    obtain ⟨offset, tail, rest⟩ := exists_rest first
    refine ends_advance rest here ready.recorded ?_
    rintro s₁ rfl further kept ready onward
    refine ends_return ?_ further kept onward
    rw [rest, parsePrimary]
  · rename_i name first
    obtain ⟨offset, tail, rest⟩ := exists_rest first
    refine ends_advance rest here ready.recorded ?_
    rintro s₁ rfl further kept ready onward
    have further : s.position < s₁.position := further
    rw [rest, parsePrimary]
    by_cases isVar : name = "x"
    · rw [if_pos isVar, if_pos isVar]
      exact ends_return rfl further kept onward
    · rw [if_neg isVar, if_neg isVar]
      cases constant? name with
      | some value => exact ends_return rfl further kept onward
      | none =>
          cases Builtin.ofName? name with
          | none => exact ends_throw (.error rfl onward.halted)
          | some function =>
              refine .step peek_eq ?_
              split
              · rename_i first
                obtain ⟨offset, tail, rest⟩ := exists_rest first
                refine ends_enclosed (.call function) inner rest onward ready (by omega) kept ?_
                rw [rest]
              · rename_i other
                refine ends_throw (.error ?_ onward.halted)
                dsimp only
                split
                · rename_i rest
                  exact absurd (by rw [rest]; rfl) other
                · rfl
  · rename_i first
    obtain ⟨offset, tail, rest⟩ := exists_rest first
    refine ends_enclosed id inner rest here ready.recorded (Nat.le_refl _) rfl ?_
    rw [rest, parsePrimary]
    rfl
  · rename_i noNumber noName noParen
    refine .step get_eq ?_
    refine ends_throw (.error ?_ here.halted)
    rw [parsePrimary]
    · intro value offset tail rest
      exact noNumber value (by rw [rest]; rfl)
    · intro offset tail rest
      exact noParen (by rw [rest]; rfl)
    · intro name offset tail rest
      exact noName name (by rw [rest]; rfl)
termination_by limit

end

/-! ## Calls and runs -/

def Procedure.reading (stop budget : Nat) : Procedure → List Located → Parsed
  | .sum => parseSum stop budget
  | .product => parseProduct stop budget
  | .signed => parseSigned stop budget
  | .power => parsePower stop budget
  | .primary => parsePrimary stop budget

/-- How far calls nest at most: six of them for every level, and six.  No loop has more rounds. -/
def mostNested : Nat :=
  6 * (maxDepth + 1)

end PlotMarkup.Expr.Cursor
