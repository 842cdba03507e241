import PlotMarkup.Expr.Parse

namespace PlotMarkup.Expr.Cursor

inductive Procedure where
  | sum
  | product
  | signed
  | power
  | primary
deriving DecidableEq

structure State where
  position : Nat
  depth : Nat
  /-- For every call so far, the calls that were under way with it, the innermost first.  The call
  of a signed operand counts from when it has got its level, since it ends at once without. -/
  nestings : List (List Procedure)
  /-- The same for the calls of signed operands when they are made, with or without a level. -/
  attempts : List (List Procedure)

/-- A parser: it has an outcome and a final state, also on an error, or it goes too far. -/
abbrev Run (α : Type) := ExceptT SyntaxError (StateT State Option) α

def tooFar {α : Type} : Run α :=
  .mk fun _ => none

def record (calls : List Procedure) : Run Unit :=
  modify fun s => { s with nestings := calls :: s.nestings }

def attempt (calls : List Procedure) : Run Unit :=
  modify fun s => { s with attempts := calls :: s.attempts }

def advance : Run Unit :=
  modify fun s => { s with position := s.position + 1 }

def depth : Run Nat := do
  return (← get).depth

def restore (depth : Nat) : Run Unit :=
  modify fun s => { s with depth }

def descend : Run Unit := do
  restore ((← depth) + 1)
  if maxDepth < (← depth) then throw .tooDeep

def ascend : Run Unit := do
  restore ((← depth) - 1)

def additive? : Token → Option Operator
  | .operator .add => some .add
  | .operator .sub => some .sub
  | _ => none

def multiplicative? : Token → Option Operator
  | .operator .mul => some .mul
  | .operator .div => some .div
  | _ => none

section

variable (ts : List Located) (stop : Nat)

def peek : Run (Option Token) := do
  return ts[(← get).position]?.map Located.token

def refuse : Run Expr := do
  throw (unexpected (ts.drop (← get).position))

def expectClose : Run Unit := do
  match ← peek ts with
  | some .closeParen => advance
  | _ => throw (.missingParen ((ts[(← get).position]?.map Located.offset).getD stop))

def rounds (operator? : Token → Option Operator) (operand : Run Expr) (before : Nat) :
    Nat → Expr → Run Expr
  | 0, _ => tooFar
  | limit + 1, left => do
      match (← peek ts).bind operator? with
      | some op =>
          advance
          descend
          let right ← operand
          rounds operator? operand before limit (.binary left op right)
      | none =>
          restore before
          return left

def chain (operator? : Token → Option Operator) (operand : Run Expr) (limit : Nat) : Run Expr := do
  let before ← depth
  let left ← operand
  rounds ts operator? operand before limit left

mutual

def sum : Nat → List Procedure → Run Expr
  | 0, _ => tooFar
  | limit + 1, calls => do
      record (.sum :: calls)
      chain ts additive? (product limit (.sum :: calls)) limit

def product : Nat → List Procedure → Run Expr
  | 0, _ => tooFar
  | limit + 1, calls => do
      record (.product :: calls)
      chain ts multiplicative? (signed limit (.product :: calls)) limit

def signed : Nat → List Procedure → Run Expr
  | 0, _ => tooFar
  | limit + 1, calls => do
      attempt (.signed :: calls)
      descend
      record (.signed :: calls)
      let e ← signedBody limit (.signed :: calls)
      ascend
      return e

def signedBody : Nat → List Procedure → Run Expr
  | 0, _ => tooFar
  | limit + 1, calls => do
      match ← peek ts with
      | some (.operator .sub) =>
          advance
          let inner ← signed limit calls
          return .negate inner
      | some (.operator .add) =>
          advance
          signed limit calls
      | _ => power limit calls

def power : Nat → List Procedure → Run Expr
  | 0, _ => tooFar
  | limit + 1, calls => do
      record (.power :: calls)
      let base ← primary limit (.power :: calls)
      match ← peek ts with
      | some (.operator .pow) =>
          advance
          let exponent ← signed limit (.power :: calls)
          return .binary base .pow exponent
      | _ => return base

def primary : Nat → List Procedure → Run Expr
  | 0, _ => tooFar
  | limit + 1, calls => do
      record (.primary :: calls)
      match ← peek ts with
      | some (.number value) =>
          advance
          return .number value
      | some (.name name) =>
          advance
          if name = "x" then return .var
          match constant? name with
          | some value => return .number value
          | none =>
              match Builtin.ofName? name with
              | none => throw (.unknownIdentifier name)
              | some function =>
                  match ← peek ts with
                  | some .openParen =>
                      advance
                      let argument ← sum limit (.primary :: calls)
                      expectClose ts stop
                      return .call function argument
                  | _ => throw (.missingArgument name)
      | some .openParen =>
          advance
          let inner ← sum limit (.primary :: calls)
          expectClose ts stop
          return inner
      | _ => refuse ts

end

def Procedure.run (limit : Nat) : Procedure → List Procedure → Run Expr
  | .sum => Cursor.sum ts stop limit
  | .product => Cursor.product ts stop limit
  | .signed => Cursor.signed ts stop limit
  | .power => Cursor.power ts stop limit
  | .primary => Cursor.primary ts stop limit

def whole (limit : Nat) : Run Expr := do
  if ts = [] then throw .empty
  let e ← sum ts stop limit []
  if (← get).position < ts.length then refuse ts
  else return e

end

def State.start : State :=
  ⟨0, 0, [], []⟩

variable {α β : Type} {s s' : State} {x : Run α} {f : α → Run β} {a : α} {issue : SyntaxError}

/-- The run ends, and its outcome and final state are as said. -/
def Ends (x : Run α) (s : State) (post : Except SyntaxError α → State → Prop) : Prop :=
  ∃ outcome s', x.run.run s = some (outcome, s') ∧ post outcome s'

section

variable {post : Except SyntaxError α → State → Prop}

theorem ends_pure (holds : post (.ok a) s) : Ends (pure a) s post :=
  ⟨_, s, rfl, holds⟩

theorem ends_throw (holds : post (.error issue) s) : Ends (throw issue) s post :=
  ⟨_, s, rfl, holds⟩

theorem Ends.imp {post' : Except SyntaxError α → State → Prop} (ends : Ends x s post)
    (imp : ∀ outcome s', post outcome s' → post' outcome s') : Ends x s post' := by
  obtain ⟨outcome, s', run, holds⟩ := ends
  exact ⟨outcome, s', run, imp outcome s' holds⟩

end

variable {post : Except SyntaxError β → State → Prop}

theorem Ends.bind {mid : Except SyntaxError α → State → Prop} (first : Ends x s mid)
    (failed : ∀ issue s', mid (.error issue) s' → post (.error issue) s')
    (next : ∀ a s', mid (.ok a) s' → Ends (f a) s' post) : Ends (x >>= f) s post := by
  obtain ⟨outcome, s', run, reached⟩ := first
  cases outcome with
  | error issue =>
      refine ⟨.error issue, s', ?_, failed issue s' reached⟩
      show (x.run.run s).bind _ = _
      rw [run]
      rfl
  | ok a =>
      obtain ⟨outcome, s'', run', reached'⟩ := next a s' reached
      refine ⟨outcome, s'', ?_, reached'⟩
      show (x.run.run s).bind _ = _
      rw [run]
      exact run'

theorem Ends.step (run : x.run.run s = some (.ok a, s')) (next : Ends (f a) s' post) :
    Ends (x >>= f) s post := by
  have first : Ends x s fun outcome s'' => outcome = .ok a ∧ s'' = s' := ⟨_, _, run, rfl, rfl⟩
  refine first.bind ?_ ?_
  · rintro issue s'' ⟨⟨⟩, -⟩
  · rintro a' s'' ⟨⟨⟩, rfl⟩
    exact next

theorem Ends.stop (run : x.run.run s = some (.error issue, s')) (holds : post (.error issue) s') :
    Ends (x >>= f) s post := by
  have first : Ends x s fun outcome s'' => outcome = .error issue ∧ s'' = s' :=
    ⟨_, _, run, rfl, rfl⟩
  refine first.bind ?_ ?_
  · rintro issue s'' ⟨⟨⟩, rfl⟩
    exact holds
  · rintro a s'' ⟨⟨⟩, -⟩

variable {ts : List Located} {stop budget : Nat} {found : Located} {tail : List Located}

theorem get_eq : (get : Run State).run.run s = some (.ok s, s) := rfl

theorem record_eq {calls : List Procedure} :
    (record calls).run.run s = some (.ok (), { s with nestings := calls :: s.nestings }) := rfl

theorem attempt_eq {calls : List Procedure} :
    (attempt calls).run.run s = some (.ok (), { s with attempts := calls :: s.attempts }) := rfl

theorem advance_eq :
    advance.run.run s = some (.ok (), { s with position := s.position + 1 }) := rfl

theorem depth_eq : depth.run.run s = some (.ok s.depth, s) := rfl

theorem restore_eq {before : Nat} :
    (restore before).run.run s = some (.ok (), { s with depth := before }) := rfl

theorem ascend_eq : ascend.run.run s = some (.ok (), { s with depth := s.depth - 1 }) := rfl

theorem peek_eq : (peek ts).run.run s =
    some (.ok ((ts.drop s.position).head?.map Located.token), s) := by
  rw [List.head?_drop]
  rfl

theorem exists_rest {t : Token} (first : (ts.drop s.position).head?.map Located.token = some t) :
    ∃ offset tail, ts.drop s.position = ⟨t, offset⟩ :: tail := by
  obtain ⟨found, head, rfl⟩ := Option.map_eq_some_iff.mp first
  obtain ⟨tail, rest⟩ := List.head?_eq_some_iff.mp head
  exact ⟨found.offset, tail, rest⟩

theorem drop_succ (rest : ts.drop s.position = found :: tail) :
    ts.drop (s.position + 1) = tail ∧ s.position + 1 ≤ ts.length := by
  constructor
  · rw [← List.drop_drop, rest]
    rfl
  · have lengths := congrArg List.length rest
    rw [List.length_drop, List.length_cons] at lengths
    omega

theorem descend_of_lt (below : s.depth < maxDepth) :
    descend.run.run s = some (.ok (), { s with depth := s.depth + 1 }) := by
  have within : ¬maxDepth < s.depth + 1 := by omega
  show (if maxDepth < s.depth + 1 then _ else _ : Run Unit).run.run _ = _
  rw [if_neg within]
  rfl

theorem descend_of_eq (deepest : s.depth = maxDepth) :
    descend.run.run s = some (.error .tooDeep, { s with depth := s.depth + 1 }) := by
  have beyond : maxDepth < s.depth + 1 := by omega
  show (if maxDepth < s.depth + 1 then _ else _ : Run Unit).run.run _ = _
  rw [if_pos beyond]
  rfl

/-- How the parsers without a state go on after the first operand of a sum or product. -/
structure Chained (operator? : Token → Option Operator) (operand : Nat → List Located → Parsed)
    (tail : Nat → Expr → List Located → Parsed) : Prop where
  last : ∀ budget left rest, (rest.head?.map Located.token).bind operator? = none →
    tail budget left rest = .ok (left, rest)
  full : ∀ left found rest op, operator? found.token = some op →
    tail 0 left (found :: rest) = .error .tooDeep
  next : ∀ budget left found rest op, operator? found.token = some op →
    tail (budget + 1) left (found :: rest) = do
      let (right, rest) ← operand budget rest
      tail budget (.binary left op right) rest

theorem chained_sum : Chained additive? (parseProduct stop) (parseSumTail stop) where
  last budget left rest other := by
    cases rest with
    | nil => rw [parseSumTail]
    | cons found rest =>
        have other : additive? found.token = none := other
        rw [parseSumTail]
        split <;> simp_all [additive?]
  full left found rest op known := by
    unfold additive? at known
    rw [parseSumTail]
    split at known <;> cases known <;> simp only [*, parseSumNext]
  next budget left found rest op known := by
    unfold additive? at known
    rw [parseSumTail]
    split at known <;> cases known <;> simp only [*, parseSumNext]

theorem chained_product : Chained multiplicative? (parseSigned stop) (parseProductTail stop) where
  last budget left rest other := by
    cases rest with
    | nil => rw [parseProductTail]
    | cons found rest =>
        have other : multiplicative? found.token = none := other
        rw [parseProductTail]
        split <;> simp_all [multiplicative?]
  full left found rest op known := by
    unfold multiplicative? at known
    rw [parseProductTail]
    split at known <;> cases known <;> simp only [*, parseProductNext]
  next budget left found rest op known := by
    unfold multiplicative? at known
    rw [parseProductTail]
    split at known <;> cases known <;> simp only [*, parseProductNext]

end PlotMarkup.Expr.Cursor
