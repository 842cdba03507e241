import Mathlib.Data.List.Basic
import PlotMarkup.Curve.Markup
import PlotMarkup.Proofs.Outcome

namespace PlotMarkup

namespace Diagnostic

/-- Counts the function of a diagnostic on, if it names one. -/
def shift (offset : Nat) (d : Diagnostic) : Diagnostic :=
  { d with
    context := d.context.map fun context =>
      { context with function := context.function.map (· + offset) } }

end Diagnostic

namespace Curve

/-- The expression and the domain of a curve can be read. -/
def Drawn (c : Curve) : Prop :=
  (∃ f, Formula.ofText c.expression = .ok f) ∧ ∃ domain, Domain.ofText c.domain = .ok domain

variable {c : Curve} {fragment : Fragment} {issue : Diagnostic}

theorem block_eq_ok : c.block = .ok fragment ↔ ∃ f domain,
    Formula.ofText c.expression = .ok f ∧ Domain.ofText c.domain = .ok domain ∧
      fragment = Fragment.ofText (c.plotClause ++ c.legendClause) ++
        Fragment.ofResult (c.tangentPart f domain) ++
        Fragment.ofResult (c.extremaPart f domain) := by
  simp only [block, bind_eq_ok]
  constructor
  · rintro ⟨f, formula, domain, bounds, made⟩
    exact ⟨f, domain, formula, bounds, (Except.ok.inj made).symm⟩
  · rintro ⟨f, domain, formula, bounds, rfl⟩
    exact ⟨f, formula, domain, bounds, rfl⟩

theorem drawn_iff_block : c.Drawn ↔ ∃ fragment, c.block = .ok fragment := by
  constructor
  · rintro ⟨⟨f, formula⟩, domain, bounds⟩
    exact ⟨_, block_eq_ok.mpr ⟨f, domain, formula, bounds, rfl⟩⟩
  · rintro ⟨fragment, made⟩
    obtain ⟨f, domain, formula, bounds, -⟩ := block_eq_ok.mp made
    exact ⟨⟨f, formula⟩, domain, bounds⟩

theorem not_drawn_iff_block : ¬c.Drawn ↔ ∃ issue, c.block = .error issue := by
  rw [drawn_iff_block]
  cases c.block <;> simp

theorem plotClause_ne_empty (c : Curve) : c.plotClause ≠ "" := by
  unfold plotClause
  -- The count of samples is not computed here.
  generalize toString samples = count
  simp

theorem text_ne_empty (made : c.block = .ok fragment) : fragment.text ≠ "" := by
  obtain ⟨f, domain, -, -, rfl⟩ := block_eq_ok.mp made
  show c.plotClause ++ c.legendClause ++ _ ++ _ ≠ ""
  simp [plotClause_ne_empty]

def blockText? (c : Curve) : Option String :=
  Fragment.textOf? c.block

theorem blockText?_of_error (failed : c.block = .error issue) : c.blockText? = none := by
  rw [blockText?, failed]
  rfl

theorem blockText?_isSome : c.blockText?.isSome ↔ c.Drawn := by
  rw [drawn_iff_block, blockText?]
  cases c.block <;> simp [Fragment.textOf?]

theorem blockText?_ne_empty {text : String} (drawn : c.blockText? = some text) : text ≠ "" := by
  unfold blockText? at drawn
  cases made : c.block with
  | error issue =>
      rw [made] at drawn
      cases drawn
  | ok fragment =>
      rw [made] at drawn
      cases drawn
      exact text_ne_empty made

variable {curves first second : List Curve}

def blockTexts (curves : List Curve) : List String :=
  curves.filterMap blockText?

def issuesFrom (index : Nat) (curves : List Curve) : List Diagnostic :=
  (curves.zipIdx index).flatMap fun (c, position) =>
    (Fragment.issuesOf c.block).map (·.inFunction position)

theorem text_fragment (curves : List Curve) :
    (Curve.fragment curves).text = "\n".intercalate (blockTexts curves) := by
  simp only [Curve.fragment, blockTexts, List.filterMap_map]
  rfl

theorem issues_fragment (curves : List Curve) :
    (Curve.fragment curves).issues = issuesFrom 0 curves := by
  simp only [Curve.fragment, issuesFrom, List.zipIdx_map, List.flatMap_map]
  rfl

theorem blockTexts_append (first second : List Curve) :
    blockTexts (first ++ second) = blockTexts first ++ blockTexts second :=
  List.filterMap_append

theorem blockTexts_eq_nil : blockTexts curves = [] ↔ ∀ c ∈ curves, ¬c.Drawn := by
  rw [blockTexts, List.filterMap_eq_nil_iff]
  apply forall₂_congr
  intro c _
  rw [← blockText?_isSome]
  cases c.blockText? <;> simp

theorem issuesFrom_append (index : Nat) (first second : List Curve) :
    issuesFrom index (first ++ second) =
      issuesFrom index first ++ issuesFrom (index + first.length) second := by
  rw [issuesFrom, List.zipIdx_append, List.flatMap_append]
  rfl

theorem issuesFrom_cons (index : Nat) (c : Curve) (rest : List Curve) :
    issuesFrom index (c :: rest) =
      (Fragment.issuesOf c.block).map (·.inFunction index) ++ issuesFrom (index + 1) rest := rfl

theorem issuesFrom_add (index offset : Nat) (curves : List Curve) :
    issuesFrom (index + offset) curves = (issuesFrom index curves).map (·.shift offset) := by
  induction curves generalizing index with
  | nil => rfl
  | cons c rest ih =>
      have later := ih (index + 1)
      rw [Nat.add_right_comm] at later
      rw [issuesFrom_cons, issuesFrom_cons, later, List.map_append, List.map_map]
      rfl

theorem intercalate_ne_empty {texts : List String} (some : texts ≠ [])
    (filled : ∀ text ∈ texts, text ≠ "") : "\n".intercalate texts ≠ "" := by
  cases texts with
  | nil => exact absurd rfl some
  | cons text rest =>
      have first := filled text List.mem_cons_self
      cases rest with
      | nil => simpa using first
      | cons next rest =>
          rw [String.intercalate_cons_cons]
          simp [first]

theorem text_fragment_eq_empty : (Curve.fragment curves).text = "" ↔ ∀ c ∈ curves, ¬c.Drawn := by
  rw [text_fragment, ← blockTexts_eq_nil]
  constructor
  · intro empty
    by_contra some
    refine intercalate_ne_empty some ?_ empty
    intro text member
    obtain ⟨c, -, drawn⟩ := List.mem_filterMap.mp member
    exact blockText?_ne_empty drawn
  · intro none
    rw [none]
    rfl

theorem issues_append (first second : List Curve) :
    (Curve.fragment (first ++ second)).issues =
      (Curve.fragment first).issues ++
        (Curve.fragment second).issues.map (·.shift first.length) := by
  rw [issues_fragment, issues_fragment, issues_fragment, issuesFrom_append, issuesFrom_add]

theorem text_append_of_drawn (some : ∃ c ∈ first, c.Drawn) (others : ∃ c ∈ second, c.Drawn) :
    (Curve.fragment (first ++ second)).text =
      (Curve.fragment first).text ++ "\n" ++ (Curve.fragment second).text := by
  have firstTexts : blockTexts first ≠ [] := by
    rw [ne_eq, blockTexts_eq_nil]
    simpa using some
  have secondTexts : blockTexts second ≠ [] := by
    rw [ne_eq, blockTexts_eq_nil]
    simpa using others
  rw [text_fragment, text_fragment, text_fragment, blockTexts_append,
    String.intercalate_append_of_ne_nil firstTexts secondTexts]

theorem text_append_of_first_missing (none : ∀ c ∈ first, ¬c.Drawn) :
    (Curve.fragment (first ++ second)).text = (Curve.fragment second).text := by
  rw [text_fragment, text_fragment, blockTexts_append, blockTexts_eq_nil.mpr none, List.nil_append]

theorem text_append_of_second_missing (none : ∀ c ∈ second, ¬c.Drawn) :
    (Curve.fragment (first ++ second)).text = (Curve.fragment first).text := by
  rw [text_fragment, text_fragment, blockTexts_append, blockTexts_eq_nil.mpr none, List.append_nil]

theorem text_between (first second : List Curve) (c : Curve) :
    (Curve.fragment (first ++ c :: second)).text =
      "\n".intercalate (blockTexts first ++ c.blockText?.toList ++ blockTexts second) := by
  rw [text_fragment, blockTexts_append, List.append_assoc]
  congr 2
  rw [blockTexts, List.filterMap_cons, blockTexts]
  cases c.blockText? <;> rfl

theorem issues_between (first second : List Curve) (c : Curve) :
    (Curve.fragment (first ++ c :: second)).issues =
      (Curve.fragment first).issues ++
        (Fragment.issuesOf c.block).map (·.inFunction first.length) ++
        (Curve.fragment second).issues.map (·.shift (first.length + 1)) := by
  have later : issuesFrom (first.length + 1) second =
      (issuesFrom 0 second).map (·.shift (first.length + 1)) := by
    rw [← issuesFrom_add, Nat.zero_add]
  rw [issues_fragment, issues_fragment, issues_fragment, issuesFrom_append, issuesFrom_cons,
    Nat.zero_add, later, List.append_assoc]

theorem fragment_between_of_error (first second : List Curve) (failed : c.block = .error issue) :
    (Curve.fragment (first ++ c :: second)).text = (Curve.fragment (first ++ second)).text ∧
      (Curve.fragment (first ++ c :: second)).issues =
        (Curve.fragment first).issues ++ [issue.inFunction first.length] ++
          (Curve.fragment second).issues.map (·.shift (first.length + 1)) := by
  constructor
  · rw [text_between, blockText?_of_error failed, text_fragment, blockTexts_append]
    simp
  · rw [issues_between, failed]
    rfl

structure Composed (first second : List Curve) : Prop where
  issues : (Curve.fragment (first ++ second)).issues =
    (Curve.fragment first).issues ++ (Curve.fragment second).issues.map (·.shift first.length)
  joined : (∃ c ∈ first, c.Drawn) → (∃ c ∈ second, c.Drawn) →
    (Curve.fragment (first ++ second)).text =
      (Curve.fragment first).text ++ "\n" ++ (Curve.fragment second).text
  secondOnly : (∀ c ∈ first, ¬c.Drawn) →
    (Curve.fragment (first ++ second)).text = (Curve.fragment second).text
  firstOnly : (∀ c ∈ second, ¬c.Drawn) →
    (Curve.fragment (first ++ second)).text = (Curve.fragment first).text
  firstEmpty : (Curve.fragment first).text = "" ↔ ∀ c ∈ first, ¬c.Drawn
  secondEmpty : (Curve.fragment second).text = "" ↔ ∀ c ∈ second, ¬c.Drawn
  text : (Curve.fragment (first ++ second)).text =
    "\n".intercalate (blockTexts first ++ blockTexts second)
  textBetween : ∀ c, (Curve.fragment (first ++ c :: second)).text =
    "\n".intercalate (blockTexts first ++ c.blockText?.toList ++ blockTexts second)
  issuesBetween : ∀ c, (Curve.fragment (first ++ c :: second)).issues =
    (Curve.fragment first).issues ++
      (Fragment.issuesOf c.block).map (·.inFunction first.length) ++
      (Curve.fragment second).issues.map (·.shift (first.length + 1))
  dropped : ∀ c, ¬c.Drawn → ∃ issue, c.block = .error issue ∧
    (Curve.fragment (first ++ c :: second)).text = (Curve.fragment (first ++ second)).text ∧
    (Curve.fragment (first ++ c :: second)).issues =
      (Curve.fragment first).issues ++ [issue.inFunction first.length] ++
        (Curve.fragment second).issues.map (·.shift (first.length + 1))

theorem composed (first second : List Curve) : Composed first second where
  issues := issues_append first second
  joined := text_append_of_drawn
  secondOnly := text_append_of_first_missing
  firstOnly := text_append_of_second_missing
  firstEmpty := text_fragment_eq_empty
  secondEmpty := text_fragment_eq_empty
  text := by rw [text_fragment, blockTexts_append]
  textBetween := text_between first second
  issuesBetween := issues_between first second
  dropped := by
    intro c missing
    obtain ⟨issue, failed⟩ := not_drawn_iff_block.mp missing
    exact ⟨issue, failed, fragment_between_of_error first second failed⟩

end Curve

end PlotMarkup
