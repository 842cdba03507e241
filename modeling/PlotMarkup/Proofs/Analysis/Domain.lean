import PlotMarkup.Proofs.Curve.Account
import PlotMarkup.Proofs.Number.Characters
import PlotMarkup.Proofs.Number.Order
import PlotMarkup.Proofs.Text.Lines

namespace PlotMarkup

namespace Domain

def Reads (part : String) (x : Float) : Prop :=
  ∃ core, Text.Trimmed part.toList core ∧ Number.read? (String.ofList core) = some x ∧
    x.isFinite = true

/-- A text with one colon, and a lower number before it than after it. -/
def Describes (text : String) (domain : Domain) : Prop :=
  ∃ left right, text = left ++ ":" ++ right ∧ ':' ∉ left.toList ∧ ':' ∉ right.toList ∧
    Reads left domain.low ∧ Reads right domain.high ∧ domain.low < domain.high

structure Usable (domain : Domain) : Prop where
  finite : domain.low.isFinite = true
  finite' : domain.high.isFinite = true
  increasing : domain.low < domain.high

def Locates (domain : Domain) (part : String) (x : Float) : Prop :=
  Reads part x ∧ domain.low ≤ x ∧ x ≤ domain.high

/-- The second text is the first one with white space around it. -/
def Padded (part part' : String) : Prop :=
  ∃ lead trail, part'.toList = lead ++ part.toList ++ trail ∧
    (∀ c ∈ lead, Text.isBlank c = true) ∧ ∀ c ∈ trail, Text.isBlank c = true

def names : List (List Char) :=
  ["nan".toList, "inf".toList, "infinity".toList]

/-- A text for an infinity or for NaN: the name of one, or digits beyond the range of doubles. -/
inductive Unbounded (part : String) : Prop where
  | named {sign name : List Char} (trimmed : Text.Trimmed part.toList (sign ++ name))
      (signed : sign ∈ [[], ['+'], ['-']])
      (known : name.map Char.toLower ∈ names)
  | beyond {core : List Char} {x : Float} (trimmed : Text.Trimmed part.toList core)
      (read : Number.read? (String.ofList core) = some x) (infinite : x.isFinite = false)

variable {text part part' before after left right : String} {domain : Domain} {x : Float}

theorem readFinite?_eq_some : readFinite? part = some x ↔ Reads part x := by
  unfold readFinite? Reads
  rw [Option.filter_eq_some_iff]
  constructor
  · rintro ⟨read, finite⟩
    exact ⟨_, Text.trimmed_trimBlank part.toList, read, finite⟩
  · rintro ⟨core, trimmed, read, finite⟩
    rw [Text.trim, trimmed.eq]
    exact ⟨read, finite⟩

theorem Reads.isFinite (reads : Reads part x) : x.isFinite = true := by
  obtain ⟨core, -, -, finite⟩ := reads
  exact finite

theorem Padded.trimmed {kept : List Char} (padded : Padded part part')
    (trimmed : Text.Trimmed part.toList kept) : Text.Trimmed part'.toList kept := by
  obtain ⟨lead, trail, whole, before, after⟩ := padded
  rw [whole]
  generalize part.toList = cs at trimmed
  cases trimmed with
  | blank all =>
      exact .blank (List.forall_mem_append.mpr ⟨List.forall_mem_append.mpr ⟨before, all⟩, after⟩)
  | @framed lead' kept trail' before' framed after' =>
      have frame := Text.Trimmed.framed (List.forall_mem_append.mpr ⟨before, before'⟩) framed
        (List.forall_mem_append.mpr ⟨after', after⟩)
      simpa only [List.append_assoc] using frame

theorem Padded.readFinite? (padded : Padded part part') :
    PlotMarkup.readFinite? part' = PlotMarkup.readFinite? part := by
  unfold PlotMarkup.readFinite? Text.trim
  rw [(padded.trimmed (Text.trimmed_trimBlank part.toList)).eq]

theorem Padded.reads_iff (padded : Padded part part') : Reads part' x ↔ Reads part x := by
  rw [← readFinite?_eq_some, padded.readFinite?, readFinite?_eq_some]

theorem Padded.not_mem_colon (padded : Padded part part') (whole : ':' ∉ part.toList) :
    ':' ∉ part'.toList := by
  obtain ⟨lead, trail, same, before, after⟩ := padded
  rw [same, List.mem_append, List.mem_append, not_or, not_or]
  exact ⟨⟨fun member => absurd (before ':' member) (by decide), whole⟩,
    fun member => absurd (after ':' member) (by decide)⟩

theorem exists_readNamed? {name : List Char} (known : name.map Char.toLower ∈ names) :
    ∃ x, Number.readNamed? name = some x := by
  simp only [names, List.mem_cons, List.not_mem_nil, or_false] at known
  unfold Number.readNamed?
  rcases known with known | known | known <;> rw [known, String.ofList_toList] <;> exact ⟨_, rfl⟩

theorem splitSign_of_named {sign name : List Char} (signed : sign ∈ [[], ['+'], ['-']])
    (known : name.map Char.toLower ∈ names) :
    Number.splitSign (sign ++ name) = (sign == ['-'], name) := by
  have unsigned (c : Char) (rest : List Char) (apart : c.toLower ∉ ['n', 'i']) :
      name ≠ c :: rest := by
    rintro rfl
    have first : (c.toLower :: rest.map Char.toLower).head? ∈ [some 'n', some 'i'] := by
      have heads : ∀ word ∈ names, word.head? ∈ [some 'n', some 'i'] := by decide
      exact heads _ known
    exact apart (by simpa using first)
  simp only [List.mem_cons, List.not_mem_nil, or_false] at signed
  rcases signed with rfl | rfl | rfl
  · rw [List.nil_append, Number.splitSign]
    · rfl
    · exact fun rest => unsigned '-' rest (by decide)
    · exact fun rest => unsigned '+' rest (by decide)
  · rfl
  · rfl

theorem exists_read?_of_named {sign name : List Char} (signed : sign ∈ [[], ['+'], ['-']])
    (known : name.map Char.toLower ∈ names) :
    ∃ x, Number.read? (String.ofList (sign ++ name)) = some x ∧ x.isFinite = false := by
  obtain ⟨y, named⟩ := exists_readNamed? known
  obtain ⟨infinite, infinite'⟩ := Number.not_isFinite_of_readNamed? named
  unfold Number.read? Number.readChars?
  rw [String.toList_ofList, splitSign_of_named signed known]
  dsimp only
  rw [named, Option.some_or]
  cases sign == ['-'] with
  | false => exact ⟨y, rfl, infinite⟩
  | true => exact ⟨-y, rfl, infinite'⟩

theorem Unbounded.not_reads (unbounded : Unbounded part) : ¬Reads part x := by
  rintro ⟨core, trimmed, read, finite⟩
  have infinite (core' : List Char) (x' : Float) (trimmed' : Text.Trimmed part.toList core')
      (read' : Number.read? (String.ofList core') = some x') : x'.isFinite = true := by
    rw [← trimmed'.eq, trimmed.eq, read] at read'
    cases read'
    exact finite
  cases unbounded with
  | named trimmed' signed known =>
      obtain ⟨x', read', beyond⟩ := exists_read?_of_named signed known
      rw [infinite _ x' trimmed' read'] at beyond
      cases beyond
  | beyond trimmed' read' beyond =>
      rw [infinite _ _ trimmed' read'] at beyond
      cases beyond

theorem toList_sides (left right : String) :
    (left ++ ":" ++ right).toList = left.toList ++ ':' :: right.toList := by
  simp [String.toList_append]

theorem sides_inj {left' right' : String} (same : left ++ ":" ++ right = left' ++ ":" ++ right')
    (noLeft : ':' ∉ left.toList) (noRight : ':' ∉ right.toList) : left = left' ∧ right = right' := by
  have same := congrArg String.toList same
  rw [toList_sides, toList_sides, List.append_cons_inj_of_notMem noLeft noRight,
    String.toList_inj, String.toList_inj] at same
  exact ⟨same.1, same.2.2⟩

theorem parts_eq_ok : parts text = .ok (before, after) ↔
    text = before ++ ":" ++ after ∧ ':' ∉ before.toList ∧ ':' ∉ after.toList := by
  constructor
  · intro split
    have whole := List.takeWhile_append_dropWhile (p := (· != ':')) (l := text.toList)
    have stop := List.head?_dropWhile_not (· != ':') text.toList
    have noColon : ':' ∉ text.toList.takeWhile (· != ':') := by
      intro member
      have other := List.mem_takeWhile_imp member
      simp at other
    unfold parts at split
    dsimp only at split
    split at split
    · cases split
    · rename_i colon tail dropped
      rw [dropped] at whole stop
      obtain rfl : colon = ':' := by simpa using stop
      split at split
      · cases split
      · rename_i single
        cases split
        rw [← String.toList_inj, toList_sides]
        simp only [String.toList_ofList]
        exact ⟨whole.symm, noColon, single⟩
  · rintro ⟨rfl, noColon, single⟩
    have others : ∀ c ∈ before.toList, (c != ':') = true := by
      intro c member
      rw [bne_iff_ne]
      rintro rfl
      exact noColon member
    unfold parts
    rw [toList_sides, List.takeWhile_append_of_pos others, List.dropWhile_append_of_pos others]
    simp [single]

theorem readBound_eq_ok : readBound part = .ok x ↔ Reads part x := by
  rw [← readFinite?_eq_some]
  unfold readBound
  cases readFinite? part <;> simp

theorem read_eq_ok : read text = .ok domain ↔ Describes text domain := by
  unfold read
  simp only [bind_eq_ok]
  constructor
  · rintro ⟨⟨left, right⟩, split, low, lower, high, upper, made⟩
    obtain ⟨whole, noLeft, noRight⟩ := parts_eq_ok.mp split
    have lower := readBound_eq_ok.mp lower
    have upper := readBound_eq_ok.mp upper
    split at made
    · cases made
    · rename_i increasing
      cases made
      rw [Number.not_le_iff upper.isFinite lower.isFinite] at increasing
      exact ⟨left, right, whole, noLeft, noRight, lower, upper, increasing⟩
  · rintro ⟨left, right, whole, noLeft, noRight, lower, upper, increasing⟩
    refine ⟨(left, right), parts_eq_ok.mpr ⟨whole, noLeft, noRight⟩, domain.low,
      readBound_eq_ok.mpr lower, domain.high, readBound_eq_ok.mpr upper, if_neg ?_⟩
    rwa [Number.not_le_iff upper.isFinite lower.isFinite]

theorem ofText_eq_ok : ofText text = .ok domain ↔ Describes text domain := by
  rw [← read_eq_ok]
  unfold ofText
  cases read text <;> simp

theorem usable_of_ofText (read : ofText text = .ok domain) : Usable domain := by
  obtain ⟨left, right, -, -, -, lower, upper, increasing⟩ := ofText_eq_ok.mp read
  exact ⟨lower.isFinite, upper.isFinite, increasing⟩

theorem ofText_eq_error (undescribed : ∀ domain, ¬Describes text domain) :
    ∃ issue, ofText text = .error issue ∧ issue.kind = .invalidDomain := by
  cases read : ofText text with
  | ok domain => exact absurd (ofText_eq_ok.mp read) (undescribed domain)
  | error issue => exact ⟨issue, rfl, kind_of_ofText read⟩

theorem Usable.readPoint_eq_ok (usable : Usable domain) :
    domain.readPoint part = .ok x ↔ Locates domain part x := by
  unfold readPoint Locates
  rw [← readFinite?_eq_some]
  cases read : readFinite? part with
  | none => simp
  | some y =>
      have finite := (readFinite?_eq_some.mp read).isFinite
      have outside : y < domain.low ∨ domain.high < y ↔ ¬(domain.low ≤ y ∧ y ≤ domain.high) := by
        rw [not_and_or, Number.not_le_iff usable.finite finite,
          Number.not_le_iff finite usable.finite']
      dsimp only
      by_cases inside : domain.low ≤ y ∧ y ≤ domain.high
      · rw [if_neg (by rw [outside, not_not]; exact inside)]
        constructor
        · rintro ⟨⟩
          exact ⟨rfl, inside⟩
        · rintro ⟨⟨⟩, -⟩
          rfl
      · rw [if_pos (outside.mpr inside)]
        constructor
        · rintro ⟨⟩
        · rintro ⟨⟨⟩, inside'⟩
          exact absurd inside' inside

theorem toOption_pointOfText :
    (domain.pointOfText part).toOption = (domain.readPoint part).toOption := by
  unfold pointOfText
  cases domain.readPoint part <;> rfl

theorem Usable.pointOfText_eq_ok (usable : Usable domain) :
    domain.pointOfText part = .ok x ↔ Locates domain part x := by
  rw [← toOption_eq_some, toOption_pointOfText, toOption_eq_some, usable.readPoint_eq_ok]

theorem Usable.pointOfText_eq_error (usable : Usable domain)
    (elsewhere : ∀ x, ¬Locates domain part x) :
    ∃ issue, domain.pointOfText part = .error issue ∧ issue.kind = .invalidTangentPoint := by
  cases read : domain.pointOfText part with
  | ok x => exact absurd (usable.pointOfText_eq_ok.mp read) (elsewhere x)
  | error issue => exact ⟨issue, rfl, kind_of_pointOfText read⟩

theorem Padded.pointOfText (padded : Padded part part') :
    (domain.pointOfText part').toOption = (domain.pointOfText part).toOption := by
  rw [toOption_pointOfText, toOption_pointOfText, readPoint, padded.readFinite?]
  rfl

theorem describes_intercalate {parts : List String} (whole : ∀ part ∈ parts, ':' ∉ part.toList) :
    Describes (":".intercalate parts) domain ↔ ∃ left right, parts = [left, right] ∧
      Reads left domain.low ∧ Reads right domain.high ∧ domain.low < domain.high := by
  constructor
  · rintro ⟨left, right, same, noLeft, noRight, lower, upper, increasing⟩
    match parts with
    | [] =>
        have same := congrArg String.toList same
        rw [toList_sides] at same
        simp at same
    | [part] =>
        have inside := whole part List.mem_cons_self
        rw [String.intercalate_singleton] at same
        rw [same, toList_sides] at inside
        simp at inside
    | part :: next :: others =>
        rw [String.intercalate_cons_cons] at same
        obtain ⟨rfl, rfl⟩ := sides_inj same.symm noLeft noRight
        cases others with
        | nil =>
            rw [String.intercalate_singleton] at upper
            exact ⟨left, next, rfl, lower, upper, increasing⟩
        | cons more others =>
            rw [String.intercalate_cons_cons, toList_sides] at noRight
            simp at noRight
  · rintro ⟨left, right, rfl, lower, upper, increasing⟩
    have noLeft := whole left List.mem_cons_self
    have noRight := whole right (List.mem_cons_of_mem _ List.mem_cons_self)
    exact ⟨left, right, by rw [String.intercalate_cons_cons, String.intercalate_singleton],
      noLeft, noRight, lower, upper, increasing⟩

theorem describes_padded {parts parts' : List String} (padded : List.Forall₂ Padded parts parts')
    (whole : ∀ part ∈ parts, ':' ∉ part.toList) :
    Describes (":".intercalate parts') domain ↔ Describes (":".intercalate parts) domain := by
  have whole' : ∀ part ∈ parts', ':' ∉ part.toList := by
    induction padded with
    | nil => exact List.forall_mem_nil _
    | cons first _ ih =>
        obtain ⟨head, tail⟩ := List.forall_mem_cons.mp whole
        exact List.forall_mem_cons.mpr ⟨first.not_mem_colon head, ih tail⟩
  rw [describes_intercalate whole, describes_intercalate whole']
  -- There are two parts in both texts, or there are not.
  cases padded with
  | nil => simp
  | cons first others =>
      cases others with
      | nil => simp
      | cons second others =>
          cases others with
          | nil => simp [first.reads_iff, second.reads_iff]
          | cons => simp

theorem not_describes_of_unbounded (unbounded : Unbounded left ∨ Unbounded right) :
    ¬Describes (left ++ ":" ++ right) domain := by
  rintro ⟨left', right', same, noLeft, noRight, lower, upper, -⟩
  obtain ⟨rfl, rfl⟩ := sides_inj same.symm noLeft noRight
  rcases unbounded with unbounded | unbounded
  · exact unbounded.not_reads lower
  · exact unbounded.not_reads upper

open Curve (tangentNote extremaNote)

inductive TangentSource (c : Curve) (f : Formula) (domain : Domain) :
    Except Diagnostic String → Prop where
  | unwanted (plain : c.wantsTangent = false) : TangentSource c f domain (.ok "")
  | rejected {issue : Diagnostic} (failed : domain.pointOfText c.tangentPoint = .error issue)
      (kind : issue.kind = .invalidTangentPoint) :
      TangentSource c f domain (.error (issue.withNote tangentNote))
  | computed {x0 : Float} (point : domain.pointOfText c.tangentPoint = .ok x0)
      (finite : x0.isFinite = true) (above : domain.low ≤ x0) (below : x0 ≤ domain.high) :
      TangentSource c f domain
        (((f.tangent x0).map c.tangentClauses).mapError (·.withNote tangentNote))

inductive ExtremaSource (c : Curve) (f : Formula) (domain : Domain) :
    Except Diagnostic String → Prop where
  | unwanted (plain : c.extrema = false) : ExtremaSource c f domain (.ok "")
  | computed : ExtremaSource c f domain
      (((f.extrema domain.low domain.high).map c.extremaClauses).mapError (·.withNote extremaNote))

inductive BlockSource (c : Curve) : Except Diagnostic Fragment → Prop where
  | unread {issue : Diagnostic}
      (kind : issue.kind = .invalidExpression ∨ issue.kind = .invalidDomain) :
      BlockSource c (.error issue)
  | drawn {f : Formula} {domain : Domain} {tangent extrema : Except Diagnostic String}
      (formula : Formula.ofText c.expression = .ok f) (bounds : ofText c.domain = .ok domain)
      (usable : Usable domain) (first : TangentSource c f domain tangent)
      (second : ExtremaSource c f domain extrema) : BlockSource c
        (.ok (Fragment.ofText (c.plotClause ++ c.legendClause) ++ Fragment.ofResult tangent ++
          Fragment.ofResult extrema))

inductive ScanSource (expression text : String) : Except Diagnostic (List Extremum) → Prop where
  | unread {issue : Diagnostic}
      (kind : issue.kind = .invalidDomain ∨ issue.kind = .invalidExpression) :
      ScanSource expression text (.error issue)
  | computed {f : Formula} {domain : Domain} (formula : Formula.ofText expression = .ok f)
      (bounds : ofText text = .ok domain) (usable : Usable domain) :
      ScanSource expression text (f.extrema domain.low domain.high)

theorem Usable.tangentSource (usable : Usable domain) (c : Curve) (f : Formula) :
    TangentSource c f domain (c.tangentPart f domain) := by
  rw [Curve.tangentPart]
  cases wanted : c.wantsTangent with
  | false => exact .unwanted wanted
  | true =>
      cases point : domain.pointOfText c.tangentPoint with
      | error issue => exact .rejected point (kind_of_pointOfText point)
      | ok x0 =>
          obtain ⟨reads, above, below⟩ := usable.pointOfText_eq_ok.mp point
          have source := TangentSource.computed (f := f) point reads.isFinite above below
          show TangentSource c f domain (Except.mapError (·.withNote tangentNote)
            (f.tangent x0 >>= fun line => .ok (c.tangentClauses line)))
          cases touching : f.tangent x0 <;> rwa [touching] at source

theorem extremaSource (c : Curve) (f : Formula) (domain : Domain) :
    ExtremaSource c f domain (c.extremaPart f domain) := by
  rw [Curve.extremaPart]
  cases wanted : c.extrema with
  | false => exact .unwanted wanted
  | true =>
      have source : ExtremaSource c f domain _ := .computed
      cases found : f.extrema domain.low domain.high <;> rwa [found] at source

theorem blockSource (c : Curve) : BlockSource c c.block := by
  cases formula : Formula.ofText c.expression with
  | error issue =>
      rw [Curve.block, formula]
      exact .unread (.inl (Formula.kind_of_ofText formula))
  | ok f =>
      cases bounds : ofText c.domain with
      | error issue =>
          rw [Curve.block, formula, bounds]
          exact .unread (.inr (kind_of_ofText bounds))
      | ok domain =>
          have usable := usable_of_ofText bounds
          rw [Curve.block_eq_ok.mpr ⟨f, domain, formula, bounds, rfl⟩]
          exact .drawn formula bounds usable (usable.tangentSource c f) (extremaSource c f domain)

theorem scanSource (expression text : String) :
    ScanSource expression text (extremaOfText expression text) := by
  cases bounds : ofText text with
  | error issue =>
      rw [extremaOfText, bounds]
      exact .unread (.inl (kind_of_ofText bounds))
  | ok domain =>
      cases formula : Formula.ofText expression with
      | error issue =>
          rw [extremaOfText, bounds, formula]
          exact .unread (.inr (Formula.kind_of_ofText formula))
      | ok f =>
          rw [extremaOfText, bounds, formula]
          exact .computed formula bounds (usable_of_ofText bounds)

structure Sound (text : String) : Prop where
  accepted : ∀ domain, ofText text = .ok domain ↔ Describes text domain
  rejected : (∀ domain, ¬Describes text domain) →
    ∃ issue, ofText text = .error issue ∧ issue.kind = .invalidDomain
  point : ∀ domain, ofText text = .ok domain → ∀ part x,
    domain.pointOfText part = .ok x ↔ Locates domain part x
  noPoint : ∀ domain, ofText text = .ok domain → ∀ part, (∀ x, ¬Locates domain part x) →
    ∃ issue, domain.pointOfText part = .error issue ∧ issue.kind = .invalidTangentPoint
  spaced : ∀ parts parts', (∀ part ∈ parts, ':' ∉ part.toList) → text = ":".intercalate parts →
    List.Forall₂ Padded parts parts' →
      (ofText (":".intercalate parts')).toOption = (ofText text).toOption
  spacedPoint : ∀ (domain : Domain) part part', Padded part part' →
    (domain.pointOfText part').toOption = (domain.pointOfText part).toOption
  unbounded : ∀ left right, text = left ++ ":" ++ right → Unbounded left ∨ Unbounded right →
    ∃ issue, ofText text = .error issue ∧ issue.kind = .invalidDomain
  unboundedPoint : ∀ domain, ofText text = .ok domain → ∀ part, Unbounded part →
    ∃ issue, domain.pointOfText part = .error issue ∧ issue.kind = .invalidTangentPoint
  usable : ∀ domain, ofText text = .ok domain → Usable domain
  scanned : ∀ expression, ScanSource expression text (extremaOfText expression text)
  drawn : ∀ c : Curve, c.domain = text → BlockSource c c.block

theorem toOption_ofText_congr {text' : String}
    (same : ∀ domain, Describes text' domain ↔ Describes text domain) :
    (ofText text').toOption = (ofText text).toOption := by
  refine Option.ext fun domain => ?_
  rw [toOption_eq_some, toOption_eq_some, ofText_eq_ok, ofText_eq_ok, same]

theorem ofText_sound (text : String) : Sound text where
  accepted domain := ofText_eq_ok
  rejected := ofText_eq_error
  point domain read part x := (usable_of_ofText read).pointOfText_eq_ok
  noPoint domain read part := (usable_of_ofText read).pointOfText_eq_error
  spaced parts parts' whole same padded := by
    subst same
    exact toOption_ofText_congr fun domain => describes_padded padded whole
  spacedPoint domain part part' padded := padded.pointOfText
  unbounded left right same unbounded := by
    subst same
    exact ofText_eq_error fun domain => not_describes_of_unbounded unbounded
  unboundedPoint domain read part unbounded :=
    (usable_of_ofText read).pointOfText_eq_error fun x located => unbounded.not_reads located.1
  usable domain := usable_of_ofText
  scanned expression := scanSource expression text
  drawn c _ := blockSource c

example : (ofText "\u00A0-2.5 :\t1e1\n").toOption = some ⟨-2.5, 10⟩ := by decide +kernel

end Domain

end PlotMarkup
