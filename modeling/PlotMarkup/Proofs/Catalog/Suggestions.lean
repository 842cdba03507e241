import Mathlib.Data.Finset.Card
import Mathlib.Data.Nat.Dist
import PlotMarkup.Proofs.Catalog.Lookup

namespace PlotMarkup

namespace Text

theorem lowerChar_ne_nil (c : Char) : lowerChar c ≠ [] := by
  unfold lowerChar
  split
  · simp
  · split
    · simp
    · split <;> simp

theorem lowerCase_eq_empty {text : String} : lowerCase text = "" ↔ text = "" := by
  rw [lowerCase, ← String.toList_eq_nil_iff, String.toList_ofList, ← String.toList_eq_nil_iff]
  cases text.toList with
  | nil => simp [lowerFrom]
  | cons c rest =>
      have kept := lowerChar_ne_nil c
      simp only [lowerFrom, List.append_eq_nil_iff, reduceCtorEq, iff_false]
      split
      · split <;> simp
      · simp [kept]

end Text

namespace Catalog

theorem contains_iff {whole part : List Char} : contains whole part = true ↔ part <:+: whole := by
  induction whole with
  | nil => simp [contains]
  | cons c rest ih =>
      rw [contains, Bool.or_eq_true, ih, List.isPrefixOf_iff_prefix, List.infix_cons_iff]

theorem nodup_eraseDups (cs : List Char) : cs.eraseDups.Nodup := by
  cases cs with
  | nil => simp
  | cons c rest =>
      rw [List.eraseDups_cons, List.nodup_cons]
      constructor
      · simp [List.mem_eraseDups]
      · exact nodup_eraseDups _
termination_by cs.length
decreasing_by exact Nat.lt_succ_of_le (List.length_filter_le _ _)

theorem sharedCharacters_eq_card (first second : List Char) :
    sharedCharacters first second = (first.toFinset ∩ second.toFinset).card := by
  have same : first.toFinset ∩ second.toFinset =
      (first.eraseDups.filter (· ∈ second)).toFinset := by
    ext c
    simp
  rw [same, List.toFinset_card_of_nodup ((nodup_eraseDups first).filter _)]
  rfl

/-- Where one text stands in the other counts most: at the start, inside, or around it. -/
def containment (query candidate : List Char) : Nat :=
  if query <+: candidate then 100
  else if query <:+: candidate then 50
  else if candidate <:+: query then 30
  else 0

/-- How like a candidate is to a query, both in lower case.  Their common characters count, and so
does a similar length in bytes if they have anything in common. -/
def likeness (query candidate : String) : Nat :=
  let base := containment query.toList candidate.toList +
    2 * (query.toList.toFinset ∩ candidate.toList.toFinset).card
  base + if 0 < base then 5 - Nat.dist query.utf8ByteSize candidate.utf8ByteSize else 0

variable {query candidate id : String} {ids : List String} {catalog : Catalog}

theorem similarity_eq (nonempty : query ≠ "") :
    similarity query candidate =
      if likeness query candidate < noise then 0 else likeness query candidate := by
  have bonus : containmentScore query.toList candidate.toList =
      containment query.toList candidate.toList := by
    simp only [containmentScore, containment, contains_iff, List.isPrefixOf_iff_prefix]
  have distance : lengthDifference query candidate =
      Nat.dist query.utf8ByteSize candidate.utf8ByteSize := by
    unfold lengthDifference Nat.dist
    omega
  rw [similarity, if_neg nonempty, bonus, sharedCharacters_eq_card, distance, likeness]
  generalize containment query.toList candidate.toList +
    2 * (query.toList.toFinset ∩ candidate.toList.toFinset).card = base
  generalize Nat.dist query.utf8ByteSize candidate.utf8ByteSize = apart
  have score : (if apart < 5 ∧ 0 < base then base + (5 - apart) else base) =
      base + if 0 < base then 5 - apart else 0 := by
    split <;> split <;> omega
  simp only [score]

theorem utf8ByteSize_lt (starts : query.toList <+: candidate.toList) (other : candidate ≠ query) :
    query.utf8ByteSize < candidate.utf8ByteSize := by
  obtain ⟨rest, same⟩ := starts
  have whole : candidate = query ++ String.ofList rest := by
    rw [← String.toList_inj, String.toList_append, String.toList_ofList, same]
  have longer : (String.ofList rest).utf8ByteSize ≠ 0 := by
    rw [Ne, String.utf8ByteSize_eq_zero_iff]
    intro empty
    apply other
    rw [whole, empty, String.append_empty]
  rw [whole, String.utf8ByteSize_append]
  omega

theorem containment_le (other : ¬query.toList <+: candidate.toList) :
    containment query.toList candidate.toList ≤ 50 := by
  rw [containment, if_neg other]
  split
  · omega
  · split <;> omega

theorem likeness_self (text : String) :
    likeness text text = 105 + 2 * text.toList.toFinset.card := by
  simp [likeness, containment, Nat.dist]
  omega

theorem likeness_lt (other : candidate ≠ query) :
    likeness query candidate < likeness query query := by
  have shared : (query.toList.toFinset ∩ candidate.toList.toFinset).card ≤
      query.toList.toFinset.card := Finset.card_le_card Finset.inter_subset_left
  rw [likeness_self, likeness]
  by_cases starts : query.toList <+: candidate.toList
  · have longer := utf8ByteSize_lt starts other
    have apart := Nat.dist_pos_of_ne longer.ne
    have bonus : containment query.toList candidate.toList = 100 := if_pos starts
    rw [bonus]
    split <;> omega
  · have bonus := containment_le starts
    split <;> omega

def score (query id : String) : Nat :=
  similarity (Text.lowerCase query) (Text.lowerCase id)

theorem rank_eq (query : String) (ids : List String) :
    rank query ids = (ids.filter fun id => 0 < score query id).mergeSort
      fun first second => score query second ≤ score query first := by
  have paired : (ids.map fun id => (id, score query id)).filter (0 < ·.2) =
      (ids.filter fun id => 0 < score query id).map fun id => (id, score query id) := by
    rw [List.filter_map]
    rfl
  unfold rank
  dsimp only
  change (((ids.map fun id => (id, score query id)).filter (0 < ·.2)).mergeSort _).map _ = _
  rw [paired, ← List.map_mergeSort (r := fun first second => score query second ≤ score query first)]
  · simp [Function.comp_def]
  · simp

theorem mem_rank : id ∈ rank query ids ↔ id ∈ ids ∧ 0 < score query id := by
  simp [rank_eq]

theorem nodup_rank (distinct : ids.Nodup) (query : String) : (rank query ids).Nodup := by
  rw [rank_eq, (List.mergeSort_perm _ _).nodup_iff]
  exact distinct.filter _

theorem score_of_pos (positive : 0 < score query id) :
    score query id = likeness (Text.lowerCase query) (Text.lowerCase id) := by
  unfold score at positive ⊢
  by_cases empty : Text.lowerCase query = ""
  · simp [similarity, empty] at positive
  · rw [similarity_eq empty] at positive ⊢
    split at positive <;> simp_all

theorem score_pos_iff : 0 < score query id ↔
    query ≠ "" ∧ 8 ≤ likeness (Text.lowerCase query) (Text.lowerCase id) := by
  unfold score
  by_cases empty : query = ""
  · simp [similarity, empty, Text.lowerCase_eq_empty.mpr]
  · rw [similarity_eq (mt Text.lowerCase_eq_empty.mp empty), noise]
    split <;> simp [empty] <;> omega

theorem not_sublist_swap {first second : String} (distinct : ids.Nodup)
    (there : [first, second].Sublist ids) : ¬[second, first].Sublist ids := by
  induction ids with
  | nil => simp
  | cons id rest ih =>
      obtain ⟨fresh, distinct⟩ := List.nodup_cons.mp distinct
      rcases List.sublist_cons_iff.mp there with there | ⟨_, same, there⟩
      · have members := there.subset
        intro back
        rcases List.sublist_cons_iff.mp back with back | ⟨_, same, -⟩
        · exact ih distinct there back
        · obtain ⟨rfl, -⟩ := List.cons.inj same
          exact fresh (members (by simp))
      · obtain ⟨rfl, rfl⟩ := List.cons.inj same
        have later := List.singleton_sublist.mp there
        intro back
        rcases List.sublist_cons_iff.mp back with back | ⟨_, same, -⟩
        · exact fresh (back.subset (by simp))
        · rw [(List.cons.inj same).1] at later
          exact fresh later

theorem pair_sublist {first second : String} (here : first ∈ ids) (there : second ∈ ids)
    (other : first ≠ second) :
    [first, second].Sublist ids ∨ [second, first].Sublist ids := by
  induction ids with
  | nil => simp at here
  | cons id rest ih =>
      rcases List.mem_cons.mp here with rfl | later
      · have later := (List.mem_cons.mp there).resolve_left other.symm
        exact .inl ((List.singleton_sublist.mpr later).cons_cons first)
      · rcases List.mem_cons.mp there with rfl | there
        · exact .inr ((List.singleton_sublist.mpr later).cons_cons second)
        · exact (ih later there).imp (.cons id) (.cons id)

theorem pairwise_rank (distinct : ids.Nodup) (query : String) :
    (rank query ids).Pairwise fun first second => score query second < score query first ∨
      score query second = score query first ∧ [first, second].Sublist ids := by
  have transitive : ∀ first second third : String,
      decide (score query second ≤ score query first) = true →
      decide (score query third ≤ score query second) = true →
      decide (score query third ≤ score query first) = true := by
    simp only [decide_eq_true_eq]
    omega
  have total : ∀ first second : String, (decide (score query second ≤ score query first) ||
      decide (score query first ≤ score query second)) = true := by
    simp only [Bool.or_eq_true, decide_eq_true_eq]
    omega
  have sorted := List.pairwise_mergeSort transitive total
    (ids.filter fun id => 0 < score query id)
  rw [← rank_eq] at sorted
  have fresh := nodup_rank distinct query
  rw [List.pairwise_iff_forall_sublist]
  intro first second there
  have least := List.pairwise_iff_forall_sublist.mp sorted there
  rw [decide_eq_true_eq] at least
  refine least.lt_or_eq.imp_right fun tie => ⟨tie, ?_⟩
  -- Sorting would have kept the opposite order as well.
  have other : first ≠ second := (List.pairwise_iff_forall_sublist.mp fresh there)
  have first_mem := mem_rank.mp (there.subset (by simp : first ∈ _))
  have second_mem := mem_rank.mp (there.subset (by simp : second ∈ _))
  refine (pair_sublist first_mem.1 second_mem.1 other).resolve_right fun back => ?_
  apply not_sublist_swap fresh there
  rw [rank_eq]
  apply List.pair_sublist_mergeSort transitive total
  · simp [tie]
  · have kept := back.filter fun id => decide (0 < score query id)
    simpa [first_mem.2, second_mem.2] using kept

theorem find?_sublist {kind : String → Bool} {first second : String} (distinct : ids.Nodup)
    (found : ids.find? kind = some first) (ahead : [second, first].Sublist ids) :
    kind second = false := by
  obtain ⟨-, before, after, whole, others⟩ := List.find?_eq_some_iff_append.mp found
  rw [Bool.eq_false_iff]
  intro alike
  have here : second ∈ ids := ahead.subset (by simp)
  have other : second ≠ first := List.pairwise_iff_forall_sublist.mp distinct ahead
  rw [whole, List.mem_append, List.mem_cons] at here
  rcases here with here | here | later
  · simpa [alike] using others second here
  · exact other here
  · refine not_sublist_swap distinct ahead ?_
    rw [whole]
    exact ((List.singleton_sublist.mpr later).cons_cons first).trans
      (List.sublist_append_right before _)

theorem head?_rank (distinct : ids.Nodup)
    (found : ids.find? (Text.lowerCase · == Text.lowerCase query) = some id) (nonempty : id ≠ "") :
    (rank query ids).head? = some id := by
  have same : Text.lowerCase id = Text.lowerCase query := by simpa using List.find?_some found
  have asked : query ≠ "" := by
    rwa [Ne, ← Text.lowerCase_eq_empty, ← same, Text.lowerCase_eq_empty]
  have positive : 0 < score query id := by
    rw [score_pos_iff, same, likeness_self]
    exact ⟨asked, by omega⟩
  have member := mem_rank.mpr ⟨List.mem_of_find?_eq_some found, positive⟩
  have ranked := pairwise_rank distinct query
  cases listed : rank query ids with
  | nil => simp [listed] at member
  | cons best rest =>
      rw [listed] at member ranked
      rcases List.mem_cons.mp member with rfl | later
      · rfl
      · have best_mem := mem_rank.mp (listed ▸ List.mem_cons_self : best ∈ rank query ids)
        rcases (List.pairwise_cons.mp ranked).1 id later with better | ⟨tie, ahead⟩
        · exfalso
          rw [score_of_pos positive, score_of_pos best_mem.2, same] at better
          by_cases alike : Text.lowerCase best = Text.lowerCase query
          · rw [alike] at better
            exact better.false
          · exact (likeness_lt alike).asymm better
        · exfalso
          have other := find?_sublist distinct found ahead
          rw [beq_eq_false_iff_ne] at other
          rw [score_of_pos positive, score_of_pos best_mem.2, same] at tie
          exact (likeness_lt other).ne tie.symm

structure Suggests (catalog : Catalog) (query : String) : Prop where
  once : (catalog.findSimilar query).Nodup
  listed : ∀ id, id ∈ catalog.findSimilar query ↔ id ∈ catalog.ids ∧ query ≠ "" ∧
    8 ≤ likeness (Text.lowerCase query) (Text.lowerCase id)
  ranked : (catalog.findSimilar query).Pairwise fun first second =>
    likeness (Text.lowerCase query) (Text.lowerCase second) <
      likeness (Text.lowerCase query) (Text.lowerCase first) ∨
    likeness (Text.lowerCase query) (Text.lowerCase second) =
      likeness (Text.lowerCase query) (Text.lowerCase first) ∧ [first, second].Sublist catalog.ids
  empty : query = "" → catalog.findSimilar query = []
  exact : ∀ other ∈ catalog.ids, other ≠ "" → Text.lowerCase other = Text.lowerCase query →
    ∃ id, catalog.ids.find? (Text.lowerCase · == Text.lowerCase query) = some id ∧
      (catalog.findSimilar query).head? = some id
  required : query ∉ catalog.ids →
    ∀ other ∈ catalog.ids, Text.lowerCase other = Text.lowerCase query →
    ∃ id, catalog.ids.find? (Text.lowerCase · == Text.lowerCase query) = some id ∧
      catalog.require query = .error
        ((Diagnostic.unknownSetting query).withSuggestion ("Did you mean '" ++ id ++ "'?"))

theorem exists_head?_findSimilar {other : String} (member : other ∈ catalog.ids)
    (nonempty : other ≠ "") (alike : Text.lowerCase other = Text.lowerCase query) :
    ∃ id, catalog.ids.find? (Text.lowerCase · == Text.lowerCase query) = some id ∧
      (catalog.findSimilar query).head? = some id := by
  have some_found : (catalog.ids.find? (Text.lowerCase · == Text.lowerCase query)).isSome :=
    List.find?_isSome.mpr ⟨other, member, by simpa using alike⟩
  obtain ⟨id, found⟩ := Option.isSome_iff_exists.mp some_found
  have same : Text.lowerCase id = Text.lowerCase query := by simpa using List.find?_some found
  refine ⟨id, found, head?_rank catalog.distinct found ?_⟩
  rwa [Ne, ← Text.lowerCase_eq_empty, same, ← alike, Text.lowerCase_eq_empty]

theorem require_eq_suggestion {best : String} (unregistered : query ∉ catalog.ids)
    (first : (catalog.findSimilar query).head? = some best) :
    catalog.require query = .error
      ((Diagnostic.unknownSetting query).withSuggestion ("Did you mean '" ++ best ++ "'?")) := by
  obtain ⟨rest, listed⟩ := List.head?_eq_some_iff.mp first
  rw [require_eq_error]
  refine ⟨get?_eq_none.mpr unregistered, ?_⟩
  simp only [unknown, listed]

theorem suggested (catalog : Catalog) (query : String) : Suggests catalog query where
  once := nodup_rank catalog.distinct query
  listed id := by rw [findSimilar, mem_rank, score_pos_iff]
  ranked := by
    -- A suggestion has a score, and that is its likeness.
    apply (pairwise_rank catalog.distinct query).imp_of_mem
    intro first second first_mem second_mem order
    rwa [score_of_pos (mem_rank.mp first_mem).2, score_of_pos (mem_rank.mp second_mem).2] at order
  empty nothing := by
    apply List.eq_nil_iff_forall_not_mem.mpr
    intro id member
    exact (score_pos_iff.mp (mem_rank.mp member).2).1 nothing
  exact other member nonempty alike := exists_head?_findSimilar member nonempty alike
  required unregistered other member alike := by
    have nonempty : other ≠ "" := by
      rintro rfl
      have blank : query = "" := by
        rw [← Text.lowerCase_eq_empty, ← alike, Text.lowerCase_eq_empty]
      exact unregistered (blank ▸ member)
    obtain ⟨id, found, first⟩ := exists_head?_findSimilar member nonempty alike
    exact ⟨id, found, require_eq_suggestion unregistered first⟩

end Catalog

end PlotMarkup
