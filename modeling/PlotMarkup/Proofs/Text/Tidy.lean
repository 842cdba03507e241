import Mathlib.Data.List.TakeWhile
import PlotMarkup.Text.Tidy

namespace PlotMarkup.Text

/-- The second text is the first one without some of its white space. -/
inductive Thinned : List Char → List Char → Prop where
  | nil : Thinned [] []
  | keep (c : Char) {cs kept : List Char} (others : Thinned cs kept) : Thinned (c :: cs) (c :: kept)
  | drop {c : Char} {cs kept : List Char} (blank : isBlank c = true) (others : Thinned cs kept) :
      Thinned (c :: cs) kept

namespace Thinned

variable {cs kept : List Char}

theorem refl (cs : List Char) : Thinned cs cs := by
  induction cs with
  | nil => exact .nil
  | cons c cs ih => exact .keep c ih

theorem trans {further : List Char} (first : Thinned cs kept) (second : Thinned kept further) :
    Thinned cs further := by
  induction first generalizing further with
  | nil => exact second
  | keep c others ih =>
      cases second with
      | keep _ others' => exact .keep c (ih others')
      | drop blank others' => exact .drop blank (ih others')
  | drop blank others ih => exact .drop blank (ih second)

theorem append {cs' kept' : List Char} (front : Thinned cs kept) (back : Thinned cs' kept') :
    Thinned (cs ++ cs') (kept ++ kept') := by
  induction front with
  | nil => exact back
  | keep c others ih => exact .keep c ih
  | drop blank others ih => exact .drop blank ih

theorem reverse (thinned : Thinned cs kept) : Thinned cs.reverse kept.reverse := by
  induction thinned with
  | nil => exact .nil
  | keep c others ih =>
      rw [List.reverse_cons, List.reverse_cons]
      exact ih.append (refl [c])
  | @drop c cs kept blank others ih =>
      rw [List.reverse_cons, ← List.append_nil kept.reverse]
      exact ih.append (.drop blank .nil)

theorem of_append {front : List Char} (solid : ∀ c ∈ front, isBlank c = false)
    (thinned : Thinned (front ++ cs) kept) : ∃ kept', kept = front ++ kept' ∧ Thinned cs kept' := by
  induction front generalizing kept with
  | nil => exact ⟨kept, rfl, thinned⟩
  | cons c front ih =>
      obtain ⟨first, others⟩ := List.forall_mem_cons.mp solid
      cases thinned with
      | keep _ thinned =>
          obtain ⟨kept', same, rest⟩ := ih others thinned
          exact ⟨kept', congrArg (c :: ·) same, rest⟩
      | drop blank _ => simp [first] at blank

theorem filter_ne {c : Char} (blank : isBlank c = true) (cs : List Char) :
    Thinned cs (cs.filter (· != c)) := by
  induction cs with
  | nil => exact .nil
  | cons c' cs ih =>
      rw [List.filter_cons]
      split
      · exact .keep c' ih
      · rename_i same
        obtain rfl : c' = c := by simpa using same
        exact .drop blank ih

theorem dropWhile_isBlank (cs : List Char) : Thinned cs (cs.dropWhile isBlank) := by
  induction cs with
  | nil => exact .nil
  | cons c cs ih =>
      rw [List.dropWhile_cons]
      split
      · rename_i blank
        exact .drop blank ih
      · exact refl _

theorem trimBlank (cs : List Char) : Thinned cs (trimBlank cs) := by
  have back := (dropWhile_isBlank (cs.dropWhile isBlank).reverse).reverse
  rw [List.reverse_reverse] at back
  exact (dropWhile_isBlank cs).trans back

end Thinned

theorem joinLines_cons {line : List Char} {others : List (List Char)} (more : others ≠ []) :
    joinLines (line :: others) = line ++ '\n' :: joinLines others := by
  cases others with
  | nil => exact absurd rfl more
  | cons next others => rfl

theorem lines_ne_nil (cs : List Char) : lines cs ≠ [] := by
  cases cs with
  | nil => exact List.cons_ne_nil _ _
  | cons c cs =>
      rw [lines]
      split
      · exact List.cons_ne_nil _ _
      · split <;> exact List.cons_ne_nil _ _

theorem joinLines_lines (cs : List Char) : joinLines (lines cs) = cs := by
  induction cs with
  | nil => rfl
  | cons c cs ih =>
      rw [lines]
      split
      · rename_i lineBreak
        rw [joinLines_cons (lines_ne_nil cs), ih, lineBreak]
        rfl
      · cases split : lines cs with
        | nil => exact absurd split (lines_ne_nil cs)
        | cons line others =>
            rw [split] at ih
            cases others with
            | nil => exact congrArg (c :: ·) ih
            | cons next others => exact congrArg (c :: ·) ih

theorem thinned_joinLines_map (texts : List (List Char)) :
    Thinned (joinLines texts) (joinLines (texts.map trimBlank)) := by
  induction texts with
  | nil => exact .nil
  | cons line others ih =>
      rw [List.map_cons]
      by_cases more : others = []
      · subst more
        exact .trimBlank line
      · have moreTrimmed : others.map trimBlank ≠ [] := by simpa using more
        rw [joinLines_cons more, joinLines_cons moreTrimmed]
        exact (Thinned.trimBlank line).append (.keep '\n' ih)

theorem thinned_joinLines_filter (texts : List (List Char)) :
    Thinned (joinLines texts) (joinLines (texts.filter (!·.isEmpty))) := by
  have lineBreak : isBlank '\n' = true := by decide
  induction texts with
  | nil => exact .nil
  | cons line others ih =>
      by_cases more : others = []
      · subst more
        cases line with
        | nil => exact .nil
        | cons c line => exact .refl _
      · rw [joinLines_cons more]
        cases line with
        | nil => exact .drop lineBreak ih
        | cons c line =>
            show Thinned _ (joinLines ((c :: line) :: others.filter (!·.isEmpty)))
            by_cases left : others.filter (!·.isEmpty) = []
            · rw [left] at ih ⊢
              have shortened := (Thinned.refl (c :: line)).append (.drop lineBreak ih)
              rwa [joinLines, List.append_nil] at shortened
            · rw [joinLines_cons left]
              exact (Thinned.refl _).append (.keep '\n' ih)

theorem dropMarkers_of_not_mem {cs : List Char} (unmarked : '&' ∉ cs) : dropMarkers cs = cs := by
  induction cs with
  | nil => rfl
  | cons c cs ih =>
      obtain ⟨other, rest⟩ := List.ne_and_not_mem_of_not_mem_cons unmarked
      rw [dropMarkers, ih rest]
      rintro tail rfl
      exact absurd rfl other

theorem thinned_tidyChars (cs : List Char) : Thinned (dropMarkers cs) (tidyChars cs) := by
  have spaces := Thinned.filter_ne (c := noBreakSpace) (by decide) (dropMarkers cs)
  have trimmed := thinned_joinLines_map (lines ((dropMarkers cs).filter (· != noBreakSpace)))
  rw [joinLines_lines] at trimmed
  exact (spaces.trans trimmed).trans (thinned_joinLines_filter _)

end PlotMarkup.Text
