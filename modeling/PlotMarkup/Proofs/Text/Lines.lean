import Mathlib.Data.List.DropRight
import PlotMarkup.Proofs.Text.Tidy

namespace PlotMarkup.Text

def trimLines (cs : List Char) : List Char :=
  joinLines (((lines cs).map trimBlank).filter (!·.isEmpty))

theorem trimBlank_eq_rdropWhile (cs : List Char) :
    trimBlank cs = (cs.dropWhile isBlank).rdropWhile isBlank := rfl

structure Framed (cs : List Char) : Prop where
  nonempty : cs ≠ []
  first : ∀ c ∈ cs.head?, isBlank c = false
  last : ∀ c ∈ cs.getLast?, isBlank c = false

/-- The second text is the first one without the white space around it. -/
inductive Trimmed : List Char → List Char → Prop where
  | blank {cs : List Char} (all : ∀ c ∈ cs, isBlank c = true) : Trimmed cs []
  | framed {lead kept trail : List Char} (before : ∀ c ∈ lead, isBlank c = true)
      (framed : Framed kept) (after : ∀ c ∈ trail, isBlank c = true) :
      Trimmed (lead ++ kept ++ trail) kept

theorem dropWhile_append_of_solid {lead kept : List Char}
    (before : ∀ c ∈ lead, isBlank c = true) (first : ∀ c ∈ kept.head?, isBlank c = false) :
    (lead ++ kept).dropWhile isBlank = kept := by
  rw [List.dropWhile_append_of_pos before]
  cases kept with
  | nil => rfl
  | cons c kept => exact List.dropWhile_cons_of_neg (by simp [first c rfl])

theorem Trimmed.eq {cs kept : List Char} (trimmed : Trimmed cs kept) : trimBlank cs = kept := by
  cases trimmed with
  | blank all =>
      rw [trimBlank, List.dropWhile_eq_nil_iff.mpr all]
      rfl
  | @framed lead _ trail before framed after =>
      have front : ∀ c ∈ (kept ++ trail).head?, isBlank c = false := by
        rw [List.head?_append_of_ne_nil _ framed.nonempty]
        exact framed.first
      rw [trimBlank, List.append_assoc, dropWhile_append_of_solid before front,
        List.reverse_append, dropWhile_append_of_solid, List.reverse_reverse]
      · simpa using after
      · rw [List.head?_reverse]
        exact framed.last

theorem trimmed_trimBlank (cs : List Char) : Trimmed cs (trimBlank cs) := by
  have whole : cs = cs.takeWhile isBlank ++ trimBlank cs ++
      (cs.dropWhile isBlank).rtakeWhile isBlank := by
    rw [trimBlank_eq_rdropWhile, List.append_assoc, List.rdropWhile_append_rtakeWhile,
      List.takeWhile_append_dropWhile]
  have before : ∀ c ∈ cs.takeWhile isBlank, isBlank c = true := fun _ => List.mem_takeWhile_imp
  have after : ∀ c ∈ (cs.dropWhile isBlank).rtakeWhile isBlank, isBlank c = true :=
    fun _ => List.mem_rtakeWhile_imp
  by_cases empty : trimBlank cs = []
  · rw [empty, List.append_nil] at whole
    rw [empty]
    refine .blank fun c member => ?_
    rw [whole] at member
    exact (List.mem_append.mp member).elim (before c) (after c)
  · rw [whole]
    nth_rewrite 2 [← whole]
    refine .framed before ⟨empty, fun c first => ?_, fun c last => ?_⟩ after
    · obtain ⟨blanks, same⟩ : trimBlank cs <+: cs.dropWhile isBlank := List.rdropWhile_prefix _ _
      have solid := List.head?_dropWhile_not isBlank cs
      rw [← same, List.head?_append_of_ne_nil _ empty, Option.mem_def.mp first] at solid
      exact solid
    · have solid := List.rdropWhile_last_not isBlank (cs.dropWhile isBlank) empty
      rw [Option.mem_def, List.getLast?_eq_some_getLast empty, Option.some_inj] at last
      rw [← last]
      exact Bool.eq_false_iff.mpr solid

theorem Trimmed.filled {cs kept : List Char} (trimmed : Trimmed cs kept) (filled : kept ≠ []) :
    Framed kept := by
  cases trimmed with
  | blank all => exact absurd rfl filled
  | framed before framed after => exact framed

theorem Framed.trimmed {cs : List Char} (framed : Framed cs) : Trimmed cs cs := by
  have whole := Trimmed.framed (List.forall_mem_nil _) framed (List.forall_mem_nil _)
  rwa [List.nil_append, List.append_nil] at whole

theorem trimmed_of_solid {cs : List Char} (solid : ∀ c ∈ cs, isBlank c = false) :
    Trimmed cs cs := by
  by_cases empty : cs = []
  · rw [empty]
    exact .blank (List.forall_mem_nil _)
  · exact Framed.trimmed ⟨empty, fun c first => solid c (List.mem_of_mem_head? first),
      fun c last => solid c (List.mem_of_mem_getLast? last)⟩

theorem trimBlank_trimBlank (cs : List Char) : trimBlank (trimBlank cs) = trimBlank cs := by
  by_cases empty : trimBlank cs = []
  · rw [empty]
    rfl
  · exact ((trimmed_trimBlank cs).filled empty).trimmed.eq

theorem mem_of_mem_trimBlank {cs : List Char} {c : Char} (member : c ∈ trimBlank cs) : c ∈ cs :=
  (List.dropWhile_sublist _).subset ((List.rdropWhile_prefix _ _).subset member)

theorem lines_of_not_mem {line : List Char} (whole : '\n' ∉ line) : lines line = [line] := by
  induction line with
  | nil => rfl
  | cons c line ih =>
      obtain ⟨other, whole⟩ := List.ne_and_not_mem_of_not_mem_cons whole
      rw [lines, if_neg other.symm, ih whole]

theorem lines_append {line : List Char} (whole : '\n' ∉ line) (rest : List Char) :
    lines (line ++ '\n' :: rest) = line :: lines rest := by
  induction line with
  | nil => rfl
  | cons c line ih =>
      obtain ⟨other, whole⟩ := List.ne_and_not_mem_of_not_mem_cons whole
      rw [List.cons_append, lines, if_neg other.symm, ih whole]

theorem lines_joinLines {texts : List (List Char)} (nonempty : texts ≠ [])
    (whole : ∀ line ∈ texts, '\n' ∉ line) : lines (joinLines texts) = texts := by
  induction texts with
  | nil => contradiction
  | cons line others ih =>
      obtain ⟨first, rest⟩ := List.forall_mem_cons.mp whole
      by_cases more : others = []
      · subst more
        exact lines_of_not_mem first
      · rw [joinLines_cons more, lines_append first, ih more rest]

theorem not_mem_of_mem_lines {cs line : List Char} (member : line ∈ lines cs) : '\n' ∉ line := by
  induction cs generalizing line with
  | nil =>
      obtain rfl := List.mem_singleton.mp member
      exact List.not_mem_nil
  | cons c cs ih =>
      rw [lines] at member
      split at member
      · rcases List.mem_cons.mp member with rfl | member
        · exact List.not_mem_nil
        · exact ih member
      · rename_i other
        split at member
        · rename_i none
          exact absurd none (lines_ne_nil cs)
        · rename_i first others split
          rw [split] at ih
          rcases List.mem_cons.mp member with rfl | member
          · exact List.not_mem_cons_of_ne_of_not_mem (Ne.symm other) (ih List.mem_cons_self)
          · exact ih (List.mem_cons_of_mem _ member)

theorem trimLines_joinLines {texts : List (List Char)}
    (trimmed : ∀ line ∈ texts, '\n' ∉ line ∧ trimBlank line = line ∧ line ≠ []) :
    trimLines (joinLines texts) = joinLines texts := by
  by_cases none : texts = []
  · subst none
    rfl
  · have same : texts.map trimBlank = texts := by
      conv_rhs => rw [← List.map_id texts]
      exact List.map_congr_left fun line member => (trimmed line member).2.1
    rw [trimLines, lines_joinLines none fun line member => (trimmed line member).1, same,
      List.filter_eq_self.mpr]
    intro line member
    simpa using (trimmed line member).2.2

theorem trimLines_trimLines (cs : List Char) : trimLines (trimLines cs) = trimLines cs := by
  refine trimLines_joinLines fun line member => ?_
  obtain ⟨trimmed, filled⟩ := List.mem_filter.mp member
  obtain ⟨original, found, rfl⟩ := List.mem_map.mp trimmed
  refine ⟨fun inside => ?_, trimBlank_trimBlank original, by simpa using filled⟩
  exact not_mem_of_mem_lines found (mem_of_mem_trimBlank inside)

theorem Thinned.trimLines (cs : List Char) : Thinned cs (trimLines cs) := by
  have trimmed := thinned_joinLines_map (lines cs)
  rw [joinLines_lines] at trimmed
  exact trimmed.trans (thinned_joinLines_filter _)

theorem Thinned.sublist {cs kept : List Char} (thinned : Thinned cs kept) : kept.Sublist cs := by
  induction thinned with
  | nil => exact .slnil
  | keep c others ih => exact ih.cons_cons c
  | drop blank others ih => exact ih.cons _

theorem prefix_append_cons {word : List Char} {c : Char} (free : c ∉ word) (line rest : List Char) :
    word <+: line ++ c :: rest ↔ word <+: line := by
  induction line generalizing word with
  | nil =>
      cases word with
      | nil => simp
      | cons d word =>
          have other : d ≠ c := (List.ne_and_not_mem_of_not_mem_cons free).1.symm
          simp [List.cons_prefix_cons, other]
  | cons a line ih =>
      cases word with
      | nil => simp
      | cons d word =>
          have free := (List.ne_and_not_mem_of_not_mem_cons free).2
          rw [List.cons_append, List.cons_prefix_cons, List.cons_prefix_cons, ih free]

section

variable {word : List Char} (nonempty : word ≠ [])
include nonempty

theorem infix_append_cons {c : Char} (free : c ∉ word) (line rest : List Char) :
    word <:+: line ++ c :: rest ↔ word <:+: line ∨ word <:+: rest := by
  induction line with
  | nil =>
      have apart : ¬word <+: c :: rest := fun first =>
        nonempty (List.prefix_nil.mp ((prefix_append_cons free [] rest).mp first))
      rw [List.nil_append, List.infix_cons_iff, or_iff_right apart, List.infix_nil,
        or_iff_right nonempty]
  | cons a line ih =>
      rw [List.cons_append, List.infix_cons_iff, ih, ← List.cons_append, prefix_append_cons free,
        List.infix_cons_iff, or_assoc]

theorem infix_joinLines (whole : '\n' ∉ word) (texts : List (List Char)) :
    word <:+: joinLines texts ↔ ∃ line ∈ texts, word <:+: line := by
  induction texts with
  | nil => simpa [joinLines] using nonempty
  | cons line others ih =>
      by_cases more : others = []
      · subst more
        simp [joinLines]
      · rw [joinLines_cons more, infix_append_cons nonempty whole, ih, List.exists_mem_cons_iff]

variable (solid : ∀ c ∈ word, isBlank c = false)
include solid

theorem infix_dropWhile (cs : List Char) : word <:+: cs.dropWhile isBlank ↔ word <:+: cs := by
  induction cs with
  | nil => rfl
  | cons c cs ih =>
      rw [List.dropWhile_cons]
      split
      · rename_i blank
        have free : c ∉ word := fun member => by simp [solid c member] at blank
        rw [ih, ← List.nil_append (c :: cs), infix_append_cons nonempty free, List.infix_nil,
          or_iff_right nonempty]
      · rfl

theorem infix_trimBlank (cs : List Char) : word <:+: trimBlank cs ↔ word <:+: cs := by
  have reversed := infix_dropWhile (mt List.reverse_eq_nil_iff.mp nonempty)
    (fun c member => solid c (List.mem_reverse.mp member)) (cs.dropWhile isBlank).reverse
  rw [trimBlank, ← List.reverse_infix, List.reverse_reverse, reversed, List.reverse_infix,
    infix_dropWhile nonempty solid]

theorem infix_trimLines (cs : List Char) : word <:+: trimLines cs ↔ word <:+: cs := by
  have whole : '\n' ∉ word := fun member => absurd (solid _ member) (by decide)
  rw [trimLines, infix_joinLines nonempty whole]
  conv_rhs => rw [← joinLines_lines cs, infix_joinLines nonempty whole]
  constructor
  · rintro ⟨_, kept, inside⟩
    obtain ⟨line, member, rfl⟩ := List.mem_map.mp (List.mem_of_mem_filter kept)
    exact ⟨line, member, (infix_trimBlank nonempty solid line).mp inside⟩
  · rintro ⟨line, member, inside⟩
    rw [← infix_trimBlank nonempty solid] at inside
    have filled : trimBlank line ≠ [] := fun none =>
      nonempty (List.infix_nil.mp (by rwa [none] at inside))
    exact ⟨_, List.mem_filter.mpr ⟨List.mem_map_of_mem member, by simpa using filled⟩, inside⟩

end

end PlotMarkup.Text
