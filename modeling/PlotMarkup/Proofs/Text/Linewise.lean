import Mathlib.Data.List.Forall2
import PlotMarkup.Proofs.Text.Markers

/-!
# Tidying line by line

Neither a marker nor a no-break space lies across a line break, so that a text is tidied by tidying
its lines one by one (`lines_bare`, `filledLines_append`).  Apart from markers it loses nothing but
white space: that around its lines, and the no-break spaces (`tidy_linewise`).
-/

namespace PlotMarkup.Text

variable {cs : List Char} {pieces texts : List (List Char)}

/-! ## The pieces between markers -/

/-- The text is the pieces with one marker between any two, and there is no other marker. -/
structure Pieces (cs : List Char) (pieces : List (List Char)) : Prop where
  whole : cs = marker.intercalate pieces
  nonempty : pieces ≠ []
  unmarked : ∀ piece ∈ pieces, ¬marker <:+: piece

theorem exists_pieces (cs : List Char) : ∃ pieces, Pieces cs pieces := by
  fun_induction dropMarkers cs with
  | case1 => exact ⟨[[]], by simp, by simp, by simp [marker]⟩
  | case2 rest ih =>
      obtain ⟨pieces, rfl, nonempty, unmarked⟩ := ih
      refine ⟨[] :: pieces, ?_, by simp, List.forall_mem_cons.mpr ⟨by simp [marker], unmarked⟩⟩
      rw [List.intercalate_cons_of_ne_nil nonempty]
      rfl
  | case3 c rest first ih =>
      obtain ⟨pieces, whole, nonempty, unmarked⟩ := ih
      obtain ⟨piece, others, rfl⟩ := List.exists_cons_of_ne_nil nonempty
      obtain ⟨alone, unmarked⟩ := List.forall_mem_cons.mp unmarked
      have front : piece <+: rest := by
        rw [whole]
        cases others with
        | nil => simp
        | cons next others => simp [List.intercalate_cons_cons]
      have extended : ¬marker <:+: c :: piece := by
        rw [List.infix_cons_iff, not_or]
        refine ⟨fun marked => ?_, alone⟩
        obtain ⟨later, same⟩ := marked.trans (List.cons_prefix_cons.mpr ⟨rfl, front⟩)
        cases same
        exact first later rfl rfl
      refine ⟨(c :: piece) :: others, ?_, by simp, List.forall_mem_cons.mpr ⟨extended, unmarked⟩⟩
      rw [whole]
      cases others with
      | nil => simp
      | cons next others => simp [List.intercalate_cons_cons]

theorem Pieces.dropMarkers_eq (split : Pieces cs pieces) : dropMarkers cs = pieces.flatten := by
  obtain ⟨rfl, nonempty, unmarked⟩ := split
  induction pieces with
  | nil => contradiction
  | cons piece others ih =>
      obtain ⟨alone, unmarked⟩ := List.forall_mem_cons.mp unmarked
      cases others with
      | nil => simpa using dropMarkers_of_unmarked alone
      | cons next others =>
          rw [List.intercalate_cons_cons, List.append_assoc, marker, List.cons_append,
            dropMarkers_append (by decide), dropMarkers_of_unmarked alone, List.flatten_cons,
            ← ih (by simp) unmarked]
          rfl

/-! ## Lines of bare texts -/

theorem bare_sublist (cs : List Char) : (bare cs).Sublist cs :=
  List.filter_sublist.trans (dropMarkers_sublist cs)

theorem bare_lineBreak (cs rest : List Char) :
    bare (cs ++ '\n' :: rest) = bare cs ++ '\n' :: bare rest := by
  rw [bare_append (by decide), bare_cons (by decide)]
  exact fun first => absurd (List.cons_prefix_cons.mp first).1 (by decide)

theorem lines_lineBreak (cs rest : List Char) :
    lines (cs ++ '\n' :: rest) = lines cs ++ lines rest := by
  induction cs with
  | nil => rfl
  | cons c cs ih =>
      rw [List.cons_append, lines, lines]
      split
      · rw [ih, List.cons_append]
      · obtain ⟨line, others, split⟩ := List.exists_cons_of_ne_nil (lines_ne_nil cs)
        simp only [ih, split, List.cons_append]

theorem lines_bare_joinLines (nonempty : texts ≠ []) (whole : ∀ line ∈ texts, '\n' ∉ line) :
    lines (bare (joinLines texts)) = texts.map bare := by
  induction texts with
  | nil => contradiction
  | cons line others ih =>
      obtain ⟨alone, whole⟩ := List.forall_mem_cons.mp whole
      have alone : '\n' ∉ bare line := fun member => alone ((bare_sublist line).subset member)
      by_cases more : others = []
      · subst more
        exact lines_of_not_mem alone
      · rw [joinLines_cons more, bare_lineBreak, lines_append alone, ih more whole, List.map_cons]

theorem lines_bare (cs : List Char) : lines (bare cs) = (lines cs).map bare := by
  conv_lhs => rw [← joinLines_lines cs]
  exact lines_bare_joinLines (lines_ne_nil cs) fun _ => not_mem_of_mem_lines

/-! ## The lines that are left -/

def filledLines (cs : List Char) : List (List Char) :=
  ((lines cs).map trimBlank).filter (!·.isEmpty)

theorem trimLines_eq (cs : List Char) : trimLines cs = joinLines (filledLines cs) := rfl

theorem filledLines_lineBreak (cs rest : List Char) :
    filledLines (cs ++ '\n' :: rest) = filledLines cs ++ filledLines rest := by
  rw [filledLines, lines_lineBreak, List.map_append, List.filter_append]
  rfl

theorem framed_of_mem {line : List Char} (member : line ∈ filledLines cs) : Framed line := by
  obtain ⟨trimmed, filled⟩ := List.mem_filter.mp member
  obtain ⟨original, -, rfl⟩ := List.mem_map.mp trimmed
  exact (trimmed_trimBlank original).filled (by simpa using filled)

theorem lines_trimLines (nonempty : trimLines cs ≠ []) :
    lines (trimLines cs) = filledLines cs := by
  refine lines_joinLines (fun none => nonempty (congrArg joinLines none)) fun line member => ?_
  obtain ⟨original, found, rfl⟩ := List.mem_map.mp (List.mem_of_mem_filter member)
  exact fun inside => not_mem_of_mem_lines found (mem_of_mem_trimBlank inside)

theorem joinLines_append (first : pieces ≠ []) (second : texts ≠ []) :
    joinLines (pieces ++ texts) = joinLines pieces ++ '\n' :: joinLines texts := by
  induction pieces with
  | nil => contradiction
  | cons line others ih =>
      rw [List.cons_append, joinLines_cons (by simp [second])]
      by_cases more : others = []
      · subst more
        rfl
      · rw [joinLines_cons more, ih more, List.append_assoc, List.cons_append]

section

variable (filled : ∀ line ∈ texts, line ≠ [])
include filled

theorem joinLines_eq_nil : joinLines texts = [] ↔ texts = [] := by
  cases texts with
  | nil => simp [joinLines]
  | cons line others =>
      have some : line ≠ [] := filled line List.mem_cons_self
      cases others <;> simp [joinLines, some]

theorem head?_joinLines (nonempty : texts ≠ []) :
    ∃ line ∈ texts, (joinLines texts).head? = line.head? := by
  obtain ⟨line, others, rfl⟩ := List.exists_cons_of_ne_nil nonempty
  have some : line ≠ [] := filled line List.mem_cons_self
  refine ⟨line, List.mem_cons_self, ?_⟩
  cases others with
  | nil => rfl
  | cons next others => exact List.head?_append_of_ne_nil _ some

theorem getLast?_joinLines (nonempty : texts ≠ []) :
    ∃ line ∈ texts, (joinLines texts).getLast? = line.getLast? := by
  induction texts with
  | nil => contradiction
  | cons line others ih =>
      obtain ⟨-, filled⟩ := List.forall_mem_cons.mp filled
      by_cases more : others = []
      · subst more
        exact ⟨line, List.mem_cons_self, rfl⟩
      · obtain ⟨last, member, same⟩ := ih filled more
        have rest : joinLines others ≠ [] := mt (joinLines_eq_nil filled).mp more
        refine ⟨last, List.mem_cons_of_mem line member, ?_⟩
        rw [joinLines_cons more, List.getLast?_append_of_ne_nil _ (by simp),
          List.getLast?_cons_of_ne_nil rest, same]

end

/-! ## Tidy texts -/

theorem Thinned.filter_eq {kept : List Char} (thinned : Thinned cs kept) :
    kept.filter (!isBlank ·) = cs.filter (!isBlank ·) := by
  induction thinned with
  | nil => rfl
  | keep c others ih => rw [List.filter_cons, List.filter_cons, ih]
  | drop blank others ih => rw [ih, List.filter_cons_of_neg (by simp [blank])]

structure Linewise (source result : List Char) : Prop where
  framed : result ≠ [] → ∀ line ∈ lines result, Framed line
  start : result.head? ≠ some '\n'
  stop : result.getLast? ≠ some '\n'
  solid : ∀ pieces, Pieces source pieces →
    result.filter (!isBlank ·) = pieces.flatten.filter (!isBlank ·)
  inner : ∃ kept, List.Forall₂ (fun line => Trimmed (bare line)) (lines source) kept ∧
    result = joinLines (kept.filter (!·.isEmpty))

theorem ends_joinLines (framed : ∀ line ∈ texts, Framed line) :
    (joinLines texts).head? ≠ some '\n' ∧ (joinLines texts).getLast? ≠ some '\n' := by
  have filled : ∀ line ∈ texts, line ≠ [] := fun line member => (framed line member).nonempty
  by_cases nonempty : texts = []
  · subst nonempty
    decide
  · obtain ⟨first, member, start⟩ := head?_joinLines filled nonempty
    obtain ⟨last, member', stop⟩ := getLast?_joinLines filled nonempty
    rw [start, stop]
    exact ⟨fun lineBreak => absurd ((framed first member).first _ lineBreak) (by decide),
      fun lineBreak => absurd ((framed last member').last _ lineBreak) (by decide)⟩

theorem linewise_tidyChars (cs : List Char) : Linewise cs (tidyChars cs) where
  framed nonempty line member := by
    rw [tidyChars_eq] at nonempty member
    rw [lines_trimLines nonempty] at member
    exact framed_of_mem member
  start := (ends_joinLines fun _ => framed_of_mem).1
  stop := (ends_joinLines fun _ => framed_of_mem).2
  solid pieces split := by
    rw [← split.dropMarkers_eq]
    exact (thinned_tidyChars cs).filter_eq
  inner := by
    refine ⟨(lines cs).map fun line => trimBlank (bare line), ?_, ?_⟩
    · rw [List.forall₂_map_right_iff, List.forall₂_same]
      exact fun line _ => trimmed_trimBlank (bare line)
    · rw [tidyChars_eq, trimLines, lines_bare, List.map_map]
      rfl

def stack (above below : String) : String :=
  if above = "" then below else if below = "" then above else above ++ "\n" ++ below

theorem tidy_eq_empty {text : String} : tidy text = "" ↔ filledLines (bare text.toList) = [] := by
  have filled : ∀ line ∈ filledLines (bare text.toList), line ≠ [] :=
    fun line member => (framed_of_mem member).nonempty
  rw [← joinLines_eq_nil filled, ← trimLines_eq, ← tidyChars_eq, tidy, ← String.toList_inj,
    String.toList_ofList]
  rfl

theorem tidy_lineBreak (above below : String) :
    tidy (above ++ "\n" ++ below) = stack (tidy above) (tidy below) := by
  have chars (text : String) :
      (tidy text).toList = joinLines (filledLines (bare text.toList)) := String.toList_ofList
  have whole : (above ++ "\n" ++ below).toList = above.toList ++ '\n' :: below.toList := by simp
  rw [← String.toList_inj, chars, whole, bare_lineBreak, filledLines_lineBreak]
  by_cases first : filledLines (bare above.toList) = []
  · rw [stack, if_pos (tidy_eq_empty.mpr first), chars, first, List.nil_append]
  · rw [stack, if_neg (mt tidy_eq_empty.mp first)]
    by_cases second : filledLines (bare below.toList) = []
    · rw [if_pos (tidy_eq_empty.mpr second), chars, second, List.append_nil]
    · rw [if_neg (mt tidy_eq_empty.mp second), joinLines_append first second, ← chars, ← chars]
      simp

/-- A text is tidied line by line, and each line loses nothing but markers, no-break spaces and the
white space around it. -/
theorem tidy_linewise (text : String) :
    (∀ below, tidy (text ++ "\n" ++ below) = stack (tidy text) (tidy below)) ∧
      (∃ pieces, Pieces text.toList pieces) ∧ Linewise text.toList (tidy text).toList := by
  refine ⟨tidy_lineBreak text, exists_pieces _, ?_⟩
  rw [tidy, String.toList_ofList]
  exact linewise_tidyChars text.toList

example : tidy " x \t= 1\r\n\n&nb\nsp;&nbsp; " = "x \t= 1\n&nb\nsp;" := by decide

end PlotMarkup.Text
