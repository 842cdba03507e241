import PlotMarkup.Proofs.Text.Lines

namespace PlotMarkup.Text

def marker : List Char := ['&', 'n', 'b', 's', 'p', ';']

/-- A text of markers and no-break spaces. -/
inductive Joint : List Char → Prop where
  | nil : Joint []
  | space {cs : List Char} (others : Joint cs) : Joint (noBreakSpace :: cs)
  | mark {cs : List Char} (others : Joint cs) : Joint (marker ++ cs)

/-- The text is the word with joints before its characters. -/
inductive Spread : List Char → List Char → Prop where
  | nil : Spread [] []
  | cons (c : Char) {word text joint : List Char} (before : Joint joint)
      (others : Spread word text) : Spread (c :: word) (joint ++ c :: text)

/-- A marker in the text has joints between its characters. -/
def Interrupted (cs : List Char) : Prop :=
  ∃ before text after, cs = before ++ '&' :: text ++ after ∧
    Spread ['n', 'b', 's', 'p', ';'] text ∧ text ≠ ['n', 'b', 's', 'p', ';']

def bare (cs : List Char) : List Char :=
  (dropMarkers cs).filter (· != noBreakSpace)

theorem tidyChars_eq (cs : List Char) : tidyChars cs = trimLines (bare cs) := rfl

variable {cs kept : List Char}

theorem dropMarkers_marker (cs : List Char) : dropMarkers (marker ++ cs) = dropMarkers cs := rfl

theorem dropMarkers_cons {c : Char} (unmarked : ¬marker <+: c :: cs) :
    dropMarkers (c :: cs) = c :: dropMarkers cs := by
  rw [dropMarkers]
  rintro rest rfl rfl
  exact unmarked (List.prefix_append marker rest)

theorem dropMarkers_of_unmarked (unmarked : ¬marker <:+: cs) : dropMarkers cs = cs := by
  induction cs with
  | nil => rfl
  | cons c cs ih =>
      rw [List.infix_cons_iff, not_or] at unmarked
      rw [dropMarkers_cons unmarked.1, ih unmarked.2]

theorem dropMarkers_sublist (cs : List Char) : (dropMarkers cs).Sublist cs := by
  fun_induction dropMarkers cs with
  | case1 => exact .slnil
  | case2 rest ih => exact ih.trans (List.sublist_append_right marker rest)
  | case3 c rest _ ih => exact ih.cons_cons c

theorem length_dropMarkers_lt (marked : marker <:+: cs) : (dropMarkers cs).length < cs.length := by
  induction cs with
  | nil => exact absurd (List.infix_nil.mp marked) (by decide)
  | cons c cs ih =>
      by_cases first : marker <+: c :: cs
      · obtain ⟨rest, whole⟩ := first
        rw [← whole, dropMarkers_marker, List.length_append]
        exact Nat.lt_of_le_of_lt (dropMarkers_sublist rest).length_le
          (Nat.lt_add_of_pos_left (by decide))
      · rw [dropMarkers_cons first]
        exact Nat.succ_lt_succ (ih ((List.infix_cons_iff.mp marked).resolve_left first))

theorem dropMarkers_append {c : Char} (outer : c ∉ ['n', 'b', 's', 'p', ';'])
    (before rest : List Char) :
    dropMarkers (before ++ c :: rest) = dropMarkers before ++ dropMarkers (c :: rest) := by
  fun_induction dropMarkers before with
  | case1 => rfl
  | case2 before ih => exact ih
  | case3 d before unmarked ih =>
      rw [List.cons_append, dropMarkers_cons, ih, List.cons_append]
      rw [marker, List.cons_prefix_cons, prefix_append_cons outer]
      rintro ⟨rfl, later, rfl⟩
      exact unmarked later rfl rfl

theorem not_mem_bare (cs : List Char) : noBreakSpace ∉ bare cs := by
  simp [bare]

theorem bare_cons {c : Char} (other : c ≠ noBreakSpace) (unmarked : ¬marker <+: c :: cs) :
    bare (c :: cs) = c :: bare cs := by
  rw [bare, dropMarkers_cons unmarked, List.filter_cons_of_pos (by simpa using other)]
  rfl

theorem bare_append {c : Char} (outer : c ∉ ['n', 'b', 's', 'p', ';'])
    (before rest : List Char) : bare (before ++ c :: rest) = bare before ++ bare (c :: rest) := by
  rw [bare, dropMarkers_append outer, List.filter_append]
  rfl

theorem Joint.bare_append {joint : List Char} (only : Joint joint) (rest : List Char) :
    bare (joint ++ rest) = bare rest := by
  induction only with
  | nil => rfl
  | @space joint others ih =>
      have unmarked : ¬marker <+: noBreakSpace :: (joint ++ rest) := fun first =>
        absurd (List.cons_prefix_cons.mp first).1 (by decide)
      rw [← ih, List.cons_append, bare, dropMarkers_cons unmarked]
      rfl
  | mark others ih => exact ih

section

variable {word text : List Char} (inner : ∀ c ∈ word, c ≠ '&' ∧ c ≠ noBreakSpace)
include inner

theorem Spread.bare_append (spread : Spread word text) (after : List Char) :
    bare (text ++ after) = word ++ bare after := by
  induction spread with
  | nil => rfl
  | cons c before others ih =>
      obtain ⟨⟨other, solid⟩, inner⟩ := List.forall_mem_cons.mp inner
      rw [List.append_assoc, before.bare_append, List.cons_append, bare_cons solid, ih inner,
        List.cons_append]
      rw [marker, List.cons_prefix_cons]
      exact fun first => other first.1.symm

theorem Spread.eq_of_prefix (spread : Spread word text) {after : List Char}
    (first : word <+: text ++ after) : text = word := by
  induction spread with
  | nil => rfl
  | cons c before others ih =>
      obtain ⟨⟨other, solid⟩, inner⟩ := List.forall_mem_cons.mp inner
      cases before with
      | nil => exact congrArg (c :: ·) (ih inner (List.cons_prefix_cons.mp first).2)
      | space => exact absurd (List.cons_prefix_cons.mp first).1 solid
      | mark => exact absurd (List.cons_prefix_cons.mp first).1 other

end

inductive Bared : List Char → List Char → Prop where
  | nil : Bared [] []
  | keep {c : Char} {cs kept : List Char} (unmarked : ¬marker <+: c :: cs)
      (others : Bared cs kept) : Bared (c :: cs) (c :: kept)
  | space {cs kept : List Char} (others : Bared cs kept) : Bared (noBreakSpace :: cs) kept
  | mark {cs kept : List Char} (others : Bared cs kept) : Bared (marker ++ cs) kept

theorem bared_bare (cs : List Char) : Bared cs (bare cs) := by
  unfold bare
  fun_induction dropMarkers cs with
  | case1 => exact .nil
  | case2 rest ih => exact .mark ih
  | case3 c rest unmarked ih =>
      rw [List.filter_cons]
      split
      · refine .keep ?_ ih
        rintro ⟨later, whole⟩
        cases whole
        exact unmarked later rfl rfl
      · rename_i same
        obtain rfl : c = noBreakSpace := by simpa using same
        exact .space ih

namespace Bared

theorem exists_cons {c : Char} (bared : Bared cs (c :: kept)) :
    ∃ joint rest, cs = joint ++ c :: rest ∧ Joint joint ∧ ¬marker <+: c :: rest ∧
      Bared rest kept := by
  generalize target : c :: kept = whole at bared
  induction bared with
  | nil => cases target
  | keep unmarked others =>
      cases target
      exact ⟨[], _, rfl, .nil, unmarked, others⟩
  | space others ih =>
      obtain ⟨joint, rest, rfl, only, left⟩ := ih target
      exact ⟨_, rest, rfl, .space only, left⟩
  | mark others ih =>
      obtain ⟨joint, rest, rfl, only, left⟩ := ih target
      exact ⟨_, rest, (List.append_assoc _ _ _).symm, .mark only, left⟩

theorem exists_rest {front : List Char} (bared : Bared cs (front ++ kept)) :
    ∃ before rest, cs = before ++ rest ∧ Bared rest kept := by
  induction front generalizing cs with
  | nil => exact ⟨[], cs, rfl, bared⟩
  | cons c front ih =>
      obtain ⟨joint, _, rfl, -, -, others⟩ := bared.exists_cons
      obtain ⟨before, rest, rfl, left⟩ := ih others
      exact ⟨joint ++ c :: before, rest, by simp, left⟩

theorem exists_spread {word : List Char} (bared : Bared cs (word ++ kept)) :
    ∃ text after, cs = text ++ after ∧ Spread word text := by
  induction word generalizing cs with
  | nil => exact ⟨[], cs, rfl, .nil⟩
  | cons c word ih =>
      obtain ⟨joint, _, rfl, only, -, others⟩ := bared.exists_cons
      obtain ⟨text, after, rfl, spread⟩ := ih others
      exact ⟨joint ++ c :: text, after, by simp, .cons c only spread⟩

end Bared

theorem infix_bare_iff (cs : List Char) : marker <:+: bare cs ↔ Interrupted cs := by
  constructor
  · rintro ⟨front, back, whole⟩
    have bared : Bared cs (front ++ '&' :: (['n', 'b', 's', 'p', ';'] ++ back)) := by
      have same : front ++ '&' :: (['n', 'b', 's', 'p', ';'] ++ back) = bare cs := by
        rw [← whole, List.append_assoc]
        rfl
      exact same ▸ bared_bare cs
    obtain ⟨before, _, rfl, marked⟩ := bared.exists_rest
    obtain ⟨joint, _, rfl, -, unmarked, others⟩ := marked.exists_cons
    obtain ⟨text, after, rfl, spread⟩ := others.exists_spread
    refine ⟨before ++ joint, text, after, by simp, spread, ?_⟩
    rintro rfl
    exact unmarked ⟨after, rfl⟩
  · rintro ⟨before, text, after, rfl, spread, interrupted⟩
    have inner : ∀ c ∈ ['n', 'b', 's', 'p', ';'], c ≠ '&' ∧ c ≠ noBreakSpace := by
      simp [noBreakSpace]
    have unmarked : ¬marker <+: '&' :: (text ++ after) := fun first =>
      interrupted (spread.eq_of_prefix inner (List.cons_prefix_cons.mp first).2)
    have whole : before ++ '&' :: text ++ after = before ++ '&' :: (text ++ after) := by simp
    refine ⟨bare before, bare after, ?_⟩
    rw [whole, bare_append (by decide), bare_cons (by decide) unmarked, spread.bare_append inner,
      List.append_assoc]
    rfl

theorem infix_tidyChars_iff (cs : List Char) : marker <:+: tidyChars cs ↔ Interrupted cs := by
  have solid : ∀ c ∈ marker, isBlank c = false := by
    have all : marker.all (!isBlank ·) = true := by decide
    simpa using all
  rw [tidyChars_eq, infix_trimLines (by decide) solid, infix_bare_iff]

theorem not_mem_tidyChars (cs : List Char) : noBreakSpace ∉ tidyChars cs := fun member =>
  not_mem_bare cs ((Thinned.trimLines (bare cs)).sublist.subset member)

theorem tidyChars_tidyChars (cs : List Char) :
    tidyChars (tidyChars cs) = tidyChars cs ↔ ¬Interrupted cs := by
  rw [← infix_tidyChars_iff]
  constructor
  · intro stable marked
    have shorter := length_dropMarkers_lt marked
    have thinned := (thinned_tidyChars (tidyChars cs)).sublist.length_le
    rw [stable] at thinned
    omega
  · intro unmarked
    have same : bare (tidyChars cs) = tidyChars cs := by
      rw [bare, dropMarkers_of_unmarked unmarked, List.filter_eq_self]
      intro c member
      simpa using fun space : c = noBreakSpace => not_mem_tidyChars cs (space ▸ member)
    rw [tidyChars_eq (tidyChars cs), same, tidyChars_eq, trimLines_trimLines]

/-- A tidy text has no no-break space.  It has a marker, and is not tidy yet, exactly if a marker
was interrupted by markers or no-break spaces. -/
theorem tidy_normal (text : String) :
    noBreakSpace ∉ (tidy text).toList ∧
      (marker <:+: (tidy text).toList ↔ Interrupted text.toList) ∧
      (tidy (tidy text) = tidy text ↔ ¬Interrupted text.toList) := by
  have chars : (tidy text).toList = tidyChars text.toList := String.toList_ofList
  refine ⟨?_, ?_, ?_⟩
  · rw [chars]
    exact not_mem_tidyChars text.toList
  · rw [chars]
    exact infix_tidyChars_iff text.toList
  · rw [← tidyChars_tidyChars, tidy, chars, tidy, String.ofList_inj]

theorem tidy_marker_in_marker : tidy "&nb&nbsp;sp;" = "&nbsp;" ∧
    tidy (tidy "&nb&nbsp;sp;") ≠ tidy "&nb&nbsp;sp;" := by
  decide

end PlotMarkup.Text
