import PlotMarkup.Proofs.Number.Characters
import PlotMarkup.Proofs.Number.ReadBack

namespace PlotMarkup.Number

def NamesNonFinite (text : List Char) : Prop :=
  "inf".toList <:+: text ∨ "NaN".toList <:+: text

def Nameless (text : List Char) : Prop :=
  'f' ∉ text ∧ 'N' ∉ text

instance (text : List Char) : Decidable (Nameless text) :=
  inferInstanceAs (Decidable (_ ∧ _))

variable {x : Float} {text text' front rest : List Char}

theorem Nameless.append (first : Nameless text) (second : Nameless text') :
    Nameless (text ++ text') := by
  simp only [Nameless, List.mem_append, not_or]
  exact ⟨⟨first.1, second.1⟩, ⟨first.2, second.2⟩⟩

theorem Nameless.not_namesNonFinite (nameless : Nameless text) : ¬NamesNonFinite text := by
  rintro (named | named)
  · exact nameless.1 (named.subset (by decide))
  · exact nameless.2 (named.subset (by decide))

theorem toList_markup (finite : x.isFinite = true) : (markup x).toList = finiteText .markup x := by
  rw [markup, Number.text, if_pos finite, String.toList_ofList]

theorem isDecimalChar_of_finiteText (finite : x.isFinite = true) :
    ∀ c ∈ finiteText .markup x, isDecimalChar c = true := by
  obtain ⟨negative, n, spelled, -, -⟩ := exists_spelling finite
  rw [spelled]
  refine List.forall_mem_append.mpr ⟨?_, isDecimalChar_of_readUnsigned? (readUnsigned?_chars n)⟩
  cases negative with
  | false => exact List.forall_mem_nil _
  | true => exact List.forall_mem_singleton.mpr (by decide)

theorem nameless_markup (finite : x.isFinite = true) : Nameless (markup x).toList := by
  rw [toList_markup finite]
  constructor <;> intro member <;> cases isDecimalChar_of_finiteText finite _ member

theorem namesNonFinite_markup (infinite : x.isFinite = false) :
    NamesNonFinite (markup x).toList := by
  rw [markup, text, infinite]
  by_cases missing : x.isNaN = true
  · right
    rw [if_neg Bool.false_ne_true, if_pos missing]
  · left
    rw [if_neg Bool.false_ne_true, if_neg missing]
    split
    · exact ⟨['-'], [], rfl⟩
    · exact List.infix_rfl

theorem namesNonFinite_iff (before : Nameless front) (after : Nameless rest) :
    NamesNonFinite (front ++ ((markup x).toList ++ rest)) ↔ x.isFinite = false := by
  constructor
  · intro named
    refine Bool.eq_false_iff.mpr fun finite => ?_
    exact (before.append ((nameless_markup finite).append after)).not_namesNonFinite named
  · intro infinite
    have inside : (markup x).toList <:+: front ++ ((markup x).toList ++ rest) :=
      ⟨front, rest, List.append_assoc _ _ _⟩
    exact (namesNonFinite_markup infinite).imp (·.trans inside) (·.trans inside)

end PlotMarkup.Number
