namespace PlotMarkup

variable {ε α β : Type}

theorem bind_eq_ok {x : Except ε α} {f : α → Except ε β} {b : β} :
    x >>= f = .ok b ↔ ∃ a, x = .ok a ∧ f a = .ok b := by
  cases x <;> simp [Bind.bind, Except.bind]

theorem exists_of_isOk {x : Except ε α} (ok : x.isOk = true) : ∃ a, x = .ok a := by
  cases x with
  | error e => cases ok
  | ok a => exact ⟨a, rfl⟩

theorem exists_of_not_isOk {x : Except ε α} (failed : x.isOk = false) : ∃ e, x = .error e := by
  cases x with
  | error e => exact ⟨e, rfl⟩
  | ok a => cases failed

theorem bind_eq_error {x : Except ε α} {f : α → Except ε β} {e : ε} :
    x >>= f = .error e ↔ x = .error e ∨ ∃ a, x = .ok a ∧ f a = .error e := by
  cases x <;> simp [Bind.bind, Except.bind]

theorem mapError_bind {ε' : Type} {g : ε → ε'} {x : Except ε α} {f : α → Except ε β} :
    (x >>= f).mapError g = x.mapError g >>= fun a => (f a).mapError g := by
  cases x <;> rfl

theorem toOption_eq_some {x : Except ε α} {a : α} : x.toOption = some a ↔ x = .ok a := by
  cases x <;> simp [Except.toOption]

section

variable {f : α → Option β} {list : List α}

theorem mapM_eq_some {g : α → β} (all : ∀ a ∈ list, f a = some (g a)) :
    list.mapM f = some (list.map g) := by
  induction list with
  | nil => rfl
  | cons a list step =>
      obtain ⟨head, tail⟩ := List.forall_mem_cons.mp all
      rw [List.mapM_cons, head, step tail]
      rfl

theorem mapM_eq_none {a : α} (member : a ∈ list) (failed : f a = none) : list.mapM f = none := by
  induction list with
  | nil => cases member
  | cons b list step =>
      rw [List.mapM_cons]
      rcases List.mem_cons.mp member with rfl | member
      · rw [failed]
        rfl
      · rw [step member]
        cases f b <;> rfl

theorem mem_of_mapM {results : List β} {b : β} (all : list.mapM f = some results)
    (member : b ∈ results) : ∃ a ∈ list, f a = some b := by
  induction list generalizing results with
  | nil =>
      cases all
      cases member
  | cons a list step =>
      rw [List.mapM_cons] at all
      obtain ⟨first, found, all⟩ := Option.bind_eq_some_iff.mp all
      obtain ⟨others, rest, all⟩ := Option.bind_eq_some_iff.mp all
      cases all
      rcases List.mem_cons.mp member with rfl | member
      · exact ⟨a, List.mem_cons_self, found⟩
      · obtain ⟨origin, inside, same⟩ := step rest member
        exact ⟨origin, List.mem_cons_of_mem a inside, same⟩

end

end PlotMarkup
