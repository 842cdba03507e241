import PlotMarkup.Json.Reader
import PlotMarkup.Proofs.Outcome
import PlotMarkup.Proofs.Json.Tokens

namespace PlotMarkup.Json

mutual

def reread : Json → Json
  | .null => .null
  | .bool value => .bool value
  | .integer value => rereadInteger value
  | .real value => rereadReal value
  | .text value => .text value
  | .array items => .array (rereadItems items)
  | .object fields => .object (rereadFields fields)
  | .malformed => .null

def rereadItems : List Json → List Json
  | [] => []
  | item :: rest => item.reread :: rereadItems rest

def rereadFields : List (String × Json) → List (String × Json)
  | [] => []
  | (key, value) :: rest => (key, value.reread) :: rereadFields rest

end

theorem rereadItems_eq_map (items : List Json) : rereadItems items = items.map reread := by
  induction items with
  | nil => rw [rereadItems, List.map_nil]
  | cons item rest step => rw [rereadItems, step, List.map_cons]

theorem rereadFields_eq_map (fields : List (String × Json)) :
    rereadFields fields = fields.map fun (key, value) => (key, value.reread) := by
  induction fields with
  | nil => rw [rereadFields, List.map_nil]
  | cons field rest step => rw [rereadFields, step, List.map_cons]

def held (fields : List (String × Json)) : List (Option String × Json) :=
  fields.map fun field => (some field.1, field.2)

theorem mapM_held {f : Option String × Json → Option (String × Json)}
    (kept : ∀ field : String × Json, f (some field.1, field.2) = some field)
    (fields : List (String × Json)) : (held fields).mapM f = some fields := by
  unfold held
  rw [List.mapM_map]
  exact (mapM_eq_some fun field _ => kept field).trans (congrArg some (List.map_id' fields))

theorem objectValue_held (fields : List (String × Json)) :
    objectValue (held fields) = .object fields := by
  unfold objectValue
  rw [mapM_held fun _ => rfl]

def Runs (state : State) (tokens : List Token) (result : State) : Prop :=
  tokens.foldlM State.step state = some result

section

variable {first second third : State} {ts us : List Token}

theorem runs_nil (state : State) : Runs state [] state :=
  rfl

theorem Runs.cons {token : Token} (step : first.step token = some second)
    (after : Runs second ts third) : Runs first (token :: ts) third := by
  unfold Runs
  rw [List.foldlM_cons, step]
  exact after

theorem Runs.append (before : Runs first ts second) (after : Runs second us third) :
    Runs first (ts ++ us) third := by
  unfold Runs
  rw [List.foldlM_append, before]
  exact after

theorem runs_single {token : Token} (step : first.step token = some second) :
    Runs first [token] second :=
  Runs.cons step (runs_nil second)

end

theorem Runs.openedArray {value : Json} {outer : List Frame} {result : State}
    (run : Runs (.value (.array [] :: outer)) (tokensOf value) result) :
    Runs (.openedArray outer) (tokensOf value) result := by
  unfold tokensOf at run ⊢
  split <;> exact run

mutual

theorem runs_tokensOf (outer : List Frame) :
    (value : Json) → Runs (.value outer) (tokensOf value) (complete value.reread outer)
  | .null => by
      rw [tokensOf, reread]
      exact runs_single rfl
  | .malformed => by
      rw [tokensOf, reread]
      exact runs_single rfl
  | .bool value => by
      rw [tokensOf, reread]
      exact runs_single rfl
  | .integer value => by
      rw [tokensOf, reread]
      exact runs_single rfl
  | .real value => by
      rw [tokensOf, reread]
      exact runs_single rfl
  | .text value => by
      rw [tokensOf, reread]
      exact runs_single rfl
  | .array [] => by
      rw [tokensOf, reread, rereadItems]
      exact Runs.cons rfl (runs_single rfl)
  | .array (item :: rest) => by
      rw [tokensOf, reread, rereadItems]
      have first := Runs.openedArray (runs_tokensOf (.array [] :: outer) item)
      have all := first.append (runs_itemTokens [item.reread] outer rest)
      refine (Runs.cons rfl all).append (runs_single ?_)
      simp [State.step]
  | .object [] => by
      rw [tokensOf, reread, rereadFields]
      exact Runs.cons rfl (runs_single rfl)
  | .object ((key, value) :: rest) => by
      rw [tokensOf, reread, rereadFields]
      have first := runs_tokensOf (.object [] (some key) :: outer) value
      have all := first.append (runs_fieldTokens (held [(key, value.reread)]) outer rest)
      refine (Runs.cons rfl (Runs.cons rfl (Runs.cons rfl all))).append (runs_single ?_)
      rw [State.step, List.reverse_append, List.reverse_reverse]
      exact congrArg (fun fields => some (complete fields outer))
        (objectValue_held ((key, value.reread) :: rereadFields rest))

theorem runs_itemTokens (done : List Json) (outer : List Frame) :
    (items : List Json) → Runs (.afterItem done outer) (itemTokens items)
      (.afterItem ((rereadItems items).reverse ++ done) outer)
  | [] => by
      rw [itemTokens, rereadItems]
      exact runs_nil _
  | item :: rest => by
      rw [itemTokens, rereadItems, List.reverse_cons, List.append_assoc]
      have first := runs_tokensOf (.array done :: outer) item
      exact Runs.cons rfl (first.append (runs_itemTokens (item.reread :: done) outer rest))

theorem runs_fieldTokens (done : List (Option String × Json)) (outer : List Frame) :
    (fields : List (String × Json)) → Runs (.afterField done outer) (fieldTokens fields)
      (.afterField ((held (rereadFields fields)).reverse ++ done) outer)
  | [] => by
      rw [fieldTokens, rereadFields]
      exact runs_nil _
  | (key, value) :: rest => by
      rw [fieldTokens, rereadFields, held, List.map_cons, List.reverse_cons, List.append_assoc]
      have first := runs_tokensOf (.object done (some key) :: outer) value
      have others := runs_fieldTokens ((some key, value.reread) :: done) outer rest
      exact Runs.cons rfl (Runs.cons rfl (Runs.cons rfl (first.append others)))

end

theorem read?_write {layout : Layout} (blank : layout.Blank) (value : Json) :
    read? (write layout value) = some value.reread := by
  have run := runs_tokensOf [] value
  unfold read?
  rw [tokens?_write blank]
  simp only [Option.bind_eq_bind, Option.bind_some]
  rw [run]
  rfl

end PlotMarkup.Json
