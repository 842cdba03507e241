import PlotMarkup.Config
import PlotMarkup.Proofs.Store.History

namespace PlotMarkup

open Setting (Value)

def Config.commands (config : Config) : List Command :=
  config.settings.entries.map (fun entry => .set entry.1 entry.2) ++
    if config.curves = [] then [] else [.setCurves config.curves]

inductive Action where
  | command (c : Command)
  | configure (config : Config)

def Action.commands : Action → List Command
  | command c => [c]
  | configure config => config.commands

namespace Store

variable (store : Store) (issues : List Diagnostic)

def act (store : Store) : Action → Store
  | .command c => store.after c
  | .configure config => (store.apply config).1

def actAll (store : Store) (actions : List Action) : Store :=
  actions.foldl act store

theorem attempt_set (id : String) (value : Value) :
    (attempt (·.set id value) (store, issues)).1 = store.after (.set id value) := by
  simp only [attempt, after, Command.run]
  cases store.set id value <;> rfl

theorem attempt_setCurves (curves : List Curve) :
    (attempt (·.setCurves curves) (store, issues)).1 = store.after (.setCurves curves) := by
  simp only [attempt, after, Command.run]
  cases store.setCurves curves <;> rfl

theorem attempt_entries (entries : List (String × Value)) :
    (entries.foldl (fun state entry => attempt (·.set entry.1 entry.2) state)
        (store, issues)).1 =
      store.afterAll (entries.map fun entry => .set entry.1 entry.2) := by
  induction entries generalizing store issues with
  | nil => rfl
  | cons entry rest ih =>
      rw [List.foldl_cons, List.map_cons, ← Prod.eta (attempt _ _), ih, attempt_set]
      rfl

theorem apply_eq_afterAll (config : Config) :
    (store.apply config).1 = store.afterAll config.commands := by
  have written := attempt_entries store [] config.settings.entries
  rw [apply, Config.commands, afterAll, List.foldl_append]
  split
  · exact written
  · rw [← Prod.eta (config.settings.entries.foldl _ _), attempt_setCurves, written]
    rfl

theorem act_eq_afterAll (action : Action) : store.act action = store.afterAll action.commands := by
  cases action with
  | command c => rfl
  | configure config => exact apply_eq_afterAll store config

theorem actAll_eq_afterAll (actions : List Action) :
    store.actAll actions = store.afterAll (actions.flatMap Action.commands) := by
  induction actions generalizing store with
  | nil => rfl
  | cons action rest ih =>
      rw [actAll, List.foldl_cons, List.flatMap_cons, afterAll, List.foldl_append,
        act_eq_afterAll]
      exact ih _

theorem catalog_actAll (catalog : Catalog) (actions : List Action) :
    ((ofCatalog catalog).actAll actions).catalog = catalog := by
  rw [actAll_eq_afterAll, catalog_afterAll]
  rfl

theorem sound_actAll (catalog : Catalog) (actions : List Action) :
    ((ofCatalog catalog).actAll actions).Sound := by
  rw [actAll_eq_afterAll]
  exact (sound_ofCatalog catalog).afterAll _

end Store

end PlotMarkup
