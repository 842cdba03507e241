import PlotMarkup.CommandLine.Run
import PlotMarkup.Proofs.Catalog.Lookup
import PlotMarkup.Proofs.Outcome
import PlotMarkup.Proofs.Store.Session

namespace PlotMarkup.CommandLine

variable {arguments : List String} {options : Options} {outcome : Outcome}

/-- A run that ends in the same way in any world, since it never turns to it. -/
def Unread (arguments : List String) (status : Nat) (output : String) : Prop :=
  ∃ errors, ∀ {m : Type → Type} [Monad m] (read : Option String → m (Except String String)),
    runWith read arguments = pure ⟨status, output, errors⟩

theorem unread_of_fault {fault : Fault} (rejected : Options.ofArguments arguments = .error fault) :
    Unread arguments 2 "" := by
  refine ⟨(Outcome.ofFault fault).errors, fun read => ?_⟩
  rw [runWith, rejected]
  rfl

theorem unread_of_answer (accepted : Options.ofArguments arguments = .ok options)
    (answer : options.answer? = some outcome) :
    Unread arguments outcome.status outcome.output := by
  refine ⟨outcome.errors, fun read => ?_⟩
  simp only [runWith, accepted, answer]

theorem answer?_of_list {category : Option Setting.Category} (listed : options.list = some category) :
    options.answer? = some (.ofJson (Catalog.standard.listingJson category)) := by
  rw [Options.answer?, listed]

theorem answer?_of_known {s : Setting} (unlisted : options.list = none)
    (asked : options.helpSetting = some s.id) (known : s ∈ Catalog.standard.settings) :
    options.answer? = some (.ofJson s.toJson) := by
  have found : Catalog.standard.require s.id = .ok s :=
    Catalog.require_eq_ok.mpr (Catalog.get?_self known)
  rw [Options.answer?, unlisted, asked, Option.map_some, found]

theorem answer?_of_unknown {id : String} (unlisted : options.list = none)
    (asked : options.helpSetting = some id) (unknown : id ∉ Catalog.standard.ids) :
    options.answer? = some (.ofFailure (Catalog.standard.unknown id)) := by
  have missing : Catalog.standard.require id = .error (Catalog.standard.unknown id) :=
    Catalog.require_eq_error.mpr ⟨Catalog.get?_eq_none.mpr unknown, rfl⟩
  rw [Options.answer?, unlisted, asked, Option.map_some, missing]

structure Asks (arguments : List String) (options : Options) : Prop where
  accepted : Options.ofArguments arguments = .ok options
  unlisted : options.list = none
  undescribed : options.helpSetting = none

theorem Asks.runWith_eq (asks : Asks arguments options) {m : Type → Type} [Monad m]
    (read : Option String → m (Except String String)) :
    runWith read arguments = do return options.generate (← read options.file) := by
  have unanswered : options.answer? = none := by
    rw [Options.answer?, asks.unlisted, asks.undescribed]
    rfl
  simp only [runWith, asks.accepted, unanswered]

def Outcome.Is (outcome : Outcome) (status : Nat) (output : String) : Prop :=
  outcome.status = status ∧ outcome.output = output

def source (options : Options) (store : Store) : String :=
  if options.raw then store.document.text else store.tidyDocument ++ "\n"

theorem generate_of_config {text : String} {config : Config}
    (understood : configOfText text = .ok config) :
    (options.generate (.ok text)).Is 0
      (source options ((Store.ofCatalog Catalog.standard).act (.configure config))) := by
  have found : (Except.ok text).mapError Diagnostic.invalidConfig >>= configOfText = .ok config :=
    understood
  rw [Options.generate, found]
  exact ⟨rfl, rfl⟩

theorem act_empty (store : Store) : store.act (.configure .empty) = store := rfl

theorem generate_of_error {text : String} {issue : Diagnostic}
    (refused : configOfText text = .error issue) : (options.generate (.ok text)).Is 1 "" := by
  have found : (Except.ok text).mapError Diagnostic.invalidConfig >>= configOfText =
      .error issue := refused
  rw [Options.generate, found]
  exact ⟨rfl, rfl⟩

theorem configOfText_of_blank {text : String} (blank : Text.isBlankText text) :
    configOfText text = .ok .empty :=
  if_pos blank

theorem configOfText_of_filled {text : String} (filled : ¬Text.isBlankText text) :
    configOfText text = Config.ofText text :=
  if_neg filled

def Outcome.Quiet (outcome : Outcome) : Prop :=
  outcome.status = 0 ∨ outcome.output = ""

theorem quiet_of_answer (answer : options.answer? = some outcome) : outcome.Quiet := by
  unfold Options.answer? at answer
  split at answer
  · cases answer
    exact .inl rfl
  · obtain ⟨id, -, made⟩ := Option.map_eq_some_iff.mp answer
    split at made <;> subst made
    · exact .inl rfl
    · exact .inr rfl

theorem quiet_generate (options : Options) (text : Except String String) :
    (options.generate text).Quiet := by
  unfold Options.generate
  split
  · exact .inl rfl
  · exact .inr rfl

theorem quiet_run (read : Option String → Except String String) (arguments : List String) :
    (run read arguments).Quiet := by
  unfold run runWith
  split
  · exact .inr rfl
  · split
    · rename_i answer
      exact quiet_of_answer answer
    · exact quiet_generate _ _

structure Ends (arguments : List String) : Prop where
  rejected : ∀ fault, Options.ofArguments arguments = .error fault → Unread arguments 2 ""
  listing : ∀ options category, Options.ofArguments arguments = .ok options →
    options.list = some category →
    Unread arguments 0 ((Catalog.standard.listingJson category).pretty ++ "\n")
  description : ∀ options s, Options.ofArguments arguments = .ok options → options.list = none →
    options.helpSetting = some s.id → s ∈ Catalog.standard.settings →
    Unread arguments 0 (s.toJson.pretty ++ "\n")
  unknown : ∀ options id, Options.ofArguments arguments = .ok options → options.list = none →
    options.helpSetting = some id → id ∉ Catalog.standard.ids → Unread arguments 1 ""
  reading : ∀ options, Asks arguments options → ∀ {m : Type → Type} [Monad m] read,
    runWith (m := m) read arguments = do return options.generate (← read options.file)
  unreadable : ∀ options, Asks arguments options → ∀ reason,
    (options.generate (.error reason)).Is 1 ""
  blank : ∀ options, Asks arguments options → ∀ text, Text.isBlankText text →
    (options.generate (.ok text)).Is 0 (source options (Store.ofCatalog Catalog.standard))
  configured : ∀ options, Asks arguments options → ∀ text config, ¬Text.isBlankText text →
    Config.ofText text = .ok config → (options.generate (.ok text)).Is 0
      (source options ((Store.ofCatalog Catalog.standard).actAll [.configure config]))
  malformed : ∀ options, Asks arguments options → ∀ text issue, ¬Text.isBlankText text →
    Config.ofText text = .error issue → (options.generate (.ok text)).Is 1 ""
  quiet : ∀ read, (run read arguments).Quiet

theorem ends_runWith (arguments : List String) : Ends arguments where
  rejected := fun _ => unread_of_fault
  listing := fun _ _ accepted listed => unread_of_answer accepted (answer?_of_list listed)
  description := fun _ _ accepted unlisted asked known =>
    unread_of_answer accepted (answer?_of_known unlisted asked known)
  unknown := fun _ _ accepted unlisted asked unknown =>
    unread_of_answer accepted (answer?_of_unknown unlisted asked unknown)
  reading := fun _ asks _ _ read => asks.runWith_eq read
  unreadable := fun _ _ _ => ⟨rfl, rfl⟩
  blank := fun _ _ _ blank => by
    rw [← act_empty (Store.ofCatalog Catalog.standard)]
    exact generate_of_config (configOfText_of_blank blank)
  configured := fun _ _ _ _ filled valid =>
    generate_of_config ((configOfText_of_filled filled).trans valid)
  malformed := fun _ _ _ _ filled invalid =>
    generate_of_error ((configOfText_of_filled filled).trans invalid)
  quiet := fun read => quiet_run read arguments

end PlotMarkup.CommandLine
