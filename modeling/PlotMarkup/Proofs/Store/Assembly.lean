import PlotMarkup.Store.Document
import PlotMarkup.Proofs.Store.History

/-!
# The parts of a document

What a document shows is settled by the history of its store: which settings appear, in which order
and with which values (`shown`).  The document is the concatenation of what each of them
contributes, and no setting has a say in what the others contribute.
-/

namespace PlotMarkup

open Setting (Value)

/-! ## What a history leaves to be shown -/

namespace Catalog

def isOnAfter (catalog : Catalog) (history : List Command) (id : String) : Bool :=
  (catalog.get? id).any fun s => latest s history = .toggle true

def isVisibleAfter (catalog : Catalog) (history : List Command) (s : Setting) : Bool :=
  match s.shownIf with
  | none => true
  | some id => catalog.isOnAfter history id

def bookendAfter (history : List Command) : Option Setting → List (Setting × Value)
  | some s => if latest s history = .toggle true then [(s, .toggle true)] else []
  | none => []

def inlinesAfter (catalog : Catalog) (history : List Command) : List (Setting × Value) :=
  (catalog.settings.filter fun s =>
    s.placement = .inline && catalog.isVisibleAfter history s).map fun s => (s, latest s history)

/-- The settings in a document, in order, with the values they show. -/
def shown (catalog : Catalog) (history : List Command) : List (Setting × Value) :=
  bookendAfter history catalog.leading? ++ catalog.inlinesAfter history ++
    bookendAfter history catalog.trailing?

end Catalog

/-! ## What a setting contributes -/

structure Diagnostic.Attributed (id : String) (issue named : Diagnostic) : Prop where
  kind : named.kind = issue.kind
  message : named.message = issue.message
  suggestion : named.suggestion = issue.suggestion
  severity : named.severity = issue.severity
  setting : named.context.bind (·.setting) = some id
  function : named.context.bind (·.function) = issue.context.bind (·.function)
  expression : named.context.bind (·.expression) = issue.context.bind (·.expression)
  notes : (named.context.map (·.notes)).getD [] = (issue.context.map (·.notes)).getD []

theorem Diagnostic.attributed_inSetting (id : String) (issue : Diagnostic) :
    issue.Attributed id (issue.inSetting id) := by
  cases context : issue.context <;>
    constructor <;> simp [inSetting, updateContext, context, Context.empty]

namespace Setting

def contribution (s : Setting) (value : Value) : Fragment :=
  match s.markup value with
  | .ok fragment => ⟨fragment.text, fragment.issues.map (·.inSetting s.id)⟩
  | .error issue => ⟨"", [issue.inSetting s.id]⟩

theorem contribution_of_ok {s : Setting} {value : Value} {fragment : Fragment}
    (made : s.markup value = .ok fragment) :
    (s.contribution value).text = fragment.text ∧
      List.Forall₂ (Diagnostic.Attributed s.id) fragment.issues (s.contribution value).issues := by
  rw [contribution, made]
  refine ⟨rfl, ?_⟩
  rw [List.forall₂_map_right_iff, List.forall₂_same]
  intro issue _
  exact issue.attributed_inSetting s.id

theorem contribution_of_error {s : Setting} {value : Value} {issue : Diagnostic}
    (failed : s.markup value = .error issue) :
    (s.contribution value).text = "" ∧
      ∃ named, (s.contribution value).issues = [named] ∧ issue.Attributed s.id named := by
  rw [contribution, failed]
  exact ⟨rfl, _, rfl, issue.attributed_inSetting s.id⟩

theorem fits_latest (s : Setting) (history : List Command) : s.Fits (latest s history) := by
  induction history using List.reverseRecOn with
  | nil => exact s.fits_initial
  | append_singleton history c ih =>
      rw [latest_append]
      cases given : c.gives? s with
      | none => exact ih
      | some value => exact Command.fits_of_gives given

theorem emit_of_fits {s : Setting} {value : Value} (fits : s.Fits value) :
    Store.emit s value = s.contribution value := by
  rw [Store.emit, render, if_pos fits.variant, contribution]
  cases s.markup value <;> rfl

end Setting

def Fragment.assemble (fragments : List Fragment) : Fragment :=
  ⟨String.join (fragments.map Fragment.text), fragments.flatMap Fragment.issues⟩

namespace Fragment

theorem append_assoc (first second third : Fragment) :
    first ++ second ++ third = first ++ (second ++ third) := by
  show append (append _ _) _ = append _ (append _ _)
  simp [append, String.append_assoc]

theorem assemble_append (first second : List Fragment) :
    assemble (first ++ second) = assemble first ++ assemble second := by
  show _ = append _ _
  simp [assemble, append]

theorem assemble_cons (fragment : Fragment) (rest : List Fragment) :
    assemble (fragment :: rest) = fragment ++ assemble rest := by
  show _ = append _ _
  simp [assemble, append]

end Fragment

/-! ## The document after a history -/

namespace Catalog

variable {catalog : Catalog} {history : List Command} {entry : Setting × Value} {s : Setting}

theorem mem_bookendAfter {s? : Option Setting} (member : entry ∈ bookendAfter history s?) :
    s? = some entry.1 ∧ entry.2 = latest entry.1 history := by
  cases s? with
  | none => cases member
  | some s =>
      rw [bookendAfter] at member
      split at member
      · rename_i on
        obtain rfl := List.mem_singleton.mp member
        exact ⟨rfl, on.symm⟩
      · cases member

theorem mem_inlinesAfter (member : entry ∈ catalog.inlinesAfter history) :
    entry.1 ∈ catalog.settings ∧ entry.1.placement = .inline ∧
      entry.2 = latest entry.1 history := by
  obtain ⟨s, kept, rfl⟩ := List.mem_map.mp member
  obtain ⟨known, inline, -⟩ := by simpa using kept
  exact ⟨known, inline, rfl⟩

theorem leading?_eq_some (found : catalog.leading? = some s) :
    s ∈ catalog.settings ∧ s.placement = .leading :=
  ⟨List.mem_of_find?_eq_some found, by simpa using List.find?_some found⟩

theorem trailing?_eq_some (found : catalog.trailing? = some s) :
    s ∈ catalog.settings ∧ s.placement = .trailing :=
  ⟨List.mem_of_find?_eq_some found, by simpa using List.find?_some found⟩

theorem mem_shown (member : entry ∈ catalog.shown history) :
    entry.1 ∈ catalog.settings ∧ entry.2 = latest entry.1 history := by
  rcases List.mem_append.mp member with earlier | last
  · rcases List.mem_append.mp earlier with first | between
    · obtain ⟨found, value⟩ := mem_bookendAfter first
      exact ⟨(leading?_eq_some found).1, value⟩
    · obtain ⟨known, -, value⟩ := mem_inlinesAfter between
      exact ⟨known, value⟩
  · obtain ⟨found, value⟩ := mem_bookendAfter last
    exact ⟨(trailing?_eq_some found).1, value⟩

theorem nodup_bookendAfter (history : List Command) (s? : Option Setting) :
    ((bookendAfter history s?).map Prod.fst).Nodup := by
  cases s? with
  | none => exact List.nodup_nil
  | some s =>
      rw [bookendAfter]
      split <;> simp

theorem placement_of_leading (member : s ∈ (bookendAfter history catalog.leading?).map Prod.fst) :
    s.placement = .leading := by
  obtain ⟨entry, first, rfl⟩ := List.mem_map.mp member
  exact (leading?_eq_some (mem_bookendAfter first).1).2

theorem placement_of_inline (member : s ∈ (catalog.inlinesAfter history).map Prod.fst) :
    s.placement = .inline := by
  obtain ⟨entry, between, rfl⟩ := List.mem_map.mp member
  exact (mem_inlinesAfter between).2.1

theorem placement_of_trailing
    (member : s ∈ (bookendAfter history catalog.trailing?).map Prod.fst) :
    s.placement = .trailing := by
  obtain ⟨entry, last, rfl⟩ := List.mem_map.mp member
  exact (trailing?_eq_some (mem_bookendAfter last).1).2

theorem nodup_inlinesAfter (catalog : Catalog) (history : List Command) :
    ((catalog.inlinesAfter history).map Prod.fst).Nodup := by
  have same : (Prod.fst ∘ fun s => (s, latest s history)) = id := rfl
  rw [inlinesAfter, List.map_map, same, List.map_id]
  exact catalog.distinct.of_map.filter _

theorem nodup_settings_shown (catalog : Catalog) (history : List Command) :
    ((catalog.shown history).map Prod.fst).Nodup := by
  rw [shown, List.map_append, List.map_append, List.nodup_append, List.nodup_append]
  refine ⟨⟨nodup_bookendAfter _ _, nodup_inlinesAfter _ _, ?_⟩, nodup_bookendAfter _ _, ?_⟩
  · rintro s first _ between rfl
    have leading := placement_of_leading first
    have inline := placement_of_inline between
    simp [leading] at inline
  · rintro s earlier _ last rfl
    have trailing := placement_of_trailing last
    rcases List.mem_append.mp earlier with first | between
    · simp [placement_of_leading first] at trailing
    · simp [placement_of_inline between] at trailing

theorem nodup_shown (catalog : Catalog) (history : List Command) :
    ((catalog.shown history).map fun entry => entry.1.id).Nodup := by
  have known : ∀ s ∈ (catalog.shown history).map Prod.fst, s ∈ catalog.settings := by
    intro s member
    obtain ⟨entry, shown, rfl⟩ := List.mem_map.mp member
    exact (mem_shown shown).1
  have ids := (nodup_settings_shown catalog history).map_on fun s first t second same =>
    catalog.eq_of_id (known s first) (known t second) same
  rwa [List.map_map] at ids

end Catalog

namespace Store

variable {catalog : Catalog} {history : List Command}

theorem lookup?_afterAll_id (catalog : Catalog) (history : List Command) (id : String) :
    ((ofCatalog catalog).afterAll history).lookup? id =
      (catalog.get? id).map fun s => latest s history := by
  cases found : catalog.get? id with
  | none =>
      have sound := (sound_ofCatalog catalog).afterAll history
      have same : ((ofCatalog catalog).afterAll history).catalog = catalog := catalog_afterAll _ _
      rw [lookup?, Option.map_none, lookup_eq_none, sound.keys, same]
      exact Catalog.get?_eq_none.mp found
  | some s =>
      obtain ⟨member, rfl⟩ := Catalog.get?_eq_some.mp found
      exact lookup?_afterAll history member

theorem isEnabled_iff {value : Value} : value.isEnabled = true ↔ value = .toggle true := by
  cases value <;> simp [Value.isEnabled, Value.toggle?]

theorem isEnabled_afterAll (catalog : Catalog) (history : List Command) (id : String) :
    ((ofCatalog catalog).afterAll history).isEnabled id = catalog.isOnAfter history id := by
  rw [isEnabled, lookup?_afterAll_id, Catalog.isOnAfter, Bool.eq_iff_iff]
  cases catalog.get? id <;> simp [isEnabled_iff]

theorem bookend_afterAll {s? : Option Setting} (known : ∀ s, s? = some s → s ∈ catalog.settings) :
    ((ofCatalog catalog).afterAll history).bookend s? = Catalog.bookendAfter history s? := by
  cases s? with
  | none => rfl
  | some s =>
      rw [bookend, isEnabled_afterAll, Catalog.isOnAfter, Catalog.get?_self (known s rfl)]
      simp [Catalog.bookendAfter]

theorem isVisible_afterAll (catalog : Catalog) (history : List Command) (s : Setting) :
    ((ofCatalog catalog).afterAll history).isVisible s = catalog.isVisibleAfter history s := by
  rw [isVisible, Catalog.isVisibleAfter]
  cases s.shownIf with
  | none => rfl
  | some id => exact isEnabled_afterAll catalog history id

theorem inlines_afterAll (catalog : Catalog) (history : List Command) :
    ((ofCatalog catalog).afterAll history).inlines = catalog.inlinesAfter history := by
  have same : ((ofCatalog catalog).afterAll history).catalog = catalog := catalog_afterAll _ _
  rw [inlines, same, List.filter_filter, Catalog.inlinesAfter]
  have kept : (catalog.settings.filter fun s =>
        ((ofCatalog catalog).afterAll history).isVisible s && s.placement == .inline) =
      catalog.settings.filter fun s =>
        decide (s.placement = .inline) && catalog.isVisibleAfter history s := by
    apply List.filter_congr
    intro s _
    rw [isVisible_afterAll, Bool.and_comm]
    rfl
  rw [kept]
  apply List.map_congr_left
  intro s member
  have known : s ∈ catalog.settings := List.mem_of_mem_filter member
  rw [valueOf, lookup?_afterAll history known]
  rfl

theorem emitted_afterAll (catalog : Catalog) (history : List Command) :
    ((ofCatalog catalog).afterAll history).emitted = catalog.shown history := by
  have same : ((ofCatalog catalog).afterAll history).catalog = catalog := catalog_afterAll _ _
  rw [emitted, inlines_afterAll, same,
    bookend_afterAll fun s found => (Catalog.leading?_eq_some found).1,
    bookend_afterAll fun s found => (Catalog.trailing?_eq_some found).1]
  rfl

def contributions (entries : List (Setting × Value)) : Fragment :=
  Fragment.assemble (entries.map fun entry => entry.1.contribution entry.2)

theorem contributions_append (first second : List (Setting × Value)) :
    contributions (first ++ second) = contributions first ++ contributions second := by
  rw [contributions, List.map_append, Fragment.assemble_append]
  rfl

theorem contributions_cons (entry : Setting × Value) (rest : List (Setting × Value)) :
    contributions (entry :: rest) = entry.1.contribution entry.2 ++ contributions rest := by
  rw [contributions, List.map_cons, Fragment.assemble_cons]
  rfl

theorem document_eq_contributions (catalog : Catalog) (history : List Command) :
    ((ofCatalog catalog).afterAll history).document = contributions (catalog.shown history) := by
  have emits : ∀ entry ∈ catalog.shown history,
      emit entry.1 entry.2 = entry.1.contribution entry.2 := by
    intro entry member
    apply Setting.emit_of_fits
    rw [(Catalog.mem_shown member).2]
    exact entry.1.fits_latest history
  rw [document, emitted_afterAll, List.map_congr_left emits]
  rfl

end Store

/-! ## Another markup for one setting -/

namespace Setting

/-- Gives the setting of an id another markup. -/
def remark (id : String) (markup : Value → Except Diagnostic Fragment) (t : Setting) : Setting :=
  if t.id = id then { t with markup := markup } else t

variable (id : String) (markup : Value → Except Diagnostic Fragment) (t : Setting)

@[simp]
theorem remark_id : (t.remark id markup).id = t.id := by
  unfold remark
  split <;> rfl

@[simp]
theorem remark_placement : (t.remark id markup).placement = t.placement := by
  unfold remark
  split <;> rfl

@[simp]
theorem remark_shownIf : (t.remark id markup).shownIf = t.shownIf := by
  unfold remark
  split <;> rfl

@[simp]
theorem latest_remark (history : List Command) :
    latest (t.remark id markup) history = latest t history := by
  unfold remark
  split <;> rfl

end Setting

namespace Catalog

variable {catalog : Catalog} {history : List Command} {s : Setting}
  {markup : Value → Except Diagnostic Fragment}

theorem settings_register (member : s ∈ catalog.settings) :
    (catalog.register { s with markup := markup }).settings =
      catalog.settings.map (Setting.remark s.id markup) := by
  obtain ⟨slot, found⟩ := List.getElem?_of_mem member
  have known : catalog.index.get? { s with markup := markup }.id = some slot :=
    index_eq_some.mpr ⟨s, found, rfl⟩
  rw [settings_register_of_slot known]
  apply List.ext_getElem?
  intro position
  rw [List.getElem?_map, List.getElem?_set]
  split
  · rename_i here
    subst here
    have inside := (List.getElem?_eq_some_iff.mp found).1
    rw [if_pos inside, found, Option.map_some, Setting.remark, if_pos rfl]
  · rename_i apart
    cases there : catalog.settings[position]? with
    | none => rfl
    | some t =>
        have other : t.id ≠ s.id := by
          intro same
          have known' := index_eq_some.mpr ⟨t, there, same⟩
          exact apart (Option.some.inj (known.symm.trans known'))
        rw [Option.map_some, Setting.remark, if_neg other]

theorem find?_register (member : s ∈ catalog.settings) {select : Setting → Bool}
    (blind : ∀ t : Setting, select (t.remark s.id markup) = select t) :
    (catalog.register { s with markup := markup }).settings.find? select =
      (catalog.settings.find? select).map (Setting.remark s.id markup) := by
  have same : select ∘ Setting.remark s.id markup = select := funext blind
  rw [settings_register member, List.find?_map, same]

theorem isVisibleAfter_register (member : s ∈ catalog.settings) (t : Setting) :
    (catalog.register { s with markup := markup }).isVisibleAfter history
      (t.remark s.id markup) = catalog.isVisibleAfter history t := by
  rw [isVisibleAfter, isVisibleAfter, Setting.remark_shownIf]
  cases t.shownIf with
  | none => rfl
  | some id =>
      show isOnAfter _ history id = isOnAfter catalog history id
      have found : (catalog.register { s with markup := markup }).get? id =
          (catalog.get? id).map (Setting.remark s.id markup) := by
        rw [get?_eq_find?, get?_eq_find?]
        exact find?_register member fun t => by rw [Setting.remark_id]
      rw [isOnAfter, isOnAfter, found]
      cases catalog.get? id <;> simp

def remarkEntry (id : String) (markup : Value → Except Diagnostic Fragment)
    (entry : Setting × Value) : Setting × Value :=
  (entry.1.remark id markup, entry.2)

theorem bookendAfter_register (history : List Command) (s? : Option Setting) (id : String) :
    bookendAfter history (s?.map (Setting.remark id markup)) =
      (bookendAfter history s?).map (remarkEntry id markup) := by
  cases s? with
  | none => rfl
  | some s =>
      rw [Option.map_some, bookendAfter, bookendAfter, Setting.latest_remark]
      split <;> rfl

theorem inlinesAfter_register (member : s ∈ catalog.settings) :
    (catalog.register { s with markup := markup }).inlinesAfter history =
      (catalog.inlinesAfter history).map (remarkEntry s.id markup) := by
  rw [inlinesAfter, inlinesAfter, settings_register member, List.filter_map, List.map_map,
    List.map_map]
  have kept : (fun t => decide (t.placement = .inline) &&
        (catalog.register { s with markup := markup }).isVisibleAfter history t) ∘
        Setting.remark s.id markup =
      fun t => decide (t.placement = .inline) && catalog.isVisibleAfter history t := by
    funext t
    simp only [Function.comp, Setting.remark_placement, isVisibleAfter_register member]
  rw [kept]
  apply List.map_congr_left
  intro t _
  simp only [Function.comp, remarkEntry, Setting.latest_remark]

theorem shown_register (member : s ∈ catalog.settings) :
    (catalog.register { s with markup := markup }).shown history =
      (catalog.shown history).map (remarkEntry s.id markup) := by
  have leading : (catalog.register { s with markup := markup }).leading? =
      catalog.leading?.map (Setting.remark s.id markup) :=
    find?_register member fun t => by rw [Setting.remark_placement]
  have trailing : (catalog.register { s with markup := markup }).trailing? =
      catalog.trailing?.map (Setting.remark s.id markup) :=
    find?_register member fun t => by rw [Setting.remark_placement]
  rw [shown, shown, leading, trailing, bookendAfter_register, bookendAfter_register,
    inlinesAfter_register member, List.map_append, List.map_append]

theorem map_remarkEntry_of_absent {entries : List (Setting × Value)} {id : String}
    (absent : id ∉ entries.map fun entry => entry.1.id) :
    entries.map (remarkEntry id markup) = entries := by
  have kept : entries.map (remarkEntry id markup) = entries.map fun entry => entry := by
    apply List.map_congr_left
    intro entry member
    have other : entry.1.id ≠ id := fun same => absent (List.mem_map.mpr ⟨entry, member, same⟩)
    rw [remarkEntry, Setting.remark, if_neg other]
  rw [kept, List.map_id']

end Catalog

/-! ## The laws of a document -/

namespace Store

variable {catalog : Catalog} {history : List Command} {s : Setting} {value : Value}
  {markup : Value → Except Diagnostic Fragment}

theorem document_register_of_hidden (member : s ∈ catalog.settings)
    (hidden : s.id ∉ (catalog.shown history).map fun entry => entry.1.id) :
    ((ofCatalog (catalog.register { s with markup := markup })).afterAll history).document =
      ((ofCatalog catalog).afterAll history).document := by
  rw [document_eq_contributions, document_eq_contributions, Catalog.shown_register member,
    Catalog.map_remarkEntry_of_absent hidden]

theorem document_register_of_shown {before after : List (Setting × Value)}
    (here : catalog.shown history = before ++ (s, value) :: after) :
    ((ofCatalog (catalog.register { s with markup := markup })).afterAll history).document =
      contributions before ++ { s with markup := markup }.contribution value ++
        contributions after := by
  have member : s ∈ catalog.settings := by
    have shown : (s, value) ∈ catalog.shown history := by simp [here]
    exact (Catalog.mem_shown shown).1
  have once := catalog.nodup_shown history
  rw [here, List.map_append, List.map_cons, List.nodup_append, List.nodup_cons] at once
  obtain ⟨-, ⟨notAfter, -⟩, apart⟩ := once
  have notBefore : s.id ∉ before.map fun entry => entry.1.id :=
    fun earlier => apart s.id earlier s.id List.mem_cons_self rfl
  have replaced :
      Catalog.remarkEntry s.id markup (s, value) = ({ s with markup := markup }, value) := by
    rw [Catalog.remarkEntry, Setting.remark, if_pos rfl]
  rw [document_eq_contributions, Catalog.shown_register member, here, List.map_append,
    List.map_cons, Catalog.map_remarkEntry_of_absent notBefore,
    Catalog.map_remarkEntry_of_absent notAfter, replaced, contributions_append,
    contributions_cons, Fragment.append_assoc]

structure Assembled (catalog : Catalog) (history : List Command) (store : Store) : Prop where
  stored : ∀ s ∈ catalog.settings, store.get s.id = .ok (latest s history)
  text : store.document.text =
    String.join ((catalog.shown history).map fun entry => (entry.1.contribution entry.2).text)
  issues : store.document.issues =
    (catalog.shown history).flatMap fun entry => (entry.1.contribution entry.2).issues
  rendered : ∀ entry ∈ catalog.shown history, ∀ fragment, entry.1.markup entry.2 = .ok fragment →
    (entry.1.contribution entry.2).text = fragment.text ∧
      List.Forall₂ (Diagnostic.Attributed entry.1.id) fragment.issues
        (entry.1.contribution entry.2).issues
  failed : ∀ entry ∈ catalog.shown history, ∀ issue, entry.1.markup entry.2 = .error issue →
    (entry.1.contribution entry.2).text = "" ∧
      ∃ named, (entry.1.contribution entry.2).issues = [named] ∧ issue.Attributed entry.1.id named
  once : ((catalog.shown history).map fun entry => entry.1.id).Nodup
  hidden : ∀ s ∈ catalog.settings, s.id ∉ ((catalog.shown history).map fun entry => entry.1.id) →
    ∀ markup,
      ((ofCatalog (catalog.register { s with markup := markup })).afterAll history).document =
        store.document
  replaced : ∀ s value before after, catalog.shown history = before ++ (s, value) :: after →
    ∀ markup,
      ((ofCatalog (catalog.register { s with markup := markup })).afterAll history).document =
        contributions before ++ { s with markup := markup }.contribution value ++
          contributions after

theorem assembled_afterAll (catalog : Catalog) (history : List Command) :
    Assembled catalog history ((ofCatalog catalog).afterAll history) where
  stored := fun s member => get_afterAll history (Catalog.get?_self member)
  text := by
    rw [document_eq_contributions]
    simp [contributions, Fragment.assemble, Function.comp_def]
  issues := by
    rw [document_eq_contributions]
    simp [contributions, Fragment.assemble, List.flatMap_map]
  rendered := fun _ _ _ => Setting.contribution_of_ok
  failed := fun _ _ _ => Setting.contribution_of_error
  once := catalog.nodup_shown history
  hidden := fun _ member absent _ => document_register_of_hidden member absent
  replaced := fun _ _ _ _ here _ => document_register_of_shown here

end Store

end PlotMarkup
