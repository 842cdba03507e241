import Mathlib.Data.List.Chain
import Mathlib.Data.List.Nodup
import PlotMarkup.CommandLine.Options
import PlotMarkup.Proofs.Outcome

/-!
# Groups of arguments

Arguments that are understood are groups in turn, an option with what belongs to it or a file, and
each group leaves its mark in the options (`exists_groups_add`).  Groups of different kinds can change
places.  Main statement: `ofArguments_groupwise`.
-/

namespace PlotMarkup.CommandLine

open Setting (Category)

/-! ## Groups -/

inductive Group where
  | raw
  | list (category : Option Category)
  | helpSetting (id : String)
  | file (path : String)
deriving DecidableEq

inductive Group.Kind where
  | raw
  | list
  | helpSetting
  | file
deriving DecidableEq

namespace Group

def kind : Group → Kind
  | raw => .raw
  | list _ => .list
  | helpSetting _ => .helpSetting
  | file _ => .file

def arguments : Group → List String
  | raw => ["--raw"]
  | list none => ["--list"]
  | list (some category) => ["--list", category.name]
  | helpSetting id => ["--help-setting", id]
  | file path => [path]

def put (options : Options) : Group → Options
  | raw => { options with raw := true }
  | list category => { options with list := some category }
  | helpSetting id => { options with helpSetting := some id }
  | file path => { options with file := some path }

/-- A listing of all settings takes the name of a category after it for its own. -/
def Swallows : Group → Group → Prop
  | list none, file path => ∃ category, Category.ofName? path = some category
  | _, _ => False

structure Clear (groups : List Group) : Prop where
  plain : ∀ path, file path ∈ groups → looksLikeOption path = false
  apart : groups.IsChain fun g next => ¬g.Swallows next

def Last {α : Type} (group : α → Group) (groups : List Group) (a : α) : Prop :=
  ∃ before after, groups = before ++ group a :: after ∧ ∀ b, group b ∉ after

end Group

open CommandLine.Group

structure Options.Records (options : Options) (groups : List Group) : Prop where
  raw : options.raw = true ↔ .raw ∈ groups
  list : ∀ category, options.list = some category ↔ Last .list groups category
  helpSetting : ∀ id, options.helpSetting = some id ↔ Last .helpSetting groups id
  file : ∀ path, options.file = some path ↔ Last .file groups path

variable {options result : Options} {g : Group} {groups order : List Group}

/-! ## The marks of groups -/

section

variable {α : Type} {group : α → Group} {a : α}

theorem last_cons : Last group (g :: groups) a ↔
    Last group groups a ∨ g = group a ∧ ∀ b, group b ∉ groups := by
  constructor
  · rintro ⟨before, after, whole, final⟩
    cases before with
    | nil =>
        cases whole
        exact .inr ⟨rfl, final⟩
    | cons first before =>
        cases whole
        exact .inl ⟨before, after, rfl, final⟩
  · rintro (⟨before, after, rfl, final⟩ | ⟨rfl, final⟩)
    · exact ⟨g :: before, after, rfl, final⟩
    · exact ⟨[], groups, rfl, final⟩

theorem exists_last (member : group a ∈ groups) : ∃ b, Last group groups b := by
  induction groups generalizing a with
  | nil => cases member
  | cons g groups ih =>
      by_cases later : ∃ b, group b ∈ groups
      · obtain ⟨b, later⟩ := later
        obtain ⟨last, final⟩ := ih later
        exact ⟨last, last_cons.mpr (.inl final)⟩
      · have final : ∀ b, group b ∉ groups := fun b inside => later ⟨b, inside⟩
        have same := (List.mem_cons.mp member).resolve_right (final a)
        exact ⟨a, last_cons.mpr (.inr ⟨same.symm, final⟩)⟩

structure Writes (group : α → Group) (field : Options → Option α) : Prop where
  written : ∀ options a, field ((group a).put options) = some a
  kept : ∀ options g, (∀ a, g ≠ group a) → field (g.put options) = field options

theorem Writes.foldl_put {field : Options → Option α} (writes : Writes group field)
    (options : Options) : field (groups.foldl put options) = some a ↔
      Last group groups a ∨ (∀ b, group b ∉ groups) ∧ field options = some a := by
  induction groups generalizing options with
  | nil => simp [Last]
  | cons g groups ih =>
      rw [List.foldl_cons, ih, last_cons]
      by_cases same : ∃ b, g = group b
      · obtain ⟨b, rfl⟩ := same
        rw [writes.written, Option.some_inj]
        constructor
        · rintro (last | ⟨final, rfl⟩)
          · exact .inl (.inl last)
          · exact .inl (.inr ⟨rfl, final⟩)
        · rintro ((last | ⟨same, final⟩) | ⟨none, -⟩)
          · exact .inl last
          · have value := writes.written options b
            rw [same, writes.written, Option.some_inj] at value
            exact .inr ⟨final, value.symm⟩
          · exact absurd List.mem_cons_self (none b)
      · have other : ∀ b, g ≠ group b := fun b written => same ⟨b, written⟩
        rw [writes.kept options g other]
        simp [other, fun b => (other b).symm]

theorem Writes.foldl_put_none {field : Options → Option α} (writes : Writes group field)
    (empty : field Options.none = none) :
    field (groups.foldl put Options.none) = some a ↔ Last group groups a := by
  rw [writes.foldl_put, empty]
  simp

end

theorem writes_list : Writes Group.list Options.list where
  written _ _ := rfl
  kept _ g other := by
    cases g with
    | list category => exact absurd rfl (other category)
    | _ => rfl

theorem writes_helpSetting : Writes Group.helpSetting Options.helpSetting where
  written _ _ := rfl
  kept _ g other := by
    cases g with
    | helpSetting id => exact absurd rfl (other id)
    | _ => rfl

theorem writes_file : Writes Group.file Options.file where
  written _ _ := rfl
  kept _ g other := by
    cases g with
    | file path => exact absurd rfl (other path)
    | _ => rfl

theorem raw_foldl_put (options : Options) :
    (groups.foldl put options).raw = true ↔ options.raw = true ∨ .raw ∈ groups := by
  induction groups generalizing options with
  | nil => simp
  | cons g groups ih =>
      rw [List.foldl_cons, ih, List.mem_cons]
      cases g <;> simp [put]

theorem records_foldl_put (groups : List Group) :
    (groups.foldl put Options.none).Records groups where
  raw := by simp [raw_foldl_put, Options.none]
  list _ := writes_list.foldl_put_none rfl
  helpSetting _ := writes_helpSetting.foldl_put_none rfl
  file _ := writes_file.foldl_put_none rfl

theorem put_comm {next : Group} (different : g.kind ≠ next.kind) (options : Options) :
    next.put (g.put options) = g.put (next.put options) := by
  cases g <;> cases next <;> first | rfl | exact absurd rfl different

theorem foldl_put_perm (distinct : (groups.map kind).Nodup) (same : order.Perm groups)
    (options : Options) : order.foldl put options = groups.foldl put options := by
  refine (same.symm.foldl_eq' (fun g first next second options => ?_) options).symm
  by_cases equal : g.kind = next.kind
  · rw [List.inj_on_of_nodup_map distinct first second equal]
  · exact put_comm equal options

/-! ## Reading groups -/

theorem ofName?_name (category : Category) : Category.ofName? category.name = some category := by
  cases category <;> decide

theorem name_of_ofName? {name : String} {category : Category}
    (known : Category.ofName? name = some category) : category.name = name := by
  simpa using List.find?_some known

def Nameless (arguments : List String) : Prop :=
  ∀ argument ∈ arguments.head?, Category.ofName? argument = none

def Group.Fits (g : Group) (rest : List String) : Prop :=
  match g with
  | list none => Nameless rest
  | file path => looksLikeOption path = false
  | _ => True

def Group.take (options : Options) : Group → Except Fault Options
  | file path => options.withOther path
  | g => .ok (g.put options)

def optionNames : List String := ["--raw", "--list", "--help-setting"]

theorem add_list (category : Option Category) {rest : List String}
    (fits : (list category).Fits rest) (options : Options) :
    options.add ((list category).arguments ++ rest) =
      { options with list := some category }.add rest := by
  cases category with
  | none =>
      cases rest with
      | nil => rfl
      | cons argument rest =>
          have nameless : Category.ofName? argument = none := fits argument rfl
          show options.add ("--list" :: argument :: rest) = _
          rw [Options.add, nameless]
  | some category =>
      show options.add ("--list" :: category.name :: rest) = _
      rw [Options.add, ofName?_name]

theorem add_other {argument : String} (other : argument ∉ optionNames) (rest : List String)
    (options : Options) : options.add (argument :: rest) =
      options.withOther argument >>= fun options => options.add rest := by
  simp only [optionNames, List.mem_cons, List.not_mem_nil, or_false, not_or] at other
  obtain ⟨notRaw, notList, notHelp⟩ := other
  exact Options.add.eq_7 options argument rest notRaw (fun _ _ same _ => notList same)
    (fun same _ => notList same) (fun _ _ same _ => notHelp same) (fun same _ => notHelp same)

theorem not_mem_optionNames {argument : String} (plain : looksLikeOption argument = false) :
    argument ∉ optionNames := by
  have table : ∀ name ∈ optionNames, looksLikeOption name = true := by decide
  intro member
  rw [table argument member] at plain
  cases plain

theorem add_group {rest : List String} (fits : g.Fits rest) (options : Options) :
    options.add (g.arguments ++ rest) = g.take options >>= fun options => options.add rest := by
  cases g with
  | raw => rfl
  | list category => exact add_list category fits options
  | helpSetting id => rfl
  | file path => exact add_other (not_mem_optionNames fits) rest options

theorem fits_of_clear {rest : List String} (clear : Clear (g :: groups))
    (last : groups = [] → g.Fits rest) : g.Fits (groups.flatMap arguments ++ rest) := by
  cases groups with
  | nil => exact last rfl
  | cons next groups =>
      cases g with
      | file path => exact clear.plain path List.mem_cons_self
      | list category =>
          cases category with
          | some category => trivial
          | none =>
              have kept := (List.isChain_cons.mp clear.apart).1 next rfl
              intro argument first
              cases next with
              | file path =>
                  cases first
                  exact Option.eq_none_iff_forall_ne_some.mpr fun category known =>
                    kept ⟨category, known⟩
              | list category => cases category <;> cases first <;> decide
              | _ => cases first; decide
      | _ => trivial

theorem Group.Clear.tail (clear : Clear (g :: groups)) : Clear groups where
  plain path member := clear.plain path (List.mem_cons_of_mem g member)
  apart := clear.apart.tail

theorem add_groups {rest : List String} (clear : Clear groups)
    (last : ∀ g ∈ groups.getLast?, g.Fits rest) (options : Options) :
    options.add (groups.flatMap arguments ++ rest) =
      groups.foldlM Group.take options >>= fun options => options.add rest := by
  induction groups generalizing options with
  | nil => rfl
  | cons g groups ih =>
      have fits := fits_of_clear clear fun none => last g (by rw [none]; rfl)
      have lastTail : ∀ g ∈ groups.getLast?, g.Fits rest := by
        intro g' final
        cases groups with
        | nil => cases final
        | cons next groups => exact last g' (by rwa [List.getLast?_cons_cons])
      rw [List.flatMap_cons, List.append_assoc, add_group fits, List.foldlM_cons, bind_assoc]
      exact congrArg _ (funext fun options => ih clear.tail lastTail options)

theorem take_file {path : String} (plain : looksLikeOption path = false)
    (free : options.file = none) : (file path).take options = .ok ((file path).put options) := by
  show options.withOther path = _
  rw [Options.withOther, if_neg (by simp [plain]), free]
  rfl

theorem take_eq_ok (taken : g.take options = .ok result) : result = g.put options ∧
    ∀ path, g = .file path → looksLikeOption path = false ∧ options.file = none := by
  cases g with
  | file path =>
      change options.withOther path = .ok result at taken
      unfold Options.withOther at taken
      split at taken
      · cases taken
      · rename_i plain
        split at taken
        · cases taken
        · rename_i free
          cases taken
          refine ⟨rfl, fun path' same => ?_⟩
          cases same
          exact ⟨by simpa using plain, free⟩
  | _ =>
      cases taken
      exact ⟨rfl, fun path same => by cases same⟩

theorem foldlM_take_eq_ok (taken : groups.foldlM Group.take options = .ok result) :
    result = groups.foldl put options := by
  induction groups generalizing options with
  | nil =>
      cases taken
      rfl
  | cons g groups ih =>
      rw [List.foldlM_cons, bind_eq_ok] at taken
      obtain ⟨next, first, taken⟩ := taken
      rw [List.foldl_cons, ← (take_eq_ok first).1]
      exact ih taken

theorem foldlM_take_of_distinct (distinct : (groups.map kind).Nodup)
    (plain : ∀ path, .file path ∈ groups → looksLikeOption path = false)
    (room : options.file = none ∨ ∀ path, .file path ∉ groups) :
    groups.foldlM Group.take options = .ok (groups.foldl put options) := by
  induction groups generalizing options with
  | nil => rfl
  | cons g groups ih =>
      rw [List.map_cons, List.nodup_cons] at distinct
      obtain ⟨alone, distinct⟩ := distinct
      have plainTail path (member : .file path ∈ groups) := plain path (List.mem_cons_of_mem g member)
      have taken : g.take options = .ok (g.put options) ∧
          ((g.put options).file = none ∨ ∀ path, .file path ∉ groups) := by
        cases g with
        | file path =>
            have free := room.resolve_right fun none => none path List.mem_cons_self
            exact ⟨take_file (plain path List.mem_cons_self) free,
              .inr fun path' member => alone (show Kind.file ∈ _ from
                List.mem_map_of_mem (f := kind) member)⟩
        | _ => exact ⟨rfl, room.imp_right fun none path member =>
            none path (List.mem_cons_of_mem _ member)⟩
      rw [List.foldlM_cons, taken.1]
      exact ih distinct plainTail taken.2

/-! ## Arguments that are understood -/

theorem Group.Clear.fits_nil (clear : Clear groups) (member : g ∈ groups) : g.Fits [] := by
  cases g with
  | file path => exact clear.plain path member
  | list category => cases category <;> simp [Fits, Nameless]
  | _ => trivial

theorem ofArguments_of_distinct (distinct : (groups.map kind).Nodup) (clear : Clear groups) :
    Options.ofArguments (groups.flatMap arguments) = .ok (groups.foldl put Options.none) := by
  have read := add_groups clear (fun _ last => clear.fits_nil (List.mem_of_getLast? last)) Options.none
  rw [List.append_nil, foldlM_take_of_distinct distinct clear.plain (.inl rfl)] at read
  rw [Options.ofArguments, read]
  exact Options.add.eq_1 _

theorem Group.Clear.cons (clear : Clear groups)
    (plain : ∀ path, g = .file path → looksLikeOption path = false)
    (apart : ∀ next ∈ groups.head?, ¬g.Swallows next) : Clear (g :: groups) where
  plain path member := by
    rcases List.mem_cons.mp member with same | member
    · exact plain path same.symm
    · exact clear.plain path member
  apart := List.isChain_cons.mpr ⟨apart, clear.apart⟩

theorem exists_groups_add {arguments : List String} (read : options.add arguments = .ok result) :
    ∃ groups, arguments = groups.flatMap Group.arguments ∧ Clear groups ∧
      result = groups.foldl put options := by
  fun_induction Options.add options arguments with
  | case1 options =>
      cases read
      exact ⟨[], rfl, ⟨by simp, .nil⟩, rfl⟩
  | case2 options rest ih =>
      obtain ⟨groups, rfl, clear, rfl⟩ := ih read
      exact ⟨.raw :: groups, rfl, clear.cons (by simp) (by simp [Swallows]), rfl⟩
  | case3 options category rest found known ih =>
      obtain ⟨groups, rfl, clear, rfl⟩ := ih read
      obtain rfl := name_of_ofName? known
      exact ⟨.list (some found) :: groups, rfl, clear.cons (by simp) (by simp [Swallows]), rfl⟩
  | case4 options category rest unknown ih =>
      obtain ⟨groups, whole, clear, rfl⟩ := ih read
      refine ⟨.list none :: groups, congrArg ("--list" :: ·) whole,
        clear.cons (by simp) fun next first swallowed => ?_, rfl⟩
      -- The group after the listing is no file with the name of a category.
      cases next with
      | file path =>
          obtain ⟨found, known⟩ := swallowed
          obtain ⟨others, rfl⟩ := List.head?_eq_some_iff.mp first
          cases whole
          rw [unknown] at known
          cases known
      | _ => exact swallowed
  | case5 options =>
      cases read
      exact ⟨[.list none], rfl, ⟨by simp, .singleton _⟩, rfl⟩
  | case6 options id rest ih =>
      obtain ⟨groups, rfl, clear, rfl⟩ := ih read
      exact ⟨.helpSetting id :: groups, rfl, clear.cons (by simp) (by simp [Swallows]), rfl⟩
  | case7 options => cases read
  | case8 options argument rest notRaw notList notList' notHelp notHelp' ih =>
      rw [bind_eq_ok] at read
      obtain ⟨next, first, read⟩ := read
      obtain ⟨groups, rfl, clear, rfl⟩ := ih next read
      obtain ⟨rfl, plain⟩ := take_eq_ok (g := .file argument) first
      exact ⟨.file argument :: groups, rfl,
        clear.cons (fun path same => (plain path same).1) (by simp [Swallows]), rfl⟩

theorem exists_place {before after : List String} {argument : String}
    (whole : groups.flatMap arguments = before ++ argument :: after) :
    ∃ first g others front back, groups = first ++ g :: others ∧
      g.arguments = front ++ argument :: back ∧ before = first.flatMap arguments ++ front ∧
      after = back ++ others.flatMap arguments := by
  induction groups generalizing before with
  | nil => simp at whole
  | cons g groups ih =>
      rw [List.flatMap_cons, List.append_eq_append_iff] at whole
      have later {before' : List String}
          (rest : groups.flatMap arguments = before' ++ argument :: after)
          (same : before = g.arguments ++ before') :
          ∃ first g' others front back, g :: groups = first ++ g' :: others ∧
            g'.arguments = front ++ argument :: back ∧ before = first.flatMap arguments ++ front ∧
            after = back ++ others.flatMap arguments := by
        obtain ⟨first, g', others, front, back, rfl, inside, rfl, rfl⟩ := ih rest
        exact ⟨g :: first, g', others, front, back, rfl, inside,
          by rw [same, List.flatMap_cons, List.append_assoc], rfl⟩
      rcases whole with ⟨before', same, rest⟩ | ⟨front, same, rest⟩
      · exact later rest same
      · cases front with
        | nil =>
            have start : groups.flatMap arguments = [] ++ argument :: after := rest.symm
            exact later start (by rw [same, List.append_nil, List.append_nil])
        | cons first back =>
            cases rest
            exact ⟨[], g, groups, before, back, rfl, same, rfl, rfl⟩

theorem place_cases {front back : List String} {argument : String}
    (inside : g.arguments = front ++ argument :: back) :
    (argument ∈ optionNames ∧ (argument = "--help-setting" → back ≠ [])) ∨ g = .file argument ∨
      (∃ category : Category, argument = category.name) ∨ front = ["--help-setting"] := by
  have first {name : String} {others : List String} (known : name ∈ optionNames)
      (whole : name :: others = argument :: back) (needs : name = "--help-setting" → others ≠ []) :
      argument ∈ optionNames ∧ (argument = "--help-setting" → back ≠ []) := by
    cases whole
    exact ⟨known, needs⟩
  cases front with
  | nil =>
      cases g with
      | raw => exact .inl (first (by decide) inside (by decide))
      | list category =>
          cases category <;> exact .inl (first (by decide) inside (by simp))
      | helpSetting id => exact .inl (first (by decide) inside (by simp))
      | file path =>
          cases inside
          exact .inr (.inl rfl)
  | cons name front =>
      cases g with
      | raw => simp [arguments] at inside
      | list category =>
          cases category with
          | none => simp [arguments] at inside
          | some category =>
              simp only [arguments, List.cons_append, List.cons.injEq, List.singleton_eq_append_iff]
                at inside
              obtain ⟨-, ⟨-, same, -⟩ | ⟨-, same⟩⟩ := inside
              · exact .inr (.inr (.inl ⟨category, same⟩))
              · cases same
      | helpSetting id =>
          simp only [arguments, List.cons_append, List.cons.injEq, List.singleton_eq_append_iff]
            at inside
          obtain ⟨rfl, ⟨rfl, -⟩ | ⟨-, same⟩⟩ := inside
          · exact .inr (.inr (.inr rfl))
          · cases same
      | file path => simp [arguments] at inside

theorem looksLikeOption_name (category : Category) : looksLikeOption category.name = false := by
  cases category <;> decide

/-! ## The order of groups -/

def ExpectsId (before : List String) : Prop :=
  ∃ groups, Clear groups ∧ before = groups.flatMap arguments ++ ["--help-setting"]

def Rejected (arguments : List String) : Prop :=
  ∃ fault, Options.ofArguments arguments = .error fault

structure GroupwiseReading : Prop where
  ordered : ∀ groups : List Group, (groups.map kind).Nodup → ∃ options : Options,
    options.Records groups ∧ ∀ order, order.Perm groups → Clear order →
      Options.ofArguments (order.flatMap arguments) = .ok options
  secondFile : ∀ groups first second rest, Clear (groups ++ [file second]) →
    .file first ∈ groups → Rejected ((groups ++ [file second]).flatMap arguments ++ rest)
  unknownOption : ∀ before argument after, looksLikeOption argument = true →
    argument ∉ optionNames → ¬ExpectsId before → Rejected (before ++ argument :: after)
  missingId : ∀ before, ¬ExpectsId before → Rejected (before ++ ["--help-setting"])
  accounted : ∀ arguments options, Options.ofArguments arguments = .ok options →
    ∃ groups, arguments = groups.flatMap Group.arguments ∧ Clear groups ∧ options.Records groups

theorem rejected_of_second {first second : String} {rest : List String}
    (clear : Clear (groups ++ [file second])) (member : .file first ∈ groups) :
    Rejected ((groups ++ [file second]).flatMap arguments ++ rest) := by
  cases read : Options.ofArguments ((groups ++ [file second]).flatMap arguments ++ rest) with
  | error fault => exact ⟨fault, read⟩
  | ok options =>
      have last : ∀ g ∈ (groups ++ [file second]).getLast?, g.Fits rest := by
        intro g final
        obtain rfl : file second = g := by simpa using final
        exact clear.plain second (by simp)
      rw [Options.ofArguments, add_groups clear last, bind_eq_ok] at read
      obtain ⟨_, read, -⟩ := read
      rw [List.foldlM_append, bind_eq_ok] at read
      obtain ⟨taken, read, added⟩ := read
      rw [List.foldlM_cons, bind_eq_ok] at added
      obtain ⟨_, added, -⟩ := added
      -- The second file finds no room, since the first has been taken.
      have free := ((take_eq_ok added).2 second rfl).2
      obtain ⟨path, final⟩ := exists_last member
      rw [foldlM_take_eq_ok read, (writes_file.foldl_put_none rfl).mpr final] at free
      cases free

theorem rejected_of_place {before after : List String} {argument : String}
    (misplaced : ∀ (g : Group) front back, g.arguments = front ++ argument :: back →
      (∀ path, g = .file path → looksLikeOption path = false) → (after = [] → back = []) →
      front = ["--help-setting"])
    (unexpected : ¬ExpectsId before) : Rejected (before ++ argument :: after) := by
  cases read : Options.ofArguments (before ++ argument :: after) with
  | error fault => exact ⟨fault, read⟩
  | ok options =>
      obtain ⟨groups, whole, clear, -⟩ := exists_groups_add read
      obtain ⟨first, g, others, front, back, rfl, inside, rfl, rfl⟩ := exists_place whole.symm
      have plain path (same : g = .file path) : looksLikeOption path = false :=
        clear.plain path (by simp [same])
      obtain rfl := misplaced g front back inside plain fun none =>
        (List.append_eq_nil_iff.mp none).1
      exact absurd ⟨first, ⟨fun path member => clear.plain path (by simp [member]),
        clear.apart.left_of_append⟩, rfl⟩ unexpected

theorem ofArguments_groupwise : GroupwiseReading where
  ordered groups distinct := by
    refine ⟨groups.foldl put Options.none, records_foldl_put groups, fun order same clear => ?_⟩
    rw [← foldl_put_perm distinct same]
    exact ofArguments_of_distinct ((same.map kind).nodup_iff.mpr distinct) clear
  secondFile groups first second rest := rejected_of_second
  unknownOption before argument after form unknown := by
    refine rejected_of_place fun g front back inside plain _ => ?_
    rcases place_cases inside with ⟨known, -⟩ | same | ⟨category, rfl⟩ | expected
    · exact absurd known unknown
    · simp [plain argument same] at form
    · simp [looksLikeOption_name] at form
    · exact expected
  missingId before := by
    have form : looksLikeOption "--help-setting" = true := by decide
    refine rejected_of_place fun g front back inside plain last => ?_
    rcases place_cases inside with ⟨-, needs⟩ | same | ⟨category, name⟩ | expected
    · exact absurd (last rfl) (needs rfl)
    · simp [plain _ same] at form
    · simp [name, looksLikeOption_name] at form
    · exact expected
  accounted arguments options read := by
    obtain ⟨groups, whole, clear, rfl⟩ := exists_groups_add read
    exact ⟨groups, whole, clear, records_foldl_put groups⟩

example : Options.ofArguments ["--help-setting", "--raw", "grid", "--list"] =
    Options.ofArguments ["--list", "--help-setting", "--raw", "grid"] := by decide

end PlotMarkup.CommandLine
