import PlotMarkup.Json.Reader
import PlotMarkup.Json.Record
import PlotMarkup.Proofs.Number.Range
import PlotMarkup.Proofs.Outcome

namespace PlotMarkup.Json

open Number

theorem isFinite_ofDecimal {places : Int} (nonneg : 0 ≤ places) (most : places ≤ 308) :
    (ofDecimal 1 places).isFinite = true := by
  obtain ⟨count, rfl⟩ := Int.eq_ofNat_of_zero_le nonneg
  rcases Nat.eq_zero_or_pos count with rfl | pos
  · decide +kernel
  · exact isFinite_of_atLeastTwo (atLeastTwo_ofDecimal pos (by omega))

theorem isFinite_div_ofDecimal {x : Float} {places : Int} (finite : x.isFinite = true)
    (pos : 0 < places) (most : places ≤ 308) : (x / ofDecimal 1 places).isFinite = true := by
  obtain ⟨count, rfl⟩ := Int.eq_ofNat_of_zero_le pos.le
  exact isFinite_div finite (atLeastTwo_ofDecimal (by omega) (by omega))

theorem isFinite_scale? {x y : Float} {exponent : Int} (finite : x.isFinite = true)
    (scaled : scale? x exponent = some y) : y.isFinite = true := by
  fun_induction scale? x exponent with
  | case1 =>
      cases scaled
      exact finite
  | case2 => cases scaled
  | case3 => cases scaled
  | case4 x exponent small nonneg product inside =>
      obtain rfl := Option.some.inj scaled
      have power := isFinite_ofDecimal nonneg (by omega)
      exact isFinite_mul_of_not_isInf finite power (Bool.not_eq_true _ ▸ inside)
  | case5 x exponent _ negative _ =>
      cases scaled
      exact isFinite_div_ofDecimal finite (by omega) (by omega)
  | case6 =>
      cases scaled
      exact finite
  | case7 x exponent _ _ _ _ step =>
      exact step (isFinite_div_ofDecimal finite (by decide) (by decide)) scaled

/-- All numbers of a value are finite, those without a point among them below `2 ^ 64`. -/
inductive Finite : Json → Prop
  | null : Finite .null
  | bool (value : Bool) : Finite (.bool value)
  | integer {value : Int} (small : value.natAbs < 2 ^ 64) : Finite (.integer value)
  | real {value : Float} (finite : value.isFinite = true) : Finite (.real value)
  | text (value : String) : Finite (.text value)
  | array {items : List Json} (all : ∀ item ∈ items, Finite item) : Finite (.array items)
  | object {fields : List (String × Json)} (all : ∀ field ∈ fields, Finite field.2) :
      Finite (.object fields)
  | malformed : Finite .malformed

theorem Finite.number? {value : Json} {x : Float} (all : value.Finite)
    (number : value.number? = some x) : x.isFinite = true := by
  cases all with
  | integer small =>
      cases number
      split
      · exact isFinite_neg (isFinite_ofNat small)
      · exact isFinite_ofNat small
  | real finite =>
      cases number
      exact finite
  | _ => cases number

theorem Significand.extended?_lt {s : Significand} {digit : Char} {value : Nat}
    (extended : s.extended? digit = some value) : value < 2 ^ 64 := by
  unfold extended? at extended
  simp only [Option.ite_none_right_eq_some, Option.some.injEq] at extended
  obtain ⟨small, rfl⟩ := extended
  exact small

section

-- Unfolding the bound of `extended?` would evaluate it.
attribute [local irreducible] Significand.extended?

theorem Significand.addWhole_cons (s : Significand) (digit : Char) (rest : List Char) :
    s.addWhole (digit :: rest) =
      match s.extended? digit with
      | some value => Significand.addWhole ⟨value, 0⟩ rest
      | none => ⟨s.value, rest.length + 1⟩ :=
  rfl

theorem Significand.addFraction_cons (s : Significand) (digit : Char) (rest : List Char) :
    s.addFraction (digit :: rest) =
      match s.extended? digit with
      | some value => Significand.addFraction ⟨value, s.exponent - 1⟩ rest
      | none => s :=
  rfl

end

theorem Significand.addWhole_lt {s : Significand} (small : s.value < 2 ^ 64) (digits : List Char) :
    (s.addWhole digits).value < 2 ^ 64 := by
  induction digits generalizing s with
  | nil => exact small
  | cons digit rest step =>
      rw [addWhole_cons]
      split
      · rename_i value extended
        exact step (extended?_lt extended)
      · exact small

theorem Significand.addFraction_lt {s : Significand} (small : s.value < 2 ^ 64)
    (digits : List Char) : (s.addFraction digits).value < 2 ^ 64 := by
  induction digits generalizing s with
  | nil => exact small
  | cons digit rest step =>
      rw [addFraction_cons]
      split
      · rename_i value extended
        exact step (extended?_lt extended)
      · exact small

theorem finite_realValue (negative : Bool) {s : Significand} (small : s.value < 2 ^ 64)
    (exponent : Int) : (realValue negative s exponent).Finite := by
  unfold realValue
  split
  · rename_i x scaled
    have finite := isFinite_scale? (isFinite_ofNat small) scaled
    cases negative with
    | true => exact .real (isFinite_neg finite)
    | false => exact .real finite
  · exact .malformed

theorem finite_wholeValue (negative : Bool) {value : Nat} (small : value < 2 ^ 64) :
    (wholeValue negative value).Finite := by
  unfold wholeValue
  split
  · exact .integer small
  · split
    · exact .integer (by rwa [Int.natAbs_neg])
    · exact .real (isFinite_neg (isFinite_ofNat small))

theorem finite_readMagnitude? {negative : Bool} {cs rest : List Char} {value : Json}
    (read : readMagnitude? negative cs = some (value, rest)) : value.Finite := by
  unfold readMagnitude? at read
  dsimp only at read
  have small := Significand.addWhole_lt (s := ⟨0, 0⟩) (by decide) (splitDigits cs).1
  split at read
  · cases read
  · obtain ⟨⟨fraction, _⟩, -, read⟩ := Option.bind_eq_some_iff.mp read
    obtain ⟨⟨exponent, _⟩, -, read⟩ := Option.bind_eq_some_iff.mp read
    dsimp only at read
    split at read
    · cases read
      exact finite_wholeValue negative small
    · cases read
      exact finite_realValue negative (Significand.addFraction_lt small fraction) _

theorem finite_readNumber? {cs rest : List Char} {value : Json}
    (read : readNumber? cs = some (value, rest)) : value.Finite := by
  unfold readNumber? at read
  split at read <;> exact finite_readMagnitude? read

def Token.Finite : Token → Prop
  | .literal value => value.Finite
  | _ => True

theorem Token.finite_read? {c : Char} {cs rest : List Char} {token : Token}
    (read : Token.read? c cs = some (token, rest)) : token.Finite := by
  unfold Token.read? at read
  split at read
  case h_7 =>
    obtain ⟨_, -, same⟩ := Option.map_eq_some_iff.mp read
    cases same
    trivial
  case h_11 =>
    obtain ⟨_, number, same⟩ := Option.map_eq_some_iff.mp read
    cases same
    exact finite_readNumber? number
  case h_8 =>
    split at read
    · cases read
      exact .null
    · cases read
  case h_9 =>
    split at read
    · cases read
      exact .bool true
    · cases read
  case h_10 =>
    split at read
    · cases read
      exact .bool false
    · cases read
  all_goals
    cases read
    trivial

theorem finite_tokens? {cs : List Char} {ts : List Token} (lexed : tokens? cs = some ts) :
    ∀ token ∈ ts, token.Finite := by
  fun_induction tokens? cs generalizing ts with
  | case1 =>
      cases lexed
      exact fun token member => absurd member List.not_mem_nil
  | case2 c rest _ step => exact step lexed
  | case3 c rest _ token after read _ step =>
      obtain ⟨tokens, tail, rfl⟩ := Option.map_eq_some_iff.mp lexed
      exact List.forall_mem_cons.mpr ⟨Token.finite_read? read, step tail⟩
  | case4 => cases lexed

def Frame.Finite : Frame → Prop
  | .array items => ∀ item ∈ items, item.Finite
  | .object fields _ => ∀ field ∈ fields, field.2.Finite

def State.Finite : State → Prop
  | .done result => result.Finite
  | .value outer => ∀ frame ∈ outer, frame.Finite
  | .openedArray outer => ∀ frame ∈ outer, frame.Finite
  | .afterItem items outer => (∀ item ∈ items, item.Finite) ∧ ∀ frame ∈ outer, frame.Finite
  | .openedObject outer => ∀ frame ∈ outer, frame.Finite
  | .nextKey fields outer => (∀ field ∈ fields, field.2.Finite) ∧ ∀ frame ∈ outer, frame.Finite
  | .afterKey fields _ outer =>
      (∀ field ∈ fields, field.2.Finite) ∧ ∀ frame ∈ outer, frame.Finite
  | .afterField fields outer =>
      (∀ field ∈ fields, field.2.Finite) ∧ ∀ frame ∈ outer, frame.Finite

theorem finite_textValue (value : Option String) : (textValue value).Finite := by
  cases value with
  | none => exact .malformed
  | some value => exact .text value

theorem finite_objectValue {fields : List (Option String × Json)}
    (all : ∀ field ∈ fields, field.2.Finite) : (objectValue fields).Finite := by
  unfold objectValue
  split
  · rename_i kept same
    refine .object fun field member => ?_
    obtain ⟨origin, inside, same⟩ := mem_of_mapM same member
    obtain ⟨key, -, rfl⟩ := Option.map_eq_some_iff.mp same
    exact all origin inside
  · exact .malformed

theorem finite_complete {value : Json} {outer : List Frame} (all : value.Finite)
    (frames : ∀ frame ∈ outer, frame.Finite) : (complete value outer).Finite := by
  cases outer with
  | nil => exact all
  | cons frame outer =>
      obtain ⟨inner, outside⟩ := List.forall_mem_cons.mp frames
      cases frame with
      | array items => exact ⟨List.forall_mem_cons.mpr ⟨all, inner⟩, outside⟩
      | object fields key => exact ⟨List.forall_mem_cons.mpr ⟨all, inner⟩, outside⟩

theorem finite_start {outer : List Frame} {token : Token} {next : State}
    (frames : ∀ frame ∈ outer, frame.Finite) (finite : token.Finite)
    (step : start outer token = some next) : next.Finite := by
  cases token with
  | openBrace => cases step; exact frames
  | openBracket => cases step; exact frames
  | text value =>
      cases step
      exact finite_complete (finite_textValue value) frames
  | literal value =>
      cases step
      exact finite_complete finite frames
  | _ => cases step

theorem finite_step {state next : State} {token : Token} (all : state.Finite)
    (finite : token.Finite) (step : state.step token = some next) : next.Finite := by
  unfold State.step at step
  split at step
  · exact finite_start all finite step
  · cases step
    exact finite_complete (.array (by simp)) all
  · exact finite_start (List.forall_mem_cons.mpr ⟨by simp [Frame.Finite], all⟩) finite step
  · cases step
    exact List.forall_mem_cons.mpr all
  · cases step
    exact finite_complete (.array fun item member => all.1 item (List.mem_reverse.mp member)) all.2
  · cases step
    exact finite_complete (.object (by simp)) all
  · cases step
    exact ⟨by simp, all⟩
  · cases step
    exact all
  · cases step
    exact List.forall_mem_cons.mpr all
  · cases step
    exact all
  · cases step
    exact finite_complete
      (finite_objectValue fun field member => all.1 field (List.mem_reverse.mp member)) all.2
  · cases step

theorem finite_run {state last : State} {ts : List Token} (all : state.Finite)
    (finite : ∀ token ∈ ts, token.Finite) (run : ts.foldlM State.step state = some last) :
    last.Finite := by
  induction ts generalizing state with
  | nil =>
      cases run
      exact all
  | cons token ts step =>
      obtain ⟨head, tail⟩ := List.forall_mem_cons.mp finite
      rw [List.foldlM_cons] at run
      obtain ⟨next, first, run⟩ := Option.bind_eq_some_iff.mp run
      exact step (finite_step all head first) tail run

theorem finite_of_read? {text : String} {value : Json} (read : read? text = some value) :
    value.Finite := by
  obtain ⟨ts, lexed, read⟩ := Option.bind_eq_some_iff.mp read
  obtain ⟨last, run, read⟩ := Option.bind_eq_some_iff.mp read
  have none : State.Finite (.value []) := fun _ member => absurd member List.not_mem_nil
  have all := finite_run none (finite_tokens? lexed) run
  split at read
  · cases read
    exact all
  · cases read

theorem finite_field? {fields : List (String × Json)} {name : String} {part : Option Json}
    {value : Json} (all : ∀ field ∈ fields, field.2.Finite) (found : field? fields name = some part)
    (present : value ∈ part) : value.Finite := by
  unfold field? at found
  split at found
  · cases found
    cases present
  · rename_i only
    cases found
    cases present
    have member : _ ∈ fields.filter (·.1 == name) := only ▸ List.mem_singleton_self _
    exact all _ (List.mem_of_mem_filter member)
  · cases found

theorem finite_record? {names : List String} {least : Nat} {record value : Json}
    {parts : List (Option Json)} {part : Option Json} (all : record.Finite)
    (found : record? names least record = some parts) (member : part ∈ parts)
    (present : value ∈ part) : value.Finite := by
  unfold record? at found
  split at found
  · cases all with
    | object all =>
        obtain ⟨name, -, found⟩ := mem_of_mapM found member
        exact finite_field? all found present
  · cases all with
    | array all =>
        split at found
        · cases found
          rcases List.mem_append.mp member with given | missing
          · obtain ⟨item, inside, rfl⟩ := List.mem_map.mp given
            cases present
            exact all _ inside
          · rw [List.eq_of_mem_replicate missing] at present
            cases present
        · cases found
  · cases found

end PlotMarkup.Json
