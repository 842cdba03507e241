import PlotMarkup.Proofs.Expr.Literals

namespace PlotMarkup

namespace Token

variable {t : Token} {lexeme front more : List Char}

theorem Ends.of_append {kind : Char → Bool} (ends : Ends kind (front ++ more)) :
    Ends kind front := by
  intro c first
  cases front with
  | nil => cases first
  | cons c front =>
      cases first
      exact ends c rfl

theorem Exponent.exists_append {exponent rest : List Char} (complete : Exponent exponent rest)
    (more : List Char) :
    ∃ exponent' rest', exponent ++ (rest ++ more) = exponent' ++ rest' ∧
      Exponent exponent' rest' := by
  cases complete with
  | @mk sign digits _ signed nonempty all ends =>
      cases rest with
      | cons c rest =>
          refine ⟨sign ++ digits, c :: rest ++ more, rfl, .mk signed nonempty all ?_⟩
          intro c first
          cases first
          exact ends c rfl
      | nil =>
          refine ⟨sign ++ (digits ++ more.takeWhile Char.isDigit), more.dropWhile Char.isDigit, ?_,
            .mk signed (List.append_ne_nil_of_left_ne_nil nonempty _) ?_ (ends_dropWhile _ _)⟩
          · rw [List.nil_append, List.append_assoc, List.append_assoc, List.append_assoc,
              List.takeWhile_append_dropWhile]
          · exact List.forall_mem_append.mpr ⟨all, fun c => List.mem_takeWhile_imp⟩

theorem PowerPart.of_append {written literal : List Char}
    (part : PowerPart written literal (front ++ more)) : PowerPart written literal front := by
  cases part with
  | none ends incomplete =>
      refine .none ends.of_append ?_
      rintro mark exponent rest rfl marked complete
      obtain ⟨exponent', rest', same, complete'⟩ := complete.exists_append more
      refine incomplete mark exponent' rest' ?_ marked complete'
      rw [← same, List.cons_append, List.append_assoc]
  | some marked complete =>
      cases complete with
      | mk signed nonempty all ends => exact .some marked (.mk signed nonempty all ends.of_append)

theorem Lexeme.of_append (found : Lexeme t lexeme (front ++ more)) : Lexeme t lexeme front := by
  cases found with
  | symbol known => exact .symbol known
  | number nonempty all part read finite => exact .number nonempty all part.of_append read finite
  | name starts all ends => exact .name starts all ends.of_append

end Token

namespace Expr

open Token

theorem byteLength_pos {cs : List Char} (nonempty : cs ≠ []) : 0 < byteLength cs := by
  obtain ⟨c, cs, rfl⟩ := List.exists_cons_of_ne_nil nonempty
  exact Nat.add_pos_left c.utf8Size_pos _

theorem utf8ByteSize_ofList (cs : List Char) : (String.ofList cs).utf8ByteSize = byteLength cs := by
  induction cs with
  | nil => rfl
  | cons c cs ih =>
      rw [← List.singleton_append, String.ofList_append, String.utf8ByteSize_append, ih,
        byteLength_append, ← String.singleton_eq_ofList, String.utf8ByteSize_singleton]
      rfl

structure Segment where
  located : Located
  lexeme : List Char
  space : List Char

def Segment.chars (s : Segment) : List Char :=
  s.lexeme ++ s.space

structure Segmented (offset : Nat) (cs space : List Char) (segments : List Segment) : Prop where
  whole : cs = space ++ segments.flatMap Segment.chars
  blank : ∀ c ∈ space, Text.isBlank c = true
  blanks : ∀ s ∈ segments, ∀ c ∈ s.space, Text.isBlank c = true
  placed : ∀ before s after, segments = before ++ s :: after →
    s.located.offset = offset + byteLength (space ++ before.flatMap Segment.chars) ∧
      Lexeme s.located.token s.lexeme (s.space ++ after.flatMap Segment.chars)

theorem Segmented.nil {offset : Nat} : Segmented offset [] [] [] where
  whole := rfl
  blank := List.forall_mem_nil _
  blanks := List.forall_mem_nil _
  placed := by simp

theorem Segmented.cons_blank {offset : Nat} {c : Char} {cs space : List Char}
    {segments : List Segment} (blank : Text.isBlank c = true)
    (others : Segmented (offset + c.utf8Size) cs space segments) :
    Segmented offset (c :: cs) (c :: space) segments where
  whole := congrArg _ others.whole
  blank := List.forall_mem_cons.mpr ⟨blank, others.blank⟩
  blanks := others.blanks
  placed before s after split := by
    obtain ⟨place, found⟩ := others.placed before s after split
    refine ⟨place.trans ?_, found⟩
    rw [List.cons_append, Nat.add_assoc]
    rfl

theorem Segmented.cons_lexeme {offset : Nat} {t : Token} {lexeme rest space : List Char}
    {segments : List Segment} (found : Lexeme t lexeme rest)
    (others : Segmented (offset + byteLength lexeme) rest space segments) :
    Segmented offset (lexeme ++ rest) [] (⟨⟨t, offset⟩, lexeme, space⟩ :: segments) where
  whole := by
    rw [others.whole, List.nil_append, List.flatMap_cons, Segment.chars, List.append_assoc]
  blank := List.forall_mem_nil _
  blanks := List.forall_mem_cons.mpr ⟨others.blank, others.blanks⟩
  placed before s after split := by
    cases before with
    | nil =>
        cases split
        exact ⟨rfl, others.whole ▸ found⟩
    | cons first before =>
        cases split
        obtain ⟨place, found⟩ := others.placed before s after rfl
        refine ⟨place.trans ?_, found⟩
        rw [List.nil_append, List.flatMap_cons, Segment.chars, List.append_assoc,
          byteLength_append lexeme, Nat.add_assoc]

theorem Scans.exists_segments {offset : Nat} {cs : List Char} {ts : List Located}
    (scans : Scans offset cs ts) : ∃ space segments,
      segments.map Segment.located = ts ∧ Segmented offset cs space segments := by
  induction scans with
  | nil => exact ⟨[], [], rfl, .nil⟩
  | blank blank _ ih =>
      obtain ⟨space, segments, same, segmented⟩ := ih
      exact ⟨_, segments, same, segmented.cons_blank blank⟩
  | lexeme found _ ih =>
      obtain ⟨space, segments, same, segmented⟩ := ih
      exact ⟨[], _, congrArg _ same, segmented.cons_lexeme found⟩

theorem Segmented.exists_split {offset : Nat} {cs space : List Char} {segments : List Segment}
    (segmented : Segmented offset cs space segments) {s : Segment} (member : s ∈ segments) :
    ∃ front rest, cs = front ++ rest ∧ rest ≠ [] ∧ s.located.offset = offset + byteLength front := by
  obtain ⟨before, after, split⟩ := List.append_of_mem member
  obtain ⟨place, found⟩ := segmented.placed before s after split
  refine ⟨space ++ before.flatMap Segment.chars, (s :: after).flatMap Segment.chars, ?_, ?_, place⟩
  · rw [segmented.whole, split, List.flatMap_append, List.append_assoc]
  · rw [List.flatMap_cons, Segment.chars, List.append_assoc]
    exact List.append_ne_nil_of_left_ne_nil found.ne_nil _

theorem Scans.offset_le {offset : Nat} {cs : List Char} {ts : List Located}
    (scans : Scans offset cs ts) : ∀ t ∈ ts, offset ≤ t.offset := by
  obtain ⟨space, segments, rfl, segmented⟩ := scans.exists_segments
  refine List.forall_mem_map.mpr fun s member => ?_
  obtain ⟨front, rest, -, -, place⟩ := segmented.exists_split member
  exact place ▸ Nat.le_add_right _ _

theorem Scans.increasing {offset : Nat} {cs : List Char} {ts : List Located}
    (scans : Scans offset cs ts) : (ts.map Located.offset).Pairwise (· < ·) := by
  induction scans with
  | nil => exact .nil
  | blank _ _ ih => exact ih
  | lexeme found others ih =>
      refine .cons (List.forall_mem_map.mpr fun t member => ?_) ih
      exact (Nat.lt_add_of_pos_right (byteLength_pos found.ne_nil)).trans_le
        (others.offset_le t member)

theorem isValid_of_split {text : String} {front rest : List Char}
    (whole : text.toList = front ++ rest) :
    String.Pos.Raw.IsValid text ⟨byteLength front⟩ := by
  refine String.Pos.Raw.isValid_iff_exists_append.mpr
    ⟨String.ofList front, String.ofList rest, ?_, ?_⟩
  · rw [← String.ofList_append, ← whole, String.ofList_toList]
  · rw [← utf8ByteSize_ofList]
    rfl

theorem lt_utf8ByteSize_of_split {text : String} {front rest : List Char}
    (whole : text.toList = front ++ rest) (nonempty : rest ≠ []) :
    byteLength front < text.utf8ByteSize := by
  rw [← String.ofList_toList (s := text), whole, utf8ByteSize_ofList, byteLength_append]
  exact Nat.lt_add_of_pos_right (byteLength_pos nonempty)

theorem exists_blocked {offset : Nat} {cs : List Char} {e : SyntaxError}
    (failed : tokensFrom offset cs = .error e) : ∃ front rest ts, cs = front ++ rest ∧
      Scans offset front ts ∧ Blocked (offset + byteLength front) rest e := by
  -- as for texts that are read, the induction is on the length
  induction length : cs.length using Nat.strong_induction_on generalizing offset cs with
  | h n ih =>
      subst length
      cases cs with
      | nil =>
          rw [tokensFrom] at failed
          cases failed
      | cons c cs =>
          rcases cases_cons offset c cs with
            blank | ⟨t, lexeme, rest, whole, found⟩ | ⟨e', failed', blocked⟩
          · rw [tokensFrom_blank blank] at failed
            obtain ⟨front, rest, ts, rfl, scans, blocked⟩ :=
              ih cs.length (Nat.lt_succ_self _) failed rfl
            refine ⟨c :: front, rest, ts, rfl, .blank blank scans, ?_⟩
            rwa [Nat.add_assoc] at blocked
          · have shorter : rest.length < (lexeme ++ rest).length := by
              rw [List.length_append]
              exact Nat.lt_add_of_pos_left (List.length_pos_iff.mpr found.ne_nil)
            rw [whole] at ih failed ⊢
            rw [tokensFrom_lexeme found] at failed
            have failed := (bind_eq_error.mp failed).resolve_right (by rintro ⟨_, _, ⟨⟩⟩)
            obtain ⟨front, rest, ts, rfl, scans, blocked⟩ := ih rest.length shorter failed rfl
            refine ⟨lexeme ++ front, rest, _, (List.append_assoc _ _ _).symm,
              .lexeme found.of_append scans, ?_⟩
            rwa [byteLength_append, ← Nat.add_assoc]
          · rw [failed'] at failed
            cases failed
            exact ⟨[], c :: cs, [], rfl, .nil, blocked⟩

structure Lossless (text : String) (ts : List Located) : Prop where
  segmented : ∃ space segments, segments.map Segment.located = ts ∧
    Segmented 0 text.toList space segments ∧
    ∀ s ∈ segments, ∀ value, s.located.token = .number value →
      Number.read? (String.ofList s.lexeme) = some value ∧ value.isFinite = true ∧ 0 ≤ value
  increasing : (ts.map Located.offset).Pairwise (· < ·)
  boundary : ∀ t ∈ ts, String.Pos.Raw.IsValid text ⟨t.offset⟩ ∧ t.offset < text.utf8ByteSize

/-- How a text and the error it is rejected with go together: what is before the place that blocks
reading is read. -/
def Halted (text : String) (e : SyntaxError) : Prop :=
  ∃ front rest ts, text.toList = front ++ rest ∧ tokens (String.ofList front) = .ok ts ∧
    Blocked (byteLength front) rest e

theorem lossless_of_tokens {text : String} {ts : List Located} (read : tokens text = .ok ts) :
    Lossless text ts := by
  have scans := tokensFrom_eq_ok.mp read
  obtain ⟨space, segments, rfl, segmented⟩ := scans.exists_segments
  refine ⟨⟨space, segments, rfl, segmented, fun s member value number => ?_⟩, scans.increasing,
    List.forall_mem_map.mpr fun s member => ?_⟩
  · obtain ⟨before, after, split⟩ := List.append_of_mem member
    have found := (segmented.placed before s after split).2
    rw [number] at found
    exact found.reading
  · obtain ⟨front, rest, whole, nonempty, place⟩ := segmented.exists_split member
    rw [place, Nat.zero_add]
    exact ⟨isValid_of_split whole, lt_utf8ByteSize_of_split whole nonempty⟩

theorem halted_of_tokens {text : String} {e : SyntaxError} (failed : tokens text = .error e) :
    Halted text e := by
  obtain ⟨front, rest, ts, whole, scans, blocked⟩ := exists_blocked failed
  refine ⟨front, rest, ts, whole, ?_, Nat.zero_add (byteLength front) ▸ blocked⟩
  rw [tokens, String.toList_ofList]
  exact scans.tokensFrom

/-- Tokens keep everything of a text but the extent of its white space, and an error tells where
reading stopped. -/
theorem tokens_lossless (text : String) :
    (∀ ts, tokens text = .ok ts → Lossless text ts) ∧
      ∀ e, tokens text = .error e → Halted text e :=
  ⟨fun _ => lossless_of_tokens, fun _ => halted_of_tokens⟩

example : tokens "2E+1e +π" = .ok [⟨.number 20, 0⟩, ⟨.name "e", 4⟩, ⟨.operator .add, 6⟩,
    ⟨.name "π", 7⟩] := by
  decide +kernel

end Expr

end PlotMarkup
