import PlotMarkup.Proofs.Expr.Lexemes
import PlotMarkup.Proofs.Expr.Stuck

namespace PlotMarkup.Grammar

open PlotMarkup.Expr

mutual

theorem parseSigned_avoids (stop budget : Nat) (ts : List Located) {e : Expr}
    {rest : List Located} (parsed : parseSigned stop budget ts = .ok (e, rest)) :
    Avoids Signed.continuing (rest.map Located.token) := by
  cases budget with
  | zero =>
      rw [parseSigned] at parsed
      cases parsed
  | succ less =>
      rw [parseSigned.eq_def] at parsed
      simp only at parsed
      split at parsed
      · rename_i offset tail
        obtain ⟨⟨inner, rest'⟩, innerParsed, built⟩ := bind_eq_ok.mp parsed
        cases built
        exact parseSigned_avoids stop less tail innerParsed
      · rename_i offset tail
        exact parseSigned_avoids stop less tail parsed
      · exact parsePower_avoids stop less ts parsed
termination_by 6 * budget

theorem parsePower_avoids (stop budget : Nat) (ts : List Located) {e : Expr}
    {rest : List Located} (parsed : parsePower stop budget ts = .ok (e, rest)) :
    Avoids Signed.continuing (rest.map Located.token) := by
  rw [parsePower, bind_eq_ok] at parsed
  obtain ⟨⟨base, mid⟩, -, parsed⟩ := parsed
  simp only at parsed
  split at parsed
  · rename_i offset tail
    obtain ⟨⟨exponent, rest'⟩, exponentParsed, built⟩ := bind_eq_ok.mp parsed
    cases built
    exact parseSigned_avoids stop budget tail exponentParsed
  · rename_i noExponent
    cases parsed
    cases rest with
    | nil => exact avoids_nil _
    | cons found tail =>
        refine avoids_cons fun op mem token => ?_
        obtain rfl := List.mem_singleton.mp mem
        exact noExponent found.offset tail (by rw [← token])
termination_by 6 * budget + 5

end

mutual

theorem parseProductTail_avoids (stop budget : Nat) (left : Expr) (ts : List Located) {e : Expr}
    {rest : List Located} (ends : Avoids Signed.continuing (ts.map Located.token))
    (parsed : parseProductTail stop budget left ts = .ok (e, rest)) :
    Avoids Product.continuing (rest.map Located.token) := by
  cases ts with
  | nil =>
      rw [parseProductTail] at parsed
      cases parsed
      exact avoids_nil _
  | cons found tail =>
      rw [parseProductTail] at parsed
      split at parsed
      · exact parseProductNext_avoids stop budget left .mul tail parsed
      · exact parseProductNext_avoids stop budget left .div tail parsed
      · rename_i noTimes noDivide
        cases parsed
        intro op mem
        simp only [Product.continuing, List.mem_cons, List.not_mem_nil, or_false] at mem
        rcases mem with rfl | rfl | rfl
        · exact fun head => noTimes (Option.some.inj head)
        · exact fun head => noDivide (Option.some.inj head)
        · exact ends .pow (by decide)
termination_by 6 * budget + 1

theorem parseProductNext_avoids (stop budget : Nat) (left : Expr) (op : Operator)
    (ts : List Located) {e : Expr} {rest : List Located}
    (parsed : parseProductNext stop budget left op ts = .ok (e, rest)) :
    Avoids Product.continuing (rest.map Located.token) := by
  cases budget with
  | zero =>
      rw [parseProductNext] at parsed
      cases parsed
  | succ less =>
      rw [parseProductNext, bind_eq_ok] at parsed
      obtain ⟨⟨right, mid⟩, nextParsed, tailParsed⟩ := parsed
      exact parseProductTail_avoids stop less _ mid (parseSigned_avoids stop less ts nextParsed)
        tailParsed
termination_by 6 * budget

end

theorem parseProduct_avoids (stop budget : Nat) (ts : List Located) {e : Expr}
    {rest : List Located} (parsed : parseProduct stop budget ts = .ok (e, rest)) :
    Avoids Product.continuing (rest.map Located.token) := by
  rw [parseProduct, bind_eq_ok] at parsed
  obtain ⟨⟨left, mid⟩, firstParsed, tailParsed⟩ := parsed
  exact parseProductTail_avoids stop budget _ mid (parseSigned_avoids stop budget ts firstParsed)
    tailParsed

mutual

theorem parseSumTail_avoids (stop budget : Nat) (left : Expr) (ts : List Located) {e : Expr}
    {rest : List Located} (ends : Avoids Product.continuing (ts.map Located.token))
    (parsed : parseSumTail stop budget left ts = .ok (e, rest)) :
    Avoids Sum.continuing (rest.map Located.token) := by
  cases ts with
  | nil =>
      rw [parseSumTail] at parsed
      cases parsed
      exact avoids_nil _
  | cons found tail =>
      rw [parseSumTail] at parsed
      split at parsed
      · exact parseSumNext_avoids stop budget left .add tail parsed
      · exact parseSumNext_avoids stop budget left .sub tail parsed
      · rename_i noPlus noMinus
        cases parsed
        intro op mem
        rw [Sum.continuing, List.mem_cons, List.mem_cons] at mem
        rcases mem with rfl | rfl | mem
        · exact fun head => noPlus (Option.some.inj head)
        · exact fun head => noMinus (Option.some.inj head)
        · exact ends op mem
termination_by 6 * budget + 1

theorem parseSumNext_avoids (stop budget : Nat) (left : Expr) (op : Operator)
    (ts : List Located) {e : Expr} {rest : List Located}
    (parsed : parseSumNext stop budget left op ts = .ok (e, rest)) :
    Avoids Sum.continuing (rest.map Located.token) := by
  cases budget with
  | zero =>
      rw [parseSumNext] at parsed
      cases parsed
  | succ less =>
      rw [parseSumNext, bind_eq_ok] at parsed
      obtain ⟨⟨right, mid⟩, nextParsed, tailParsed⟩ := parsed
      exact parseSumTail_avoids stop less _ mid (parseProduct_avoids stop less ts nextParsed)
        tailParsed
termination_by 6 * budget

end

theorem parseSum_avoids (stop budget : Nat) (ts : List Located) {e : Expr}
    {rest : List Located} (parsed : parseSum stop budget ts = .ok (e, rest)) :
    Avoids Sum.continuing (rest.map Located.token) := by
  rw [parseSum, bind_eq_ok] at parsed
  obtain ⟨⟨left, mid⟩, firstParsed, tailParsed⟩ := parsed
  exact parseSumTail_avoids stop budget _ mid (parseProduct_avoids stop budget ts firstParsed)
    tailParsed

section

variable {stop budget : Nat} {e : SyntaxError} {ends ends' : List Operator} {L L' : Language Token}
  {ts rest : List Located} {expr : Expr}

theorem parseSum_reads (parsed : parseSum stop budget ts = .ok (expr, rest)) :
    ∃ w ∈ Sum.words, Reads w ts rest ∧ Avoids Sum.continuing (rest.map Located.token) := by
  obtain ⟨d, reads, -, -⟩ := parseSum_sound stop budget ts parsed
  exact ⟨d.word, ⟨d, rfl⟩, reads, parseSum_avoids stop budget ts parsed⟩

theorem parseProduct_reads (parsed : parseProduct stop budget ts = .ok (expr, rest)) :
    ∃ w ∈ Product.words, Reads w ts rest ∧
      Avoids Product.continuing (rest.map Located.token) := by
  obtain ⟨d, reads, -, -⟩ := parseProduct_sound stop budget ts parsed
  exact ⟨d.word, ⟨d, rfl⟩, reads, parseProduct_avoids stop budget ts parsed⟩

theorem parseSigned_reads (parsed : parseSigned stop budget ts = .ok (expr, rest)) :
    ∃ w ∈ Signed.words, Reads w ts rest ∧ Avoids Signed.continuing (rest.map Located.token) := by
  obtain ⟨d, reads, -, -⟩ := parseSigned_sound stop budget ts parsed
  exact ⟨d.word, ⟨d, rfl⟩, reads, parseSigned_avoids stop budget ts parsed⟩

theorem parsePrimary_reads (parsed : parsePrimary stop budget ts = .ok (expr, rest)) :
    ∃ w ∈ Primary.words, Reads w ts rest ∧ Avoids [] (rest.map Located.token) := by
  obtain ⟨d, reads, -, -⟩ := parsePrimary_sound stop budget ts parsed
  exact ⟨d.word, ⟨d, rfl⟩, reads, avoids_none _⟩

theorem Stuck.of_bind {first : Parsed} {next : Expr × List Located → Parsed}
    (failed : first >>= next = .error e) (marked : Marked ends' L) (parts : Parts ends ends' L')
    (inhabited : ∃ w, w ∈ L') (stuck : first = .error e → Stuck stop e ends' L ts)
    (reads : ∀ expr rest, first = .ok (expr, rest) →
      ∃ w ∈ L, Reads w ts rest ∧ Avoids ends' (rest.map Located.token))
    (stuck' : ∀ expr rest, next (expr, rest) = .error e → Stuck stop e ends L' rest) :
    Stuck stop e ends (L * L') ts := by
  rcases bind_eq_error.mp failed with failed | ⟨⟨expr, rest⟩, parsed, failed⟩
  · exact (stuck failed).left inhabited parts
  · obtain ⟨w, member, read, avoids⟩ := reads expr rest parsed
    exact .right read member marked parts avoids (stuck' expr rest failed)

theorem closeParen_stuck {ts : List Located} (failed : closeParen stop ts = .error e) :
    Stuck stop e [] {[.closeParen]} ts := by
  cases ts with
  | nil =>
      cases failed
      exact .start .parenEnding ⟨_, rfl⟩ (by simp)
  | cons found tail =>
      rw [closeParen] at failed
      split at failed
      · cases failed
      · rename_i other
        cases failed
        refine .start .paren ⟨_, rfl⟩ ?_
        rintro t next _ rfl r - head
        cases next
        exact other (Option.some.inj head).symm

theorem enclosed_stuck (build : Expr → Expr)
    (sumStuck : parseSum stop budget ts = .error e → Stuck stop e Sum.continuing Sum.words ts)
    (failed : (do let (sum, rest) ← parseSum stop budget ts
                  let rest ← closeParen stop rest
                  return (build sum, rest)) = Except.error e) :
    Stuck stop e [] Sum.closed ts := by
  refine .of_bind failed Sum.marked (parts_closeParen _) ⟨_, rfl⟩ sumStuck
    (fun _ _ => parseSum_reads) fun sum rest failed => closeParen_stuck ?_
  rcases bind_eq_error.mp failed with failed | ⟨_, _, failed⟩
  · exact failed
  · cases failed

end

mutual

theorem parseSum_stuck (stop budget : Nat) (ts : List Located) {e : SyntaxError}
    (failed : parseSum stop budget ts = .error e) (shallow : e ≠ .tooDeep) :
    Stuck stop e Sum.continuing Sum.words ts := by
  rw [Sum.words_eq]
  rw [parseSum] at failed
  exact .of_bind failed Product.marked SumRest.parts ⟨_, .nil, rfl⟩
    (fun failed => parseProduct_stuck stop budget ts failed shallow)
    (fun _ _ => parseProduct_reads)
    fun left rest failed => parseSumTail_stuck stop budget left rest failed shallow
termination_by 6 * budget + 3

theorem parseSumTail_stuck (stop budget : Nat) (left : Expr) (ts : List Located)
    {e : SyntaxError} (failed : parseSumTail stop budget left ts = .error e)
    (shallow : e ≠ .tooDeep) : Stuck stop e Sum.continuing SumRest.words ts := by
  cases ts with
  | nil =>
      rw [parseSumTail] at failed
      cases failed
  | cons found tail =>
      rw [parseSumTail] at failed
      split at failed
      · rename_i token
        exact SumRest.stuck_of_next .plus token
          (parseSumNext_stuck stop budget left .add tail failed shallow)
      · rename_i token
        exact SumRest.stuck_of_next .minus token
          (parseSumNext_stuck stop budget left .sub tail failed shallow)
      · cases failed
termination_by 6 * budget + 1

theorem parseSumNext_stuck (stop budget : Nat) (left : Expr) (op : Operator) (ts : List Located)
    {e : SyntaxError} (failed : parseSumNext stop budget left op ts = .error e)
    (shallow : e ≠ .tooDeep) :
    Stuck stop e Sum.continuing (Product.words * SumRest.words) ts := by
  cases budget with
  | zero =>
      rw [parseSumNext] at failed
      exact absurd (Except.error.inj failed).symm shallow
  | succ less =>
      rw [parseSumNext] at failed
      exact .of_bind failed Product.marked SumRest.parts ⟨_, .nil, rfl⟩
        (fun failed => parseProduct_stuck stop less ts failed shallow)
        (fun _ _ => parseProduct_reads)
        fun _ rest failed => parseSumTail_stuck stop less _ rest failed shallow
termination_by 6 * budget

theorem parseProduct_stuck (stop budget : Nat) (ts : List Located) {e : SyntaxError}
    (failed : parseProduct stop budget ts = .error e) (shallow : e ≠ .tooDeep) :
    Stuck stop e Product.continuing Product.words ts := by
  rw [Product.words_eq]
  rw [parseProduct] at failed
  exact .of_bind failed Signed.marked ProductRest.parts ⟨_, .nil, rfl⟩
    (fun failed => parseSigned_stuck stop budget ts failed shallow)
    (fun _ _ => parseSigned_reads)
    fun left rest failed => parseProductTail_stuck stop budget left rest failed shallow
termination_by 6 * budget + 2

theorem parseProductTail_stuck (stop budget : Nat) (left : Expr) (ts : List Located)
    {e : SyntaxError} (failed : parseProductTail stop budget left ts = .error e)
    (shallow : e ≠ .tooDeep) : Stuck stop e Product.continuing ProductRest.words ts := by
  cases ts with
  | nil =>
      rw [parseProductTail] at failed
      cases failed
  | cons found tail =>
      rw [parseProductTail] at failed
      split at failed
      · rename_i token
        exact ProductRest.stuck_of_next .times token
          (parseProductNext_stuck stop budget left .mul tail failed shallow)
      · rename_i token
        exact ProductRest.stuck_of_next .divide token
          (parseProductNext_stuck stop budget left .div tail failed shallow)
      · cases failed
termination_by 6 * budget + 1

theorem parseProductNext_stuck (stop budget : Nat) (left : Expr) (op : Operator)
    (ts : List Located) {e : SyntaxError}
    (failed : parseProductNext stop budget left op ts = .error e) (shallow : e ≠ .tooDeep) :
    Stuck stop e Product.continuing (Signed.words * ProductRest.words) ts := by
  cases budget with
  | zero =>
      rw [parseProductNext] at failed
      exact absurd (Except.error.inj failed).symm shallow
  | succ less =>
      rw [parseProductNext] at failed
      exact .of_bind failed Signed.marked ProductRest.parts ⟨_, .nil, rfl⟩
        (fun failed => parseSigned_stuck stop less ts failed shallow)
        (fun _ _ => parseSigned_reads)
        fun _ rest failed => parseProductTail_stuck stop less _ rest failed shallow
termination_by 6 * budget

theorem parseSigned_stuck (stop budget : Nat) (ts : List Located) {e : SyntaxError}
    (failed : parseSigned stop budget ts = .error e) (shallow : e ≠ .tooDeep) :
    Stuck stop e Signed.continuing Signed.words ts := by
  cases budget with
  | zero =>
      rw [parseSigned] at failed
      exact absurd (Except.error.inj failed).symm shallow
  | succ less =>
      rw [parseSigned.eq_def] at failed
      simp only at failed
      split at failed
      · rename_i offset tail
        refine Signed.stuck_of_sign .minus rfl ?_
        rcases bind_eq_error.mp failed with failed | ⟨_, _, failed⟩
        · exact parseSigned_stuck stop less tail failed shallow
        · cases failed
      · rename_i offset tail
        exact Signed.stuck_of_sign .plus rfl
          (parseSigned_stuck stop less tail failed shallow)
      · rename_i noMinus noPlus
        refine Signed.stuck_of_power (fun op => ?_) (parsePower_stuck stop less ts failed shallow)
        intro head
        obtain ⟨⟨token, offset⟩, first, rfl⟩ := Option.map_eq_some_iff.mp (List.head?_map ▸ head)
        obtain ⟨tail, rfl⟩ := List.head?_eq_some_iff.mp first
        cases op with
        | plus => exact noPlus _ _ rfl
        | minus => exact noMinus _ _ rfl
termination_by 6 * budget

theorem parsePower_stuck (stop budget : Nat) (ts : List Located) {e : SyntaxError}
    (failed : parsePower stop budget ts = .error e) (shallow : e ≠ .tooDeep) :
    Stuck stop e Signed.continuing Power.words ts := by
  rw [Power.words_eq]
  rw [parsePower] at failed
  refine .of_bind failed Primary.marked (parts_none _ _) ⟨[], .inl rfl⟩
    (fun failed => parsePrimary_stuck stop budget ts failed shallow)
    (fun _ _ => parsePrimary_reads) fun base rest failed => ?_
  simp only at failed
  split at failed
  · rename_i offset tail
    rcases bind_eq_error.mp failed with failed | ⟨_, _, failed⟩
    · exact Power.stuck_of_exponent rfl (parseSigned_stuck stop budget tail failed shallow)
    · cases failed
  · cases failed
termination_by 6 * budget + 5

theorem parsePrimary_stuck (stop budget : Nat) (ts : List Located) {e : SyntaxError}
    (failed : parsePrimary stop budget ts = .error e) (shallow : e ≠ .tooDeep) :
    Stuck stop e [] Primary.words ts := by
  rw [parsePrimary.eq_def] at failed
  split at failed
  · cases failed
  · rename_i offset tail
    exact Primary.stuck_of_group (enclosed_stuck id
      (fun failed => parseSum_stuck stop budget tail failed shallow) failed) rfl
  · rename_i name offset rest
    split at failed
    · cases failed
    · rename_i notVar
      split at failed
      · cases failed
      · rename_i notConstant
        split at failed
        · rename_i notFunction
          cases failed
          exact Primary.stuck_of_unknown notVar notConstant notFunction
        · rename_i function known
          obtain ⟨called, rfl, rfl⟩ := Builtin.exists_text known
          split at failed
          · rename_i offset' tail
            exact Primary.stuck_of_call (enclosed_stuck (.call _)
              (fun failed => parseSum_stuck stop budget tail failed shallow) failed) rfl
          · rename_i noArgument
            cases failed
            refine Primary.stuck_of_name fun t next token => ?_
            obtain ⟨tail, rfl⟩ := List.head?_eq_some_iff.mp next
            exact noArgument t.offset tail (by rw [← token])
  · rename_i noNumber noGroup noName
    cases failed
    exact Primary.stuck_of_other noNumber noGroup noName
termination_by 6 * budget + 4

end

def Viable (word : List Token) : Prop :=
  ∃ d : Sum, word <+: d.word

theorem parseTokens_eq_error {stop : Nat} {ts : List Located} {e : SyntaxError} (nonempty : ts ≠ [])
    (failed : parseTokens stop ts = .error e) (shallow : e ≠ .tooDeep) :
    ∃ front rest, ts = front ++ rest ∧ About stop e front rest ∧
      Viable (front.map Located.token) ∧
      ∀ t ∈ rest.head?, ¬ Viable (front.map Located.token ++ [t.token]) := by
  unfold parseTokens at failed
  split at failed
  · exact absurd rfl nonempty
  · rcases bind_eq_error.mp failed with failed | ⟨⟨expr, rest⟩, parsed, failed⟩
    · obtain ⟨about, ⟨more, d, word⟩, impossible⟩ := parseSum_stuck stop maxDepth ts failed shallow
      refine ⟨_, _, rfl, about, ⟨d, more, word.symm⟩, ?_⟩
      rintro t next ⟨d', reached⟩
      refine impossible t next d'.word ⟨d', rfl⟩ [] (avoids_nil _) ?_
      rwa [List.append_nil]
    · obtain ⟨_, ⟨d, rfl⟩, ⟨front, whole, word⟩, ends⟩ := parseSum_reads parsed
      split at failed
      · cases failed
      · rename_i rest' more same
        cases same
        cases failed
        cases rest with
        | nil => exact (more rfl).elim
        | cons found tail =>
            refine ⟨front, found :: tail, whole, .token, ⟨d, by rw [word]⟩, ?_⟩
            rintro t next ⟨d', s, same⟩
            cases next
            have split : d.word ++ found.token :: s = d'.word ++ [] := by
              simpa [word] using same
            have goesOn : Avoids Sum.continuing (found.token :: s) := ends.of_head rfl
            cases (d.prefix_unique d' split goesOn (avoids_nil _)).2

end PlotMarkup.Grammar

namespace PlotMarkup.Expr

open Grammar

def StandsIn (text : List Char) (offset : Nat) (t : Located) : Prop :=
  ∃ before lexeme after, text = before ++ (lexeme ++ after) ∧
    t.offset = offset + byteLength before ∧ Token.Lexeme t.token lexeme after

theorem Scans.standsIn {offset : Nat} {cs : List Char} {ts : List Located}
    (scans : Scans offset cs ts) {t : Located} (member : t ∈ ts) : StandsIn cs offset t := by
  induction scans with
  | nil => cases member
  | @blank offset c rest ts blank _ ih =>
      obtain ⟨before, lexeme, after, rfl, position, found⟩ := ih member
      exact ⟨c :: before, lexeme, after, rfl, by rw [position, Nat.add_assoc]; rfl, found⟩
  | @lexeme offset token lexeme rest ts found _ ih =>
      rcases List.mem_cons.mp member with rfl | member
      · exact ⟨[], lexeme, rest, rfl, rfl, found⟩
      · obtain ⟨before, lexeme', after, rfl, position, found'⟩ := ih member
        refine ⟨lexeme ++ before, lexeme', after, (List.append_assoc ..).symm, ?_, found'⟩
        rw [position, byteLength_append, Nat.add_assoc]

/--
A text that has tokens and is no expression, other than for its depth, is rejected at the first
token with which what precedes it begins no expression: the error is about that token, at its
offset in the text, or about the end of the text if all its tokens begin an expression.
-/
theorem parse_error_at_first_impossible {text : String} {ts : List Located} {e : SyntaxError}
    (read : tokens text = .ok ts) (nonempty : ts ≠ []) (failed : parse text = .error e)
    (shallow : e ≠ .tooDeep) :
    ∃ front rest, ts = front ++ rest ∧ About (byteLength text.toList) e front rest ∧
      Viable (front.map Located.token) ∧
      ∀ t ∈ rest.head?, ¬ Viable (front.map Located.token ++ [t.token]) ∧
        StandsIn text.toList 0 t := by
  rw [parse, read] at failed
  obtain ⟨front, rest, rfl, about, viable, impossible⟩ := parseTokens_eq_error nonempty failed shallow
  refine ⟨front, rest, rfl, about, viable, fun t next => ⟨impossible t next, ?_⟩⟩
  exact (scans_of_tokensFrom read).standsIn
    (List.mem_append_right front (List.mem_of_mem_head? next))

theorem parse_error_at_first_impossible_sin_x :
    tokens "sin x" = .ok [⟨.name "sin", 0⟩, ⟨.name "x", 4⟩] ∧
    parse "sin x" = .error (.missingArgument "sin") ∧
    ∃ front rest, [⟨.name "sin", 0⟩, ⟨.name "x", 4⟩] = front ++ rest ∧
      About 5 (.missingArgument "sin") front rest ∧ Viable (front.map Located.token) ∧
      ∀ t ∈ rest.head?, ¬ Viable (front.map Located.token ++ [t.token]) ∧
        StandsIn "sin x".toList 0 t :=
  have read : tokens "sin x" = .ok [⟨.name "sin", 0⟩, ⟨.name "x", 4⟩] := by decide +kernel
  have failed : parse "sin x" = .error (.missingArgument "sin") := by decide +kernel
  ⟨read, failed, parse_error_at_first_impossible read (by decide) failed (by decide)⟩

end PlotMarkup.Expr
