import PlotMarkup.Proofs.Expr.Characters
import PlotMarkup.Proofs.Text.Tidy

namespace PlotMarkup

namespace Token

def Detached (rest : List Char) : Prop :=
  ∀ c ∈ rest.head?, Text.isBlank c = true ∨ (ofChar? c).isSome = true

theorem detached_cons_of_isBlank {c : Char} (blank : Text.isBlank c = true) (rest : List Char) :
    Detached (c :: rest) := by
  intro c' first
  cases first
  exact .inl blank

theorem Detached.kind {c : Char} {rest : List Char} (detached : Detached (c :: rest)) :
    isNumberChar c = false ∧ isNameChar c = false := by
  rcases detached c rfl with blank | symbol
  · exact (kind_of_isBlank blank).2
  · obtain ⟨t, known⟩ := Option.isSome_iff_exists.mp symbol
    exact (kind_of_ofChar? known).2

theorem Detached.ends_isNumberChar {rest : List Char} (detached : Detached rest) :
    Ends isNumberChar rest := by
  intro c first
  cases rest with
  | nil => cases first
  | cons c rest =>
      cases first
      exact detached.kind.1

theorem Detached.ends_isNameChar {rest : List Char} (detached : Detached rest) :
    Ends isNameChar rest := by
  intro c first
  cases rest with
  | nil => cases first
  | cons c rest =>
      cases first
      exact detached.kind.2

theorem Detached.ends_isDigit {rest : List Char} (detached : Detached rest) :
    Ends Char.isDigit rest := by
  intro c first
  have notNumber := detached.ends_isNumberChar c first
  rw [isNumberChar, Bool.or_eq_false_iff] at notNumber
  exact notNumber.1

theorem PowerPart.detached {written literal rest rest' : List Char}
    (part : PowerPart written literal rest) (detached : Detached rest') :
    PowerPart written literal rest' := by
  cases part with
  | none ends incomplete =>
      refine .none detached.ends_isNumberChar ?_
      rintro mark exponent rest'' rfl marked
      -- The mark of an exponent is a letter.
      have notName := detached.kind.2
      rcases marked with rfl | rfl <;> cases notName
  | some marked complete =>
      cases complete with
      | mk signed nonempty all ends =>
          exact .some marked (.mk signed nonempty all detached.ends_isDigit)

theorem Lexeme.detached {t : Token} {lexeme rest rest' : List Char} (found : Lexeme t lexeme rest)
    (detached : Grammar.isOperand t = true → Detached rest') : Lexeme t lexeme rest' := by
  cases found with
  | symbol known => exact .symbol known
  | number nonempty all part read finite =>
      exact .number nonempty all (part.detached (detached rfl)) read finite
  | name starts all ends => exact .name starts all (detached rfl).ends_isNameChar

end Token

namespace Expr

open Token

theorem Scans.detached {offset : Nat} {cs : List Char} {ts : List Located}
    (scans : Scans offset cs ts)
    (mark : ∀ located ∈ ts.head?, Grammar.isOperand located.token = false) : Detached cs := by
  cases scans with
  | nil =>
      intro c first
      cases first
  | blank blank others => exact detached_cons_of_isBlank blank _
  | lexeme found others =>
      have symbol := mark _ rfl
      rcases found.cases_chars with ⟨c, known, rfl⟩ | ⟨value, rfl, -⟩ | ⟨rfl, -⟩
      · intro c' first
        cases first
        exact .inr (Option.isSome_of_mem known)
      · cases symbol
      · cases symbol

/-- The second text is the first one with other white space before, between and after its lexemes. -/
inductive Respaced : List Char → List Char → Prop where
  | nil : Respaced [] []
  | delete {c : Char} {cs cs' : List Char} (blank : Text.isBlank c = true)
      (others : Respaced cs cs') : Respaced (c :: cs) cs'
  | insert {c : Char} {cs cs' : List Char} (blank : Text.isBlank c = true)
      (others : Respaced cs cs') : Respaced cs (c :: cs')
  | lexeme {t : Token} {lexeme cs cs' : List Char} (found : Lexeme t lexeme cs)
      (others : Respaced cs cs') : Respaced (lexeme ++ cs) (lexeme ++ cs')

theorem scans_of_respaced {cs cs' : List Char} (respaced : Respaced cs cs') {offset : Nat}
    {ts : List Located} (read : tokensFrom offset cs = .ok ts)
    (apart : (ts.map Located.token).IsChain Grammar.Apart) (offset' : Nat) :
    ∃ ts', Scans offset' cs' ts' ∧ ts'.map Located.token = ts.map Located.token := by
  induction respaced generalizing offset ts offset' with
  | nil =>
      rw [Expr.tokensFrom] at read
      cases read
      exact ⟨[], .nil, rfl⟩
  | delete blank others ih =>
      rw [tokensFrom_blank blank] at read
      exact ih read apart offset'
  | @insert c _ _ blank others ih =>
      obtain ⟨ts', scans, same⟩ := ih read apart (offset' + c.utf8Size)
      exact ⟨ts', .blank blank scans, same⟩
  | @lexeme t lexeme _ cs' found others ih =>
      rw [tokensFrom_lexeme found, bind_eq_ok] at read
      obtain ⟨later, read, same⟩ := read
      cases same
      rw [List.map_cons, List.isChain_cons] at apart
      obtain ⟨ts', scans, same⟩ := ih read apart.2 (offset' + byteLength lexeme)
      have detached : Grammar.isOperand t = true → Detached cs' := by
        intro operand
        refine scans.detached fun next first => ?_
        have neighbour : next.token ∈ (later.map Located.token).head? := by
          rw [← same, List.head?_map]
          exact Option.mem_map_of_mem _ first
        exact (apart.1 _ neighbour).resolve_left (by simp [operand])
      exact ⟨⟨t, offset'⟩ :: ts', .lexeme (found.detached detached) scans, congrArg (t :: ·) same⟩

theorem parse_of_respaced {text text' : String} {e : Expr} (parsed : parse text = .ok e)
    (respaced : Respaced text.toList text'.toList) : parse text' = .ok e := by
  obtain ⟨ts, read, phrase⟩ := Grammar.phrase_of_parse parsed
  obtain ⟨ts', scans, same⟩ := scans_of_respaced respaced read phrase.isChain_apart 0
  have read' : tokens text' = .ok ts' := tokensFrom_eq_ok.mpr scans
  rw [parse, read, bind_eq_ok] at parsed
  obtain ⟨_, first, parsed⟩ := parsed
  cases first
  obtain ⟨d, word, tree, within⟩ := Grammar.parseTokens_eq_ok.mp parsed
  rw [parse, bind_eq_ok]
  exact ⟨ts', read', Grammar.parseTokens_eq_ok.mpr ⟨d, word.trans same.symm, tree, within⟩⟩

theorem isBlank_lexeme {t : Token} {lexeme rest : List Char} (found : Lexeme t lexeme rest) :
    ∀ c ∈ lexeme, Text.isBlank c = false := by
  intro c member
  rcases found.cases_chars with ⟨symbol, known, rfl⟩ | ⟨value, -, decimal⟩ | ⟨-, inner⟩
  · obtain rfl := List.mem_singleton.mp member
    exact (kind_of_ofChar? known).1
  · rcases isDecimalChar_cases (decimal c member) with numeric | other
    · exact (kind_of_isNumberChar numeric).2
    · simp only [List.mem_cons, List.not_mem_nil, or_false] at other
      rcases other with rfl | rfl | rfl | rfl <;> decide
  · exact (kind_of_isNameChar (inner c member)).2

theorem Scans.respaced {offset : Nat} {cs kept : List Char} {ts : List Located}
    (scans : Scans offset cs ts) (thinned : Text.Thinned cs kept) : Respaced cs kept := by
  induction scans generalizing kept with
  | nil =>
      cases thinned
      exact .nil
  | blank blank others ih =>
      cases thinned with
      | keep _ thinned => exact .delete blank (.insert blank (ih thinned))
      | drop _ thinned => exact .delete blank (ih thinned)
  | lexeme found others ih =>
      obtain ⟨kept', rfl, rest⟩ := thinned.of_append (isBlank_lexeme found)
      exact .lexeme found (ih rest)

theorem not_mem_of_parse {text : String} {e : Expr} (parsed : parse text = .ok e) :
    '&' ∉ text.toList := by
  intro member
  rcases isFormulaChar_of_parse parsed member with blank | formula
  · cases blank
  · cases formula

theorem respaced_tidy {text : String} {e : Expr} (parsed : parse text = .ok e) :
    Respaced text.toList (Text.tidy text).toList := by
  obtain ⟨ts, read, -⟩ := Grammar.phrase_of_parse parsed
  have thinned := Text.thinned_tidyChars text.toList
  rw [Text.dropMarkers_of_not_mem (not_mem_of_parse parsed)] at thinned
  rw [Text.tidy, String.toList_ofList]
  exact (tokensFrom_eq_ok.mp read).respaced thinned

theorem parse_respaced {text : String} {e : Expr} (parsed : parse text = .ok e) :
    (∀ text' : String, Respaced text.toList text'.toList → parse text' = .ok e) ∧
      parse (Text.tidy text) = .ok e :=
  ⟨fun _ => parse_of_respaced parsed, parse_of_respaced parsed (respaced_tidy parsed)⟩

theorem parse_respaced_product : ∃ e, parse " 2 *e\n+ 3" = .ok e ∧
    Respaced " 2 *e\n+ 3".toList "\t2*e+ 3".toList ∧ parse "\t2*e+ 3" = .ok e ∧
    parse (Text.tidy " 2 *e\n+ 3") = .ok e := by
  have accepted : (parse " 2 *e\n+ 3").isOk = true := by decide +kernel
  obtain ⟨e, parsed⟩ := exists_of_isOk accepted
  obtain ⟨ts, read, -⟩ := Grammar.phrase_of_parse parsed
  have thinned : Text.Thinned " 2 *e\n+ 3".toList "2*e+ 3".toList :=
    .drop (by decide) (.keep '2' (.drop (by decide) (.keep '*' (.keep 'e'
      (.drop (by decide) (.refl ['+', ' ', '3']))))))
  have respaced : Respaced " 2 *e\n+ 3".toList "\t2*e+ 3".toList :=
    .insert (by decide) ((tokensFrom_eq_ok.mp read).respaced thinned)
  obtain ⟨all, tidied⟩ := parse_respaced parsed
  exact ⟨e, parsed, respaced, all _ respaced, tidied⟩

end Expr

end PlotMarkup
