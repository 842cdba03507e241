import PlotMarkup.Proofs.Json.Number
import PlotMarkup.Proofs.Json.Text

/-!
# Reading the tokens that are written

A written document falls into the tokens of its tree, whatever the layout puts between them.  Only
a number needs to know what follows it: a piece of text `Lexes` if it gives its tokens before
anything that stops a numeral, and `Separates` if it gives them before anything at all.
-/

namespace PlotMarkup.Json

open Number (Stops stops_nil stops_cons)

/-! ## The tokens of a tree -/

mutual

def tokensOf : Json → List Token
  | .null => [.literal .null]
  | .bool value => [.literal (.bool value)]
  | .integer value => [.literal (rereadInteger value)]
  | .real value => [.literal (rereadReal value)]
  | .text value => [.text (some value)]
  | .array [] => [.openBracket, .closeBracket]
  | .array (item :: rest) => .openBracket :: tokensOf item ++ itemTokens rest ++ [.closeBracket]
  | .object [] => [.openBrace, .closeBrace]
  | .object ((key, value) :: rest) =>
      .openBrace :: .text (some key) :: .colon :: tokensOf value ++ fieldTokens rest ++
        [.closeBrace]
  | .malformed => [.literal .null]

def itemTokens : List Json → List Token
  | [] => []
  | item :: rest => .comma :: tokensOf item ++ itemTokens rest

def fieldTokens : List (String × Json) → List Token
  | [] => []
  | (key, value) :: rest =>
      .comma :: .text (some key) :: .colon :: tokensOf value ++ fieldTokens rest

end

/-! ## Single tokens -/

theorem tokens?_nil : tokens? [] = some [] := by
  rw [tokens?]

theorem tokens?_space {c : Char} (space : isSpace c = true) (rest : List Char) :
    tokens? (c :: rest) = tokens? rest := by
  rw [tokens?, if_pos space]

theorem tokens?_cons {c : Char} {rest after : List Char} {token : Token}
    (notSpace : isSpace c = false) (read : Token.read? c rest = some (token, after)) :
    tokens? (c :: rest) = (tokens? after).map (token :: ·) := by
  rw [tokens?, if_neg (by simp [notSpace])]
  split
  · rename_i other after' same
    rw [read] at same
    cases same
    rfl
  · rename_i failed
    rw [read] at failed
    cases failed

theorem isSpace_eq_false {c : Char} (digit : c = '-' ∨ c.isDigit = true) : isSpace c = false := by
  rcases digit with rfl | digit
  · rfl
  · by_contra space
    simp only [isSpace, Bool.not_eq_false, Bool.or_eq_true, beq_iff_eq, or_assoc] at space
    rcases space with rfl | rfl | rfl | rfl <;> contradiction

theorem stops_of_isSpace {c : Char} {rest : List Char} (space : isSpace c = true) :
    Stops (c :: rest) := by
  apply stops_cons
  simp only [isSpace, Bool.or_eq_true, beq_iff_eq, or_assoc] at space
  rcases space with rfl | rfl | rfl | rfl <;> decide

theorem starts_of_readNumber? {c : Char} {rest : List Char} {result : Json × List Char}
    (read : readNumber? (c :: rest) = some result) : c = '-' ∨ c.isDigit = true := by
  unfold readNumber? at read
  split at read
  · rename_i same
    cases same
    exact .inl rfl
  · by_contra other
    rw [not_or, Bool.not_eq_true] at other
    have noDigits : Number.splitDigits (c :: rest) = ([], c :: rest) := by
      simp [Number.splitDigits, other.2]
    unfold readMagnitude? at read
    rw [noDigits] at read
    simp at read

theorem Token.read?_number {c : Char} {rest after : List Char} {value : Json}
    (read : readNumber? (c :: rest) = some (value, after)) :
    Token.read? c rest = some (.literal value, after) := by
  have starts := starts_of_readNumber? read
  unfold Token.read?
  split
  case h_11 => rw [read, Option.map_some]
  all_goals rcases starts with minus | digit <;> contradiction

/-! ## Pieces of text -/

def Separates (cs : List Char) (ts : List Token) : Prop :=
  ∀ rest, tokens? (cs ++ rest) = (tokens? rest).map (ts ++ ·)

def Lexes (cs : List Char) (ts : List Token) : Prop :=
  ∀ rest, Stops rest → tokens? (cs ++ rest) = (tokens? rest).map (ts ++ ·)

def Closes (cs : List Char) : Prop :=
  ∀ rest, Stops rest → Stops (cs ++ rest)

variable {cs ds : List Char} {ts us : List Token}

theorem map_append (tokens : Option (List Token)) :
    (tokens.map (us ++ ·)).map (ts ++ ·) = tokens.map ((ts ++ us) ++ ·) := by
  rw [Option.map_map]
  congr 1
  funext rest
  exact (List.append_assoc ts us rest).symm

theorem Separates.append (first : Separates cs ts) (second : Separates ds us) :
    Separates (cs ++ ds) (ts ++ us) := by
  intro rest
  rw [List.append_assoc, first, second, map_append]

theorem Separates.append_lexes (first : Separates cs ts) (second : Lexes ds us) :
    Lexes (cs ++ ds) (ts ++ us) := by
  intro rest stops
  rw [List.append_assoc, first, second rest stops, map_append]

theorem Separates.lexes (piece : Separates cs ts) : Lexes cs ts :=
  fun rest _ => piece rest

theorem Lexes.append (first : Lexes cs ts) (second : Lexes ds us) (closes : Closes ds) :
    Lexes (cs ++ ds) (ts ++ us) := by
  intro rest stops
  rw [List.append_assoc, first _ (closes rest stops), second rest stops, map_append]

theorem separates_nil : Separates [] [] := by
  intro rest
  simp

theorem separates_spaces (spaces : ∀ c ∈ cs, isSpace c = true) : Separates cs [] := by
  induction cs with
  | nil => exact separates_nil
  | cons c cs step =>
      obtain ⟨space, spaces⟩ := List.forall_mem_cons.mp spaces
      intro rest
      rw [List.cons_append, tokens?_space space, step spaces]

theorem separates_cons {c : Char} {token : Token} (notSpace : isSpace c = false)
    (read : ∀ rest, Token.read? c rest = some (token, rest)) (after : Separates cs ts) :
    Separates (c :: cs) (token :: ts) := by
  intro rest
  rw [List.cons_append, tokens?_cons notSpace (read _), after, Option.map_map]
  rfl

theorem separates_text (value : String) : Separates (textChars value) [.text (some value)] := by
  intro rest
  have same : textChars value ++ rest =
      '"' :: (value.toList.flatMap escapeChar ++ '"' :: rest) := by
    simp [textChars]
  rw [same, tokens?_cons rfl (Token.read?_text value rest)]
  rfl

theorem lexes_number {value : Json}
    (read : ∀ rest, Stops rest → readNumber? (cs ++ rest) = some (value, rest)) :
    Lexes cs [.literal value] := by
  intro rest stops
  have whole := read rest stops
  cases cs with
  | nil =>
      have empty := length_readNumber? whole
      exact absurd empty (Nat.lt_irrefl _)
  | cons c cs =>
      rw [List.cons_append] at whole ⊢
      rw [tokens?_cons (isSpace_eq_false (starts_of_readNumber? whole)) (Token.read?_number whole)]
      rfl

theorem closes_nil : Closes [] :=
  fun _ stops => stops

theorem closes_spaces (spaces : ∀ c ∈ cs, isSpace c = true) : Closes cs := by
  cases cs with
  | nil => exact closes_nil
  | cons c cs => exact fun rest _ => stops_of_isSpace (spaces c List.mem_cons_self)

theorem closes_cons {c : Char} (other : c.isDigit = false ∧ c ≠ '.' ∧ c ≠ 'e' ∧ c ≠ 'E') :
    Closes (c :: cs) :=
  fun _ _ => stops_cons other

/-! ## Whole trees -/

structure Layout.Blank (layout : Layout) : Prop where
  lineBreak : ∀ depth, ∀ c ∈ layout.lineBreak depth, isSpace c = true
  colon : ∃ spaces, layout.colon = ':' :: spaces ∧ ∀ c ∈ spaces, isSpace c = true

theorem blank_compact : Layout.compact.Blank :=
  ⟨fun _ _ member => absurd member List.not_mem_nil, [], rfl, by simp⟩

theorem blank_pretty : Layout.pretty.Blank := by
  refine ⟨fun depth => ?_, [' '], rfl, List.forall_mem_singleton.mpr rfl⟩
  refine List.forall_mem_cons.mpr ⟨rfl, fun c member => ?_⟩
  rw [List.eq_of_mem_replicate member]
  rfl

theorem separates_null : Separates "null".toList [.literal .null] := by
  intro rest
  show tokens? ('n' :: 'u' :: 'l' :: 'l' :: rest) = _
  rw [tokens?_cons rfl rfl]
  rfl

theorem separates_bool (value : Bool) :
    Separates (bif value then "true".toList else "false".toList) [.literal (.bool value)] := by
  intro rest
  cases value with
  | true =>
      show tokens? ('t' :: 'r' :: 'u' :: 'e' :: rest) = _
      rw [tokens?_cons rfl rfl]
      rfl
  | false =>
      show tokens? ('f' :: 'a' :: 'l' :: 's' :: 'e' :: rest) = _
      rw [tokens?_cons rfl rfl]
      rfl

theorem lexes_real (value : Float) : Lexes (realChars value) [.literal (rereadReal value)] := by
  cases finite : value.isFinite with
  | true => exact lexes_number fun rest => readNumber?_realChars finite
  | false =>
      rw [realChars_of_not_finite finite, rereadReal_of_not_finite finite]
      exact separates_null.lexes

theorem closes_writeItems (layout : Layout) (depth : Nat) (items : List Json) :
    Closes (writeItems layout depth items) := by
  cases items with
  | nil => exact closes_nil
  | cons item rest =>
      rw [writeItems]
      exact closes_cons (by decide)

theorem closes_writeFields (layout : Layout) (depth : Nat) (fields : List (String × Json)) :
    Closes (writeFields layout depth fields) := by
  cases fields with
  | nil => exact closes_nil
  | cons field rest =>
      rw [writeFields]
      exact closes_cons (by decide)

section

variable {layout : Layout} (blank : layout.Blank)

include blank

theorem Layout.Blank.separates_lineBreak (depth : Nat) : Separates (layout.lineBreak depth) [] :=
  separates_spaces (blank.lineBreak depth)

theorem Layout.Blank.separates_colon : Separates layout.colon [.colon] := by
  obtain ⟨spaces, same, all⟩ := blank.colon
  rw [same]
  exact separates_cons rfl (fun _ => rfl) (separates_spaces all)

theorem Layout.Blank.separates_key (depth : Nat) (key : String) :
    Separates (layout.lineBreak depth ++ textChars key ++ layout.colon)
      [.text (some key), .colon] :=
  ((blank.separates_lineBreak depth).append (separates_text key)).append blank.separates_colon

theorem Layout.Blank.lexes_end (depth : Nat) {c : Char} {token : Token}
    (notSpace : isSpace c = false) (read : ∀ rest, Token.read? c rest = some (token, rest))
    (other : c.isDigit = false ∧ c ≠ '.' ∧ c ≠ 'e' ∧ c ≠ 'E') (parts : Lexes cs ts) :
    Lexes (cs ++ layout.lineBreak depth ++ [c]) (ts ++ [token]) := by
  have close : Separates [c] [token] := separates_cons notSpace read separates_nil
  have lineBreak := parts.append (blank.separates_lineBreak depth).lexes
    (closes_spaces (blank.lineBreak depth))
  rw [List.append_nil] at lineBreak
  exact lineBreak.append close.lexes (closes_cons other)

end

mutual

theorem lexes_writeAt {layout : Layout} (blank : layout.Blank) (depth : Nat) :
    (value : Json) → Lexes (writeAt layout depth value) (tokensOf value)
  | .null => by
      rw [writeAt, tokensOf]
      exact separates_null.lexes
  | .malformed => by
      rw [writeAt, tokensOf]
      exact separates_null.lexes
  | .bool true => by
      rw [writeAt, tokensOf]
      exact (separates_bool true).lexes
  | .bool false => by
      rw [writeAt, tokensOf]
      exact (separates_bool false).lexes
  | .integer value => by
      rw [writeAt, tokensOf]
      exact lexes_number fun rest => readNumber?_integerChars
  | .real value => by
      rw [writeAt, tokensOf]
      exact lexes_real value
  | .text value => by
      rw [writeAt, tokensOf]
      exact (separates_text value).lexes
  | .array [] => by
      rw [writeAt, tokensOf]
      have close : Separates [']'] [.closeBracket] :=
        separates_cons rfl (fun _ => rfl) separates_nil
      exact (separates_cons rfl (fun _ => rfl) close).lexes
  | .array (item :: rest) => by
      rw [writeAt, tokensOf]
      have first : Separates ('[' :: layout.lineBreak (depth + 1)) [.openBracket] :=
        separates_cons rfl (fun _ => rfl) (blank.separates_lineBreak (depth + 1))
      have parts := (first.append_lexes (lexes_writeAt blank (depth + 1) item)).append
        (lexes_writeItems blank (depth + 1) rest) (closes_writeItems _ _ _)
      exact blank.lexes_end depth rfl (fun _ => rfl) (by decide) parts
  | .object [] => by
      rw [writeAt, tokensOf]
      have close : Separates ['\x7D'] [.closeBrace] :=
        separates_cons rfl (fun _ => rfl) separates_nil
      exact (separates_cons rfl (fun _ => rfl) close).lexes
  | .object ((key, value) :: rest) => by
      rw [writeAt, tokensOf]
      have first : Separates
          ('\x7B' :: (layout.lineBreak (depth + 1) ++ textChars key ++ layout.colon))
          [.openBrace, .text (some key), .colon] :=
        separates_cons rfl (fun _ => rfl) (blank.separates_key (depth + 1) key)
      have parts := (first.append_lexes (lexes_writeAt blank (depth + 1) value)).append
        (lexes_writeFields blank (depth + 1) rest) (closes_writeFields _ _ _)
      exact blank.lexes_end depth rfl (fun _ => rfl) (by decide) parts

theorem lexes_writeItems {layout : Layout} (blank : layout.Blank) (depth : Nat) :
    (items : List Json) → Lexes (writeItems layout depth items) (itemTokens items)
  | [] => by
      rw [writeItems, itemTokens]
      exact separates_nil.lexes
  | item :: rest => by
      rw [writeItems, itemTokens]
      have comma : Separates (',' :: layout.lineBreak depth) [.comma] :=
        separates_cons rfl (fun _ => rfl) (blank.separates_lineBreak depth)
      exact (comma.append_lexes (lexes_writeAt blank depth item)).append
        (lexes_writeItems blank depth rest) (closes_writeItems _ _ _)

theorem lexes_writeFields {layout : Layout} (blank : layout.Blank) (depth : Nat) :
    (fields : List (String × Json)) → Lexes (writeFields layout depth fields) (fieldTokens fields)
  | [] => by
      rw [writeFields, fieldTokens]
      exact separates_nil.lexes
  | (key, value) :: rest => by
      rw [writeFields, fieldTokens]
      have comma : Separates
          (',' :: (layout.lineBreak depth ++ textChars key ++ layout.colon))
          [.comma, .text (some key), .colon] :=
        separates_cons rfl (fun _ => rfl) (blank.separates_key depth key)
      exact (comma.append_lexes (lexes_writeAt blank depth value)).append
        (lexes_writeFields blank depth rest) (closes_writeFields _ _ _)

end

theorem tokens?_write {layout : Layout} (blank : layout.Blank) (value : Json) :
    tokens? (write layout value).toList = some (tokensOf value) := by
  have whole := lexes_writeAt blank 0 value [] stops_nil
  rw [List.append_nil, tokens?_nil] at whole
  unfold write
  rw [String.toList_ofList, whole, Option.map_some, List.append_nil]

end PlotMarkup.Json
