import PlotMarkup.Json.Token
import PlotMarkup.Json.Writer

namespace PlotMarkup.Json

def unitOf (c : Char) : TextUnit :=
  if c.toNat < 0x20 ∧ c ∉ ['\x08', '\x0C', '\n', '\r', '\t'] then .code c.toNat else .char c

theorem hexValue?_hexDigit : ∀ n < 16, hexValue? (hexDigit n) = some n := by
  decide

theorem hexUnit?_hexDigit {n : Nat} (small : n < 256) :
    hexUnit? '0' '0' (hexDigit (n / 16)) (hexDigit (n % 16)) = some n := by
  have zero : hexValue? '0' = some 0 := rfl
  unfold hexUnit?
  rw [zero, hexValue?_hexDigit _ (by omega), hexValue?_hexDigit _ (Nat.mod_lt _ (by decide))]
  simp only [Option.bind_eq_bind, Option.bind_some, Option.pure_def, Option.some.injEq]
  omega

theorem readUnits?_letter {c letter : Char} (known : shortEscape? letter = some c)
    (notCode : letter ≠ 'u') (tail : List Char) :
    readUnits? ('\\' :: letter :: tail) =
      (readUnits? tail).map fun (units, rest) => (.char c :: units, rest) := by
  rw [readUnits?.eq_4 letter tail fun _ _ _ _ _ code _ => notCode code, known]
  cases readUnits? tail <;> rfl

theorem readUnits?_plain {c : Char} (notQuote : c ≠ '"') (notBackslash : c ≠ '\\')
    (printable : ¬c.toNat < 0x20) (tail : List Char) :
    readUnits? (c :: tail) =
      (readUnits? tail).map fun (units, rest) => (.char c :: units, rest) := by
  rw [readUnits?.eq_5 c tail notQuote (fun _ _ _ _ _ same _ => notBackslash same)
    (fun _ _ same _ => notBackslash same), if_neg printable]
  cases readUnits? tail <;> rfl

theorem readUnits?_escapeChar (c : Char) (tail : List Char) :
    readUnits? (escapeChar c ++ tail) =
      (readUnits? tail).map fun (units, rest) => (unitOf c :: units, rest) := by
  unfold escapeChar
  -- The seven characters that have a letter of their own.
  iterate 7
    split
    · subst c
      exact readUnits?_letter rfl (by decide) tail
  rename_i notQuote notBackslash notBack notFeed notLine notReturn notTab
  split
  · rename_i control
    have coded : unitOf c = .code c.toNat := if_pos ⟨control, by simp [*]⟩
    rw [coded]
    show readUnits? ('\\' :: 'u' :: '0' :: '0' :: hexDigit (c.toNat / 16) ::
      hexDigit (c.toNat % 16) :: tail) = _
    rw [readUnits?.eq_3, hexUnit?_hexDigit (by omega)]
    cases readUnits? tail <;> rfl
  · rename_i printable
    have plain : unitOf c = .char c := if_neg fun control => printable control.1
    rw [plain]
    exact readUnits?_plain notQuote notBackslash printable tail

theorem readUnits?_textChars (cs rest : List Char) :
    readUnits? (cs.flatMap escapeChar ++ '"' :: rest) = some (cs.map unitOf, rest) := by
  induction cs with
  | nil => rfl
  | cons c cs step =>
      rw [List.flatMap_cons, List.append_assoc, readUnits?_escapeChar, step]
      rfl

theorem joinUnits?_code {unit : Nat} (low : unit < 0xD800) (units : List TextUnit) :
    joinUnits? (.code unit :: units) = (joinUnits? units).map (Char.ofNat unit :: ·) := by
  cases units with
  | nil =>
      rw [joinUnits?.eq_4 _ _ (by simp), if_neg (by omega)]
  | cons next units =>
      cases next with
      | char c =>
          rw [joinUnits?.eq_4 _ _ (by simp), if_neg (by omega)]
      | code next => rw [joinUnits?, if_neg (by omega), if_neg (by omega)]

theorem joinUnits?_unitOf (c : Char) (units : List TextUnit) :
    joinUnits? (unitOf c :: units) = (joinUnits? units).map (c :: ·) := by
  unfold unitOf
  split
  · rename_i control
    rw [joinUnits?_code (by omega), Char.ofNat_toNat]
  · rw [joinUnits?]

theorem joinUnits?_map_unitOf (cs : List Char) : joinUnits? (cs.map unitOf) = some cs := by
  induction cs with
  | nil => rfl
  | cons c cs step =>
      rw [List.map_cons, joinUnits?_unitOf, step]
      rfl

theorem Token.read?_text (text : String) (rest : List Char) :
    Token.read? '"' (text.toList.flatMap escapeChar ++ '"' :: rest) =
      some (.text (some text), rest) := by
  show (readUnits? (text.toList.flatMap escapeChar ++ '"' :: rest)).map _ = _
  rw [readUnits?_textChars, Option.map_some]
  dsimp only
  rw [joinUnits?_map_unitOf, Option.map_some, String.ofList_toList]

end PlotMarkup.Json
