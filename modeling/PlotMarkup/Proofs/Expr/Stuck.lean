import Mathlib.Computability.Language
import PlotMarkup.Proofs.Expr.Parsing

/-!
# Failing in the middle of a word

A parser that fails has read the beginning of a word of its nonterminal, and no word of the
nonterminal goes on with the token that its error is about (`Stuck`).  Words have parts in turn, so
this passes from the parts to the whole by two rules: the first part fails (`Stuck.left`), or the
first part is read and the second fails (`Stuck.right`).
-/

namespace PlotMarkup.Grammar

open PlotMarkup.Expr

/-! ## The words of the nonterminals -/

def Sum.words : Language Token := Set.range Sum.word

def SumRest.words : Language Token := Set.range SumRest.word

def Product.words : Language Token := Set.range Product.word

def ProductRest.words : Language Token := Set.range ProductRest.word

def Signed.words : Language Token := Set.range Signed.word

def Power.words : Language Token := Set.range Power.word

def Primary.words : Language Token := Set.range Primary.word

def Power.tails : Language Token := 1 + {[.operator .pow]} * Signed.words

def Sum.closed : Language Token := Sum.words * {[.closeParen]}

theorem Sum.words_eq : Sum.words = Product.words * SumRest.words := by
  ext w
  constructor
  · rintro ⟨⟨first, rest⟩, rfl⟩
    exact ⟨_, ⟨first, rfl⟩, _, ⟨rest, rfl⟩, rfl⟩
  · rintro ⟨_, ⟨first, rfl⟩, _, ⟨rest, rfl⟩, rfl⟩
    exact ⟨.chain first rest, rfl⟩

theorem Product.words_eq : Product.words = Signed.words * ProductRest.words := by
  ext w
  constructor
  · rintro ⟨⟨first, rest⟩, rfl⟩
    exact ⟨_, ⟨first, rfl⟩, _, ⟨rest, rfl⟩, rfl⟩
  · rintro ⟨_, ⟨first, rfl⟩, _, ⟨rest, rfl⟩, rfl⟩
    exact ⟨.chain first rest, rfl⟩

theorem Power.words_eq : Power.words = Primary.words * Power.tails := by
  ext w
  constructor
  · rintro ⟨base | ⟨base, exponent⟩, rfl⟩
    · exact ⟨_, ⟨base, rfl⟩, [], .inl rfl, List.append_nil _⟩
    · exact ⟨_, ⟨base, rfl⟩, _, .inr ⟨_, rfl, _, ⟨exponent, rfl⟩, rfl⟩, rfl⟩
  · rintro ⟨_, ⟨base, rfl⟩, _, rfl | ⟨_, rfl, _, ⟨exponent, rfl⟩, rfl⟩, rfl⟩
    · exact ⟨.plain base, (List.append_nil _).symm⟩
    · exact ⟨.raised base exponent, rfl⟩

/-! ## Ends of words -/

def Marked (ends : List Operator) (L : Language Token) : Prop :=
  ∀ w ∈ L, ∀ w' ∈ L, ∀ r r', w ++ r = w' ++ r' → Avoids ends r → Avoids ends r' → r = r'

/-- What follows a first part, where none of `ends` follows the whole, is none of `ends'`. -/
def Parts (ends ends' : List Operator) (L : Language Token) : Prop :=
  ∀ w ∈ L, ∀ r, Avoids ends r → Avoids ends' (w ++ r)

theorem avoids_none (word : List Token) : Avoids [] word :=
  fun _ none => absurd none List.not_mem_nil

theorem marked_singleton (t : Token) : Marked [] {[t]} := by
  rintro _ rfl _ rfl r r' same - -
  exact (List.cons.inj same).2

theorem Sum.marked : Marked Sum.continuing Sum.words := by
  rintro _ ⟨d, rfl⟩ _ ⟨d', rfl⟩ r r' same ends ends'
  exact (d.prefix_unique d' same ends ends').2

theorem Product.marked : Marked Product.continuing Product.words := by
  rintro _ ⟨d, rfl⟩ _ ⟨d', rfl⟩ r r' same ends ends'
  exact (d.prefix_unique d' same ends ends').2

theorem Signed.marked : Marked Signed.continuing Signed.words := by
  rintro _ ⟨d, rfl⟩ _ ⟨d', rfl⟩ r r' same ends ends'
  exact (d.prefix_unique d' same ends ends').2

theorem Primary.marked : Marked [] Primary.words := by
  rintro _ ⟨d, rfl⟩ _ ⟨d', rfl⟩ r r' same - -
  exact (d.prefix_unique d' same).2

theorem SumRest.parts : Parts Sum.continuing Product.continuing SumRest.words := by
  rintro _ ⟨d, rfl⟩ r ends
  exact d.avoids_word ends

theorem ProductRest.parts : Parts Product.continuing Signed.continuing ProductRest.words := by
  rintro _ ⟨d, rfl⟩ r ends
  exact d.avoids_word ends

theorem parts_none (ends : List Operator) (L : Language Token) : Parts ends [] L :=
  fun _ _ _ _ => avoids_none _

theorem parts_closeParen (ends : List Operator) : Parts [] ends {[.closeParen]} := by
  rintro _ rfl r -
  exact avoids_cons (by simp)

/-! ## Failing between what is read and what is left -/

/-- The error is about the head of `rest`, or the end of the text, after `front` has been read;
`stop` is the offset of the end of the text. -/
inductive About (stop : Nat) : SyntaxError → List Located → List Located → Prop where
  | token {front rest : List Located} {found : Located} :
      About stop (.unexpectedToken found.token found.offset) front (found :: rest)
  | ending {front : List Located} : About stop .unexpectedEnd front []
  | paren {front rest : List Located} {found : Located} :
      About stop (.missingParen found.offset) front (found :: rest)
  | parenEnding {front : List Located} : About stop (.missingParen stop) front []
  | identifier {front rest : List Located} {name : String} {offset : Nat} :
      About stop (.unknownIdentifier name) front (⟨.name name, offset⟩ :: rest)
  | argument {front rest : List Located} {name : String} {offset : Nat} :
      About stop (.missingArgument name) (front ++ [⟨.name name, offset⟩]) rest

theorem About.prepend {stop : Nat} {e : SyntaxError} {front rest : List Located}
    (about : About stop e front rest) (before : List Located) :
    About stop e (before ++ front) rest := by
  cases about with
  | token => exact .token
  | ending => exact .ending
  | paren => exact .paren
  | parenEnding => exact .parenEnding
  | identifier => exact .identifier
  | argument =>
      rw [← List.append_assoc]
      exact .argument

def Begins (L : Language Token) (word : List Token) : Prop :=
  ∃ w, word ++ w ∈ L

/-- What is read begins a word, and with one token more it begins none, also where something else
than one of the operators `ends` follows the word. -/
inductive Stuck (stop : Nat) (e : SyntaxError) (ends : List Operator) (L : Language Token) :
    List Located → Prop where
  | mk {front rest : List Located} (about : About stop e front rest)
      (begins : Begins L (front.map Located.token))
      (impossible : ∀ t ∈ rest.head?, ∀ w ∈ L, ∀ r, Avoids ends r →
        ¬ front.map Located.token ++ [t.token] <+: w ++ r) :
      Stuck stop e ends L (front ++ rest)

section

variable {stop : Nat} {e : SyntaxError} {ends ends' : List Operator} {L L' : Language Token}
  {ts mid : List Located}

theorem head_of_mem {front rest : List Located} {t : Located} (next : t ∈ rest.head?)
    (s : List Token) : (front.map Located.token ++ [t.token] ++ s).head? =
      ((front ++ rest).map Located.token).head? := by
  cases front with
  | cons found front => rfl
  | nil => simp [Option.mem_def.mp next]

theorem Avoids.of_head {w w' : List Token} (same : w.head? = w'.head?) (avoids : Avoids ends w) :
    Avoids ends w' :=
  fun op mem => same ▸ avoids op mem

theorem Stuck.left (stuck : Stuck stop e ends' L ts) (inhabited : ∃ w, w ∈ L')
    (parts : Parts ends ends' L') : Stuck stop e ends (L * L') ts := by
  obtain ⟨about, ⟨more, member⟩, impossible⟩ := stuck
  obtain ⟨last, memberLast⟩ := inhabited
  refine .mk about ⟨more ++ last, ?_⟩ ?_
  · rw [← List.append_assoc]
    exact ⟨_, member, _, memberLast, rfl⟩
  · rintro t next _ ⟨w, inL, w', inL', rfl⟩ r avoids reached
    refine impossible t next w inL (w' ++ r) (parts w' inL' r avoids) ?_
    rwa [← List.append_assoc]

theorem Stuck.right {word : List Token} (reads : Reads word ts mid) (member : word ∈ L)
    (marked : Marked ends' L) (parts : Parts ends ends' L')
    (avoids : Avoids ends' (mid.map Located.token)) (stuck : Stuck stop e ends L' mid) :
    Stuck stop e ends (L * L') ts := by
  obtain ⟨before, rfl, rfl⟩ := reads
  obtain @⟨front, rest, about, ⟨more, memberMore⟩, impossible⟩ := stuck
  rw [← List.append_assoc]
  refine .mk (about.prepend before) ⟨more, ?_⟩ ?_
  · rw [List.map_append, List.append_assoc]
    exact ⟨_, member, _, memberMore, rfl⟩
  · rintro t next _ ⟨w, inL, w', inL', rfl⟩ r avoidsAfter ⟨s, same⟩
    -- the first part of the other word is the part that has been read
    have split : before.map Located.token ++ (front.map Located.token ++ [t.token] ++ s) =
        w ++ (w' ++ r) := by
      simpa using same
    have goesOn : Avoids ends' (front.map Located.token ++ [t.token] ++ s) :=
      avoids.of_head (head_of_mem next s).symm
    have tails := marked _ member w inL _ _ split goesOn (parts w' inL' r avoidsAfter)
    exact impossible t next w' inL' r avoidsAfter ⟨s, tails⟩

theorem Stuck.next {found : Located} {t : Token} (token : found.token = t)
    (stuck : Stuck stop e ends L ts) : Stuck stop e ends ({[t]} * L) (found :: ts) :=
  .right ((reads_nil ts).cons token) rfl (marked_singleton t) (parts_none ends L) (avoids_none _)
    stuck

theorem Stuck.alternative (stuck : Stuck stop e ends L ts) (sub : ∀ w ∈ L, w ∈ L')
    (only : ∀ w ∈ L', ∀ r, Avoids ends r →
      (w ++ r).head? = (ts.map Located.token).head? → w ∈ L) : Stuck stop e ends L' ts := by
  obtain ⟨about, ⟨more, member⟩, impossible⟩ := stuck
  refine .mk about ⟨more, sub _ member⟩ fun t next w inL' r avoids reached => ?_
  refine impossible t next w (only w inL' r avoids ?_) r avoids reached
  obtain ⟨s, same⟩ := reached
  rw [← same]
  exact head_of_mem next s

theorem Stuck.start (about : About stop e [] ts) (inhabited : ∃ w, w ∈ L)
    (unlike : ∀ t ∈ ts.head?, ∀ w ∈ L, ∀ r, Avoids ends r → (w ++ r).head? ≠ some t.token) :
    Stuck stop e ends L ts := by
  rw [← List.nil_append ts]
  refine .mk about inhabited fun t next w inL r avoids reached => ?_
  obtain ⟨s, same⟩ := reached
  exact unlike t next w inL r avoids (by rw [← same]; rfl)

end

/-! ## The alternatives of the nonterminals -/

section

variable {stop : Nat} {e : SyntaxError} {tail : List Located} {found : Located}

theorem SumRest.stuck_of_next (op : Additive) (token : found.token = .operator op.operator)
    (stuck : Stuck stop e Sum.continuing (Product.words * SumRest.words) tail) :
    Stuck stop e Sum.continuing SumRest.words (found :: tail) := by
  refine (stuck.next token).alternative ?_ ?_
  · rintro _ ⟨_, rfl, _, ⟨_, ⟨next, rfl⟩, _, ⟨rest, rfl⟩, rfl⟩, rfl⟩
    exact ⟨.cons op next rest, rfl⟩
  · rintro _ ⟨d, rfl⟩ r avoids head
    have head : (d.word ++ r).head? = some (.operator op.operator) := token ▸ head
    cases d with
    | nil => exact absurd head (avoids _ (by cases op <;> decide))
    | cons op' next rest =>
        obtain rfl : op' = op := Additive.operator_injective (by simpa [SumRest.word] using head)
        exact ⟨_, rfl, _, ⟨_, ⟨next, rfl⟩, _, ⟨rest, rfl⟩, rfl⟩, rfl⟩

theorem ProductRest.stuck_of_next (op : Multiplicative)
    (token : found.token = .operator op.operator)
    (stuck : Stuck stop e Product.continuing (Signed.words * ProductRest.words) tail) :
    Stuck stop e Product.continuing ProductRest.words (found :: tail) := by
  refine (stuck.next token).alternative ?_ ?_
  · rintro _ ⟨_, rfl, _, ⟨_, ⟨next, rfl⟩, _, ⟨rest, rfl⟩, rfl⟩, rfl⟩
    exact ⟨.cons op next rest, rfl⟩
  · rintro _ ⟨d, rfl⟩ r avoids head
    have head : (d.word ++ r).head? = some (.operator op.operator) := token ▸ head
    cases d with
    | nil => exact absurd head (avoids _ (by cases op <;> decide))
    | cons op' next rest =>
        obtain rfl : op' = op :=
          Multiplicative.operator_injective (by simpa [ProductRest.word] using head)
        exact ⟨_, rfl, _, ⟨_, ⟨next, rfl⟩, _, ⟨rest, rfl⟩, rfl⟩, rfl⟩

theorem Signed.stuck_of_sign (op : Additive) (token : found.token = .operator op.operator)
    (stuck : Stuck stop e Signed.continuing Signed.words tail) :
    Stuck stop e Signed.continuing Signed.words (found :: tail) := by
  refine (stuck.next token).alternative ?_ ?_
  · rintro _ ⟨_, rfl, _, ⟨inner, rfl⟩, rfl⟩
    exact ⟨.sign op inner, rfl⟩
  · rintro _ ⟨d, rfl⟩ r - head
    have head : (d.word ++ r).head? = some (.operator op.operator) := token ▸ head
    cases d with
    | power power => exact absurd head (power.head_word r _)
    | sign op' inner =>
        obtain rfl : op' = op := Additive.operator_injective (by simpa [Signed.word] using head)
        exact ⟨_, rfl, _, ⟨inner, rfl⟩, rfl⟩

theorem Signed.stuck_of_power {ts : List Located}
    (unsigned : ∀ op : Additive, (ts.map Located.token).head? ≠ some (.operator op.operator))
    (stuck : Stuck stop e Signed.continuing Power.words ts) :
    Stuck stop e Signed.continuing Signed.words ts := by
  refine stuck.alternative ?_ ?_
  · rintro _ ⟨power, rfl⟩
    exact ⟨.power power, rfl⟩
  · rintro _ ⟨d, rfl⟩ r - head
    cases d with
    | power power => exact ⟨power, rfl⟩
    | sign op inner => exact absurd head.symm (unsigned op)

theorem Power.stuck_of_exponent (token : found.token = .operator .pow)
    (stuck : Stuck stop e Signed.continuing Signed.words tail) :
    Stuck stop e Signed.continuing Power.tails (found :: tail) := by
  refine (stuck.next token).alternative (fun w inside => .inr inside) ?_
  rintro w (rfl | inside) r avoids head
  · have head : r.head? = some (.operator .pow) := token ▸ head
    exact absurd head (avoids .pow (by decide))
  · exact inside

theorem Primary.stuck_of_group (stuck : Stuck stop e [] Sum.closed tail)
    (token : found.token = .openParen) : Stuck stop e [] Primary.words (found :: tail) := by
  refine (stuck.next token).alternative ?_ ?_
  · rintro _ ⟨_, rfl, _, ⟨_, ⟨inner, rfl⟩, _, rfl, rfl⟩, rfl⟩
    exact ⟨.group inner, rfl⟩
  · rintro _ ⟨d, rfl⟩ r - head
    have head : (d.word ++ r).head? = some .openParen := token ▸ head
    cases d with
    | group inner => exact ⟨_, rfl, _, ⟨_, ⟨inner, rfl⟩, _, rfl, rfl⟩, rfl⟩
    | _ => simp [Primary.word] at head

theorem Primary.cases_name {called : FunctionName} {d : Primary} {r s : List Token}
    (same : d.word ++ r = .name called.text :: s) :
    ∃ argument, d = .call called argument := by
  obtain ⟨notVar, notCircle, notEuler⟩ := called.text_ne
  cases d with
  | call name argument =>
      obtain rfl : name = called :=
        FunctionName.text_injective (Token.name.inj (List.cons.inj same).1)
      exact ⟨argument, rfl⟩
  | var => exact absurd (Token.name.inj (List.cons.inj same).1).symm notVar
  | circle => exact absurd (Token.name.inj (List.cons.inj same).1).symm notCircle
  | euler => exact absurd (Token.name.inj (List.cons.inj same).1).symm notEuler
  | _ => simp [Primary.word] at same

theorem Primary.stuck_of_call {called : FunctionName} {offset : Nat}
    (stuck : Stuck stop e [] Sum.closed tail) (token : found.token = .openParen) :
    Stuck stop e [] Primary.words (⟨.name called.text, offset⟩ :: found :: tail) := by
  refine ((stuck.next token).next rfl).alternative ?_ ?_
  · rintro _ ⟨_, rfl, _, ⟨_, rfl, _, ⟨_, ⟨argument, rfl⟩, _, rfl, rfl⟩, rfl⟩, rfl⟩
    exact ⟨.call called argument, rfl⟩
  · rintro _ ⟨d, rfl⟩ r - head
    obtain ⟨s, same⟩ := List.head?_eq_some_iff.mp head
    obtain ⟨argument, rfl⟩ := Primary.cases_name same
    exact ⟨_, rfl, _, ⟨_, rfl, _, ⟨_, ⟨argument, rfl⟩, _, rfl, rfl⟩, rfl⟩, rfl⟩

theorem Primary.stuck_of_name {called : FunctionName} {offset : Nat} {rest : List Located}
    (noArgument : ∀ t ∈ rest.head?, t.token ≠ .openParen) :
    Stuck stop (.missingArgument called.text) [] Primary.words
      (⟨.name called.text, offset⟩ :: rest) := by
  show Stuck stop _ [] Primary.words (([] ++ [⟨.name called.text, offset⟩]) ++ rest)
  refine .mk .argument ⟨_, .call called ?_, rfl⟩ ?_
  · exact .chain (.chain (.power (.plain .var)) .nil) .nil
  · rintro t next _ ⟨d, rfl⟩ r - ⟨s, same⟩
    obtain ⟨argument, rfl⟩ := Primary.cases_name same.symm
    exact noArgument t next (List.cons.inj (List.cons.inj same).2).1

theorem Primary.stuck_of_unknown {name : String} {offset : Nat} {rest : List Located}
    (notVar : name ≠ "x") (notConstant : constant? name = none)
    (notFunction : Builtin.ofName? name = none) :
    Stuck stop (.unknownIdentifier name) [] Primary.words (⟨.name name, offset⟩ :: rest) := by
  refine .start .identifier ⟨_, .var, rfl⟩ ?_
  rintro t next _ ⟨d, rfl⟩ r - head
  cases next
  cases d with
  | var => exact notVar (Token.name.inj (Option.some.inj head)).symm
  | circle =>
      cases Token.name.inj (Option.some.inj head)
      cases notConstant
  | euler =>
      cases Token.name.inj (Option.some.inj head)
      cases notConstant
  | call called argument =>
      cases Token.name.inj (Option.some.inj head)
      rw [called.ofName?_text] at notFunction
      cases notFunction
  | _ => simp [Primary.word] at head

theorem Primary.stuck_of_other {ts : List Located}
    (noNumber : ∀ value offset rest, ts ≠ ⟨.number value, offset⟩ :: rest)
    (noGroup : ∀ offset rest, ts ≠ ⟨.openParen, offset⟩ :: rest)
    (noName : ∀ name offset rest, ts ≠ ⟨.name name, offset⟩ :: rest) :
    Stuck stop (unexpected ts) [] Primary.words ts := by
  cases ts with
  | nil => exact .start .ending ⟨_, .var, rfl⟩ (by simp)
  | cons found tail =>
      refine .start .token ⟨_, .var, rfl⟩ ?_
      rintro t next _ ⟨d, rfl⟩ r - head
      cases next
      obtain ⟨token, offset⟩ := found
      cases d with
      | number value =>
          cases Option.some.inj head
          exact noNumber _ _ _ rfl
      | group inner =>
          cases Option.some.inj head
          exact noGroup _ _ rfl
      | _ =>
          cases Option.some.inj head
          exact noName _ _ _ rfl

end

end PlotMarkup.Grammar
