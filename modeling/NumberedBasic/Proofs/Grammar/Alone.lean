import NumberedBasic.Proofs.Evaluation.Blanks
import NumberedBasic.Proofs.Grammar.Level
import NumberedBasic.Proofs.Text.Line

/-! # Operands that no operator follows

Behind an operand that no operator follows, no level of the grammar goes on. Such a name is a whole
expression, and its value is that of the variable. So are names between commas. Such a literal is a
whole expression as well, and its value is the number that it writes, with the sign before it.
-/

namespace NumberedBasic

open Text

/-- Behind any blanks comes no operator, neither the sign nor the word of one. -/
structure Final (rest : Text) : Prop where
  sign : ∀ c ∈ (rest.dropWhile isBlank).head?, c ∉ ['+', '-', '*', '/', '<', '=', '>']
  word : lower ((rest.dropWhile isBlank).takeWhile isLetter) ∉ [['o', 'r'], ['a', 'n', 'd']]

theorem final_nil : Final [] :=
  ⟨nofun, by decide⟩

/-- Nothing follows, or a comma. -/
def Stops (rest : Text) : Prop :=
  ∀ c ∈ rest.head?, c = ','

namespace Stops

variable {rest : Text} (h : Stops rest)

include h

theorem not_isBlank : ∀ c ∈ rest.head?, isBlank c = false := by
  intro c hc
  rw [h c hc]
  decide +kernel

theorem not_isNameChar : ∀ c ∈ rest.head?, isNameChar c = false := by
  intro c hc
  rw [h c hc]
  decide +kernel

theorem final : Final rest := by
  have settled : ([] ++ rest).dropWhile isBlank = rest := dropWhile_run nofun h.not_isBlank
  rw [List.nil_append] at settled
  have letters : rest.takeWhile isLetter = [] := takeWhile_eq_nil fun c hc => by
    rw [h c hc]
    decide +kernel
  constructor
  · intro c hc
    rw [settled] at hc
    rw [h c hc]
    decide
  · rw [settled, letters]
    decide

end Stops

theorem IsName.head_append {spelling : Text} (h : IsName spelling) (rest : Text) :
    ∀ c ∈ (spelling ++ rest).head?, Token.Kind.letters.Begins c := by
  obtain ⟨first, others, rfl, letter⟩ := h.begins
  rintro _ ⟨⟩
  exact letter

namespace Cursor

variable {c : Cursor}

theorem skipBlanks_of_stops (h : Stops c.rest) : c.skipBlanks = c :=
  skipBlanks_of_head h.not_isBlank

theorem skipBlanks_skipBlanks (c : Cursor) : c.skipBlanks.skipBlanks = c.skipBlanks :=
  skipBlanks_of_head c.skipBlanks_settled

theorem keyword_of_head {expected : Text}
    (other : ∀ first ∈ c.skipBlanks.rest.head?, isLetter first = false) :
    c.keyword expected = (false, c) := by
  simp only [keyword, word_none (takeWhile_eq_nil other)]

theorem number_of_literal {l : Literal} {rest : Text} (ahead : c.skipBlanks.rest = l.text ++ rest)
    (ends : ∀ c ∈ rest.head?, isDigit c = false ∧ c ≠ '.') :
    c.number = (some l.text, ⟨c.skipBlanks.column + l.text.length, rest⟩) := by
  have same : c.skipBlanks.number = c.number := by
    simp only [number, skipBlanks_skipBlanks]
  obtain ⟨found, behind⟩ := number_literal ahead ends
  rw [← same] at found behind ⊢
  exact Prod.ext found (c.skipBlanks.number_reaches.eq_of_rest ahead behind)

theorem skipBlanks_of_name {spelling : Text} (isName : IsName spelling) (column : Nat)
    (rest : Text) : skipBlanks ⟨column, spelling ++ rest⟩ = ⟨column, spelling ++ rest⟩ :=
  skipBlanks_of_head fun c hc => (isName.head_append rest c hc).not_isBlank

theorem skipBlanks_of_literal (l : Literal) (column : Nat) (rest : Text) :
    skipBlanks ⟨column, l.text ++ rest⟩ = ⟨column, l.text ++ rest⟩ := by
  obtain ⟨first, others, text, digit⟩ := l.begins
  apply skipBlanks_of_head
  rw [text]
  rintro _ ⟨⟩
  exact digit.not_isBlank

theorem literal_of_head {expected : Char}
    (differs : ∀ first ∈ c.skipBlanks.rest.head?, first ≠ expected) :
    c.literal [expected] = (false, c.skipBlanks) := by
  rw [literal]
  cases hr : c.skipBlanks.rest with
  | nil => rfl
  | cons first rest =>
    have different : first ≠ expected := differs first (by rw [hr]; rfl)
    simp [List.isPrefixOf_cons_cons, different.symm]

section Ended

variable (h : Final c.rest)

include h

theorem literal_of_final {expected : Char} (sign : expected ∈ ['+', '-', '*', '/']) :
    c.literal [expected] = (false, c.skipBlanks) := by
  refine literal_of_head fun first hf same => h.sign first hf ?_
  rw [same]
  exact List.mem_append_left ['<', '=', '>'] sign

theorem skipBlanks_final : Final c.skipBlanks.rest := by
  have same : c.skipBlanks.rest.dropWhile isBlank = c.rest.dropWhile isBlank :=
    congrArg rest c.skipBlanks_skipBlanks
  constructor
  · rw [same]
    exact h.sign
  · rw [same]
    exact h.word

theorem keyword_of_final {expected : Text} (plain : lower expected = expected)
    (word : expected ∈ [['o', 'r'], ['a', 'n', 'd']]) : c.keyword expected = (false, c) := by
  have differs : lower (c.skipBlanks.rest.takeWhile isLetter) ≠ expected := by
    intro same
    exact h.word (same ▸ word)
  by_cases hr : c.skipBlanks.rest.takeWhile isLetter = []
  · simp only [keyword, word_none hr]
  · simp only [keyword, word_of_run rfl hr, plain, if_neg differs]

theorem relation_of_final : c.relation = (none, c.skipBlanks) := by
  have missing : Relation.all.find? (·.sign.isPrefixOf c.skipBlanks.rest) = none := by
    refine Relation.find?_none fun first hf => ?_
    have other := h.sign first hf
    simp only [List.mem_cons, List.not_mem_nil, or_false, not_or] at other
    exact other.2.2.2.2
  simp only [relation, missing]

theorem operator_of_final (r : Rank) : r.operator c =
    (none, match r with | .disjunction | .conjunction => c | .arithmetic | .term => c.skipBlanks)
    := by
  have signs {a b : Char} {o o' : Operator} (ha : a ∈ ['+', '-', '*', '/'])
      (hb : b ∈ ['+', '-', '*', '/']) : c.eitherSign (a, o) (b, o') = (none, c.skipBlanks) := by
    simp only [eitherSign, literal_of_final h ha, literal_of_final (skipBlanks_final h) hb,
      skipBlanks_skipBlanks]
  cases r with
  | disjunction | conjunction =>
    simp only [Rank.operator, disjunctive, conjunctive, logical]
    rw [keyword_of_final h rfl (by decide)]
  | arithmetic | term => exact signs (by decide) (by decide)

end Ended

section Named

variable {spelling rest : Text} {column : Nat} (isName : IsName spelling)
  (ahead : c.skipBlanks = ⟨column, spelling ++ rest⟩)

include isName ahead

theorem identifier_of_name (ends : ∀ c ∈ rest.head?, isNameChar c = false) :
    c.identifier = (some (lower spelling), ⟨column + spelling.length, rest⟩) := by
  have found : (spelling ++ rest).head?.any isLetter = true := by
    obtain ⟨first, others, rfl, letter⟩ := isName.begins
    exact letter
  simp only [identifier, ahead, found, if_true, skipWhile, takeWhile_run isName.2 ends,
    dropWhile_run isName.2 ends]

/-- Whether a name is taken for `not` depends on the letters that it begins with. -/
theorem keyword_not_of_name (ends : ∀ c ∈ rest.head?, isNameChar c = false) :
    (c.keyword ['n', 'o', 't']).1 = decide (lower (spelling.takeWhile isLetter) = ['n', 'o', 't'])
    := by
  have run : (spelling ++ rest).takeWhile isLetter = spelling.takeWhile isLetter := by
    refine takeWhile_append_of_head fun c hc => ?_
    rw [Bool.eq_false_iff]
    intro letter
    simpa [isNameChar_of_isLetter letter] using ends c hc
  have nonempty : spelling.takeWhile isLetter ≠ [] := by
    obtain ⟨first, others, hs, letter⟩ := isName.begins
    have letter : isLetter first = true := letter
    rw [hs, List.takeWhile_cons_of_pos letter]
    exact List.cons_ne_nil _ _
  have plain : lower ['n', 'o', 't'] = ['n', 'o', 't'] := Token.lower_of_keyword (t := .not) rfl
  simp only [keyword, ahead, word_of_run (c := ⟨column, spelling ++ rest⟩) run nonempty, plain]
  split <;> simp_all

end Named

end Cursor

namespace Eval

variable {context : Context} {r s : Reading} {value : Number}

theorem scan_of_eq {α : Type} {matcher : Cursor → α × Cursor} {a : α} {c d : Cursor}
    {generator : Generator} {room : Nat} (h : matcher c = (a, d)) :
    scan matcher context ⟨c, generator, room⟩ = .ok a ⟨d, generator, room⟩ := by
  simp only [scan, h]

theorem chain_of_operand {operator : Cursor → Option Operator × Cursor} {operand : Eval Number}
    {generator : Generator} {room : Nat} {c d : Cursor}
    (h : operand context r = .ok value ⟨c, generator, room⟩)
    (missing : operator c = (none, d)) :
    chain operator operand context r = .ok value ⟨d, generator, room⟩ := by
  have none : extend? operator operand value context ⟨c, generator, room⟩ =
      .ok none ⟨d, generator, room⟩ :=
    (bind_of_ok (scan_of_eq missing) _).trans rfl
  exact (bind_of_ok h _).trans ((bind_of_ok none _).trans rfl)

theorem sign_of_head {c : Cursor} {generator : Generator} {room : Nat}
    (other : ∀ first ∈ c.skipBlanks.rest.head?, first ≠ '-' ∧ first ≠ '+') :
    sign context ⟨c, generator, room⟩ = .ok false ⟨c.skipBlanks, generator, room⟩ := by
  have minus : c.literal ['-'] = (false, c.skipBlanks) :=
    Cursor.literal_of_head fun first hf => (other first hf).1
  have plus : c.skipBlanks.literal ['+'] = (false, c.skipBlanks) := by
    have settled := c.skipBlanks_skipBlanks
    rw [Cursor.literal_of_head (settled.symm ▸ fun first hf => (other first hf).2), settled]
  have skipped : (do let _ ← literal ['+']; pure ()) context ⟨c.skipBlanks, generator, room⟩ =
      .ok () ⟨c.skipBlanks, generator, room⟩ :=
    (bind_of_ok (scan_of_eq plus) _).trans rfl
  exact (bind_of_ok (scan_of_eq minus) _).trans ((bind_of_ok skipped _).trans rfl)

theorem sign_of_minus {c : Cursor} {rest : Text} {generator : Generator} {room : Nat}
    (ahead : c.skipBlanks.rest = '-' :: rest) :
    sign context ⟨c, generator, room⟩ =
      .ok true ⟨⟨c.skipBlanks.column + 1, rest⟩, generator, room⟩ := by
  have minus : c.literal ['-'] = (true, ⟨c.skipBlanks.column + 1, rest⟩) := by
    simp [Cursor.literal, Cursor.advance, ahead]
  exact (bind_of_ok (scan_of_eq minus) _).trans rfl

section Factors

variable {c d : Cursor} {generator : Generator} {room : Nat} (final : Final d.rest)

include final

/-- Where a sum is read, a factor that no operator follows is the whole of it. -/
theorem arithmetic_of_factor {nesting : Nesting}
    (h : factor nesting context r = .ok value ⟨d, generator, room⟩) :
    arithmetic nesting context r = .ok value ⟨d.skipBlanks, generator, room⟩ := by
  have term := chain_of_operand h (Cursor.operator_of_final final .term)
  have behind := Cursor.operator_of_final (Cursor.skipBlanks_final final) .arithmetic
  rw [Cursor.skipBlanks_skipBlanks] at behind
  exact chain_of_operand term behind

theorem expression_of_factor {calls : Nat} (enough : 13 + calls ≤ room)
    (h : ∀ nesting, factor nesting context ⟨c, generator, room⟩ = .ok value ⟨d, generator, room⟩)
    (not : c.keyword ['n', 'o', 't'] = (false, c)) :
    expressionBelow calls context ⟨c, generator, room⟩ =
      .ok value ⟨d.skipBlanks, generator, room⟩ := by
  have final' := Cursor.skipBlanks_final final
  have operator (r : Rank) := Cursor.operator_of_final final' r
  have comparison (nesting : Nesting) : comparison nesting context ⟨c, generator, room⟩ =
      .ok value ⟨d.skipBlanks, generator, room⟩ := by
    have left := arithmetic_of_factor final (h nesting)
    have relation := Cursor.relation_of_final final'
    rw [Cursor.skipBlanks_skipBlanks] at relation
    exact (bind_of_ok left _).trans ((bind_of_ok (scan_of_eq relation) _).trans rfl)
  have negation (nesting : Nesting) : negation nesting context ⟨c, generator, room⟩ =
      .ok value ⟨d.skipBlanks, generator, room⟩ :=
    (bind_of_ok (scan_of_eq not) _).trans (comparison nesting)
  rw [expressionBelow_eq enough]
  exact chain_of_operand (chain_of_operand (negation _) (operator .conjunction))
    (operator .disjunction)

end Factors

section Literals

variable {l : Literal} {rest : Text} {c : Cursor} (context : Context) (generator : Generator)
  {room : Nat} (ends : ∀ c ∈ rest.head?, isDigit c = false ∧ c ≠ '.')

include ends

theorem factor_of_literal {negative : Bool} {d : Cursor} (nesting : Nesting)
    (signed : sign context ⟨c, generator, room⟩ = .ok negative ⟨d, generator, room⟩)
    (ahead : d.skipBlanks.rest = l.text ++ rest) : factor nesting context ⟨c, generator, room⟩ =
      .ok (if negative then (Number.ofLiteral l.text).neg else Number.ofLiteral l.text)
        ⟨⟨d.skipBlanks.column + l.text.length, rest⟩, generator, room⟩ := by
  have number : scan Cursor.number context ⟨d, generator, room⟩ =
      .ok (some l.text) ⟨⟨d.skipBlanks.column + l.text.length, rest⟩, generator, room⟩ :=
    scan_of_eq (Cursor.number_of_literal ahead ends)
  exact (bind_of_ok signed _).trans ((bind_of_ok number _).trans rfl)

variable (ahead : c.skipBlanks.rest = l.text ++ rest)

include ahead

theorem factor_of_bare_literal (nesting : Nesting) : factor nesting context ⟨c, generator, room⟩ =
    .ok (Number.ofLiteral l.text)
      ⟨⟨c.skipBlanks.column + l.text.length, rest⟩, generator, room⟩ := by
  have bare : sign context ⟨c, generator, room⟩ = .ok false ⟨c.skipBlanks, generator, room⟩ := by
    obtain ⟨first, others, text, digit⟩ := l.begins
    apply sign_of_head
    rw [ahead, text]
    rintro _ ⟨⟩
    have digit : isDigit first = true := digit
    constructor <;> rintro rfl <;> revert digit <;> decide +kernel
  have settled : c.skipBlanks.skipBlanks.rest = l.text ++ rest := by
    rw [c.skipBlanks_skipBlanks, ahead]
  have factor := factor_of_literal context generator ends nesting bare settled
  simpa only [Bool.false_eq_true, if_false, c.skipBlanks_skipBlanks] using factor

variable (final : Final rest)

include final

theorem arithmetic_of_literal (nesting : Nesting) :
    arithmetic nesting context ⟨c, generator, room⟩ =
    .ok (Number.ofLiteral l.text)
      ⟨Cursor.skipBlanks ⟨c.skipBlanks.column + l.text.length, rest⟩, generator, room⟩ :=
  arithmetic_of_factor final (factor_of_bare_literal context generator ends ahead nesting)

theorem expression_of_literal {calls : Nat} (enough : 13 + calls ≤ room) :
    expressionBelow calls context ⟨c, generator, room⟩ =
    .ok (Number.ofLiteral l.text)
      ⟨Cursor.skipBlanks ⟨c.skipBlanks.column + l.text.length, rest⟩, generator, room⟩ := by
  apply expression_of_factor final enough (factor_of_bare_literal context generator ends ahead)
  obtain ⟨first, others, text, digit⟩ := l.begins
  apply Cursor.keyword_of_head
  rw [ahead, text]
  rintro _ ⟨⟩
  simpa using digit.isLetter_iff

end Literals

section Named

variable {spelling rest : Text} {column : Nat} {c : Cursor} (isName : IsName spelling)
  (free : Builtin.ofName? (lower spelling) = none)
  (ahead : c.skipBlanks = ⟨column, spelling ++ rest⟩)
  (ends : ∀ c ∈ rest.head?, isNameChar c = false)
  (held : context.variables.get? (lower spelling) = some value) (nesting : Nesting)
  (generator : Generator) {room : Nat}

include isName free ahead ends held

theorem factor_of_name : factor nesting context ⟨c, generator, room⟩ =
    .ok value ⟨⟨column + spelling.length, rest⟩, generator, room⟩ := by
  have head := isName.head_append rest
  have settled : Cursor.skipBlanks ⟨column, spelling ++ rest⟩ = ⟨column, spelling ++ rest⟩ :=
    ahead ▸ c.skipBlanks_skipBlanks
  have other (sign : Char) (h : Token.Kind.sign.Begins sign) :
      ∀ c ∈ (spelling ++ rest).head?, c ≠ sign := by
    rintro _ hc rfl
    exact Token.Kind.noConfusion ((head _ hc).unique h)
  have digits : Cursor.number ⟨column, spelling ++ rest⟩ =
      (none, ⟨column, spelling ++ rest⟩) := by
    have none : (spelling ++ rest).takeWhile isDigit = [] := takeWhile_eq_nil fun c hc =>
      not_isDigit_of_isLetter (head c hc)
    rw [Cursor.number, settled]
    simp only [none]
  have sign : sign context ⟨c, generator, room⟩ =
      .ok false ⟨⟨column, spelling ++ rest⟩, generator, room⟩ := by
    rw [sign_of_head (ahead ▸ fun first hf => ⟨other '-' (by simp [Token.Kind.Begins]) first hf,
      other '+' (by simp [Token.Kind.Begins]) first hf⟩), ahead]
  have named : named nesting false (lower spelling) context
      ⟨⟨column + spelling.length, rest⟩, generator, room⟩ =
        .ok value ⟨⟨column + spelling.length, rest⟩, generator, room⟩ := by
    have lookup : valueOf? (lower spelling) context
        ⟨⟨column + spelling.length, rest⟩, generator, room⟩ =
          .ok (some value) ⟨⟨column + spelling.length, rest⟩, generator, room⟩ :=
      congrArg (EStateM.Result.ok · _) held
    unfold Eval.named
    rw [free]
    exact (bind_of_ok lookup _).trans rfl
  refine (bind_of_ok sign _).trans ((bind_of_ok (scan_of_eq digits) _).trans ?_)
  exact (bind_of_ok (scan_of_eq (Cursor.identifier_of_name isName settled ends)) _).trans named

variable (final : Final rest)

include final

theorem arithmetic_of_name : arithmetic nesting context ⟨c, generator, room⟩ =
    .ok value ⟨Cursor.skipBlanks ⟨column + spelling.length, rest⟩, generator, room⟩ :=
  arithmetic_of_factor final (factor_of_name isName free ahead ends held nesting generator)

theorem expression_of_name (letters_ne : lower (spelling.takeWhile isLetter) ≠ ['n', 'o', 't'])
    {calls : Nat} (enough : 13 + calls ≤ room) :
    expressionBelow calls context ⟨c, generator, room⟩ =
      .ok value ⟨Cursor.skipBlanks ⟨column + spelling.length, rest⟩, generator, room⟩ := by
  apply expression_of_factor final enough fun nesting =>
    factor_of_name isName free ahead ends held nesting generator
  have missing : (c.keyword ['n', 'o', 't']).1 = false := by
    rw [Cursor.keyword_not_of_name isName ahead ends, decide_eq_false letters_ne]
  exact Prod.ext missing (Cursor.keyword_not_found missing)

end Named

/-- The name of a variable between commas is an expression with the variable's value. -/
theorem expression_alone {v : VariableName} {rest : Text} (stops : Stops rest)
    (held : context.variables.get? (lower v.spelling) = some value) (column : Nat)
    (generator : Generator) {calls room : Nat} (enough : 13 + calls ≤ room) :
    expressionBelow calls context ⟨⟨column, v.spelling ++ rest⟩, generator, room⟩ =
      .ok value ⟨⟨column + v.spelling.length, rest⟩, generator, room⟩ := by
  have ahead := Cursor.skipBlanks_of_name v.isName column rest
  have behind : Cursor.skipBlanks ⟨column + v.spelling.length, rest⟩ =
      ⟨column + v.spelling.length, rest⟩ :=
    Cursor.skipBlanks_of_stops stops
  rw [expression_of_name v.isName v.free ahead stops.not_isNameChar held generator stops.final
    v.letters_ne enough, behind]

end Eval

end NumberedBasic
