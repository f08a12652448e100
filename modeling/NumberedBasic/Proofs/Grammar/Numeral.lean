import NumberedBasic.Proofs.Grammar.Alone
import NumberedBasic.Proofs.Number.Written

/-! # Printed numbers as expressions

A number that is printed in positions is a literal with its sign, so that it is a whole
expression and has the number as its value. A literal ends before a printed exponent, and
nothing of the exponent is read.
-/

namespace NumberedBasic

open Text

theorem Number.neg_ofDecimal (negative : Bool) (d : Decimal) :
    (ofDecimal negative d).neg = ofDecimal (!negative) d := by
  unfold ofDecimal round
  dsimp only
  split_ifs <;> rfl

namespace Literal

def behind (l : Literal) : Text :=
  l.fraction.getD []

def digits (l : Literal) : Text :=
  l.whole ++ l.behind

def decimal (l : Literal) : Decimal :=
  ⟨digitsValue l.digits, -l.behind.length⟩

theorem ofLiteral_text (l : Literal) :
    Number.ofLiteral l.text = Number.ofDecimal false l.decimal := by
  obtain ⟨rest, text, point, digits⟩ : ∃ rest, l.text = l.whole ++ rest ∧
      (∀ c ∈ rest.head?, isDigit c = false) ∧ rest.drop 1 = l.behind := by
    obtain ⟨whole, _ | fraction, _, _, _⟩ := l
    · exact ⟨[], (List.append_nil whole).symm, nofun, rfl⟩
    · refine ⟨'.' :: fraction, rfl, ?_, rfl⟩
      rintro _ ⟨⟩
      decide +kernel
  rw [Number.ofLiteral, text, takeWhile_run l.whole_digits point,
    dropWhile_run l.whole_digits point, digits, Number.ofDigits, Int.zero_sub]
  rfl

end Literal

namespace Numeral

section Parts

variable {n : Numeral} (h : n.WellFormed)

include h

/-- The digits and the point of a numeral are a literal that denotes the same decimal. -/
theorem exists_literal : ∃ l : Literal, l.text = n.bare.text ∧ l.decimal = n.bare.decimal := by
  have whole : ∀ c ∈ n.whole, isDigit c = true := fun c hc =>
    Field.isDigit_of_isDigit (h.whole c hc)
  by_cases none : n.fraction = []
  · refine ⟨⟨n.whole, Option.none, h.nonempty, whole, nofun⟩, ?_, ?_⟩
    · simp [Literal.text, text, bare, ending, none]
    · simp [Literal.decimal, Literal.digits, Literal.behind, decimal, bare, none]
  · refine ⟨⟨n.whole, some n.fraction, h.nonempty, whole, ?_⟩, ?_, ?_⟩
    · rintro _ ⟨⟩ c hc
      exact Field.isDigit_of_isDigit (h.fraction c hc)
    · simp [Literal.text, text, bare, ending, none]
    · simp [Literal.decimal, Literal.digits, Literal.behind, decimal, bare]

theorem ofLiteral_bare : Number.ofLiteral n.bare.text = Number.ofDecimal false n.bare.decimal := by
  obtain ⟨l, text, decimal⟩ := exists_literal h
  rw [← text, l.ofLiteral_text, decimal]

theorem head_signed (negative : Bool) :
    ∀ c ∈ ((if negative then ['-'] else []) ++ n.text).head?,
      isBlank c = false ∧ isLetter c = false := by
  cases negative with
  | false =>
    obtain ⟨first, others, text, digit⟩ := Field.exists_digit_text h
    have digit : Token.Kind.digits.Begins first := Field.isDigit_of_isDigit digit
    rw [text]
    rintro _ ⟨⟩
    exact ⟨digit.not_isBlank, by simpa using digit.isLetter_iff⟩
  | true =>
    have minus : Token.Kind.sign.Begins '-' := by simp [Token.Kind.Begins]
    rintro _ ⟨⟩
    exact ⟨minus.not_isBlank, by simpa using minus.isLetter_iff⟩

end Parts

theorem begins_exponent : Token.Kind.letters.Begins 'e' := by
  change isLetter 'e' = true
  decide +kernel

theorem head_ending (n : Numeral) : ∀ c ∈ n.ending.head?, c = 'e' := by
  unfold ending
  cases n.exponent with
  | none => nofun
  | some exponent =>
    rintro _ ⟨⟩
    rfl

theorem skipBlanks_ending (n : Numeral) (column : Nat) :
    Cursor.skipBlanks ⟨column, n.ending⟩ = ⟨column, n.ending⟩ := by
  apply Cursor.skipBlanks_of_head
  intro c hc
  rw [n.head_ending c hc]
  exact begins_exponent.not_isBlank

/-- No operator begins like an exponent. -/
theorem final_ending (n : Numeral) : Final n.ending := by
  have settled : n.ending.dropWhile isBlank = n.ending :=
    congrArg Cursor.rest (n.skipBlanks_ending 0)
  constructor
  · rw [settled]
    intro c hc
    rw [n.head_ending c hc]
    decide
  · rw [settled]
    unfold ending
    cases n.exponent with
    | none => decide
    | some exponent =>
      have behind : (Layout.exponentPart exponent).takeWhile isLetter = [] := by
        apply takeWhile_eq_nil
        rintro c ⟨⟩
        have sign : Token.Kind.sign.Begins (if exponent < 0 then '-' else '+') := by
          split <;> simp [Token.Kind.Begins]
        simpa using sign.isLetter_iff
      have letter : isLetter 'e' = true := begins_exponent
      simp only [List.takeWhile_cons_of_pos letter, behind]
      decide +kernel

end Numeral

namespace Eval

section Numerals

variable {n : Numeral} (h : n.WellFormed) (negative : Bool) (context : Context)
  (generator : Generator) {room : Nat}

include h

theorem factor_of_numeral (nesting : Nesting) :
    factor nesting context ⟨.start ((if negative then ['-'] else []) ++ n.text), generator, room⟩ =
      .ok (Number.ofDecimal negative n.bare.decimal)
        ⟨⟨((if negative then ['-'] else []) ++ n.bare.text).length, n.ending⟩,
          generator, room⟩ := by
  obtain ⟨l, text, -⟩ := Numeral.exists_literal h
  have ends := Field.head_ending n
  have settled (column : Nat) := Cursor.skipBlanks_of_literal l column n.ending
  have value := Numeral.ofLiteral_bare h
  have signed := Numeral.head_signed h negative
  rw [n.text_eq, ← text] at signed ⊢
  rw [← text] at value
  cases negative with
  | false =>
    let start : Cursor := ⟨0, l.text ++ n.ending⟩
    have factor : factor nesting context ⟨start, generator, room⟩ = _ :=
      factor_of_bare_literal context generator ends (by rw [settled]) nesting
    rw [settled, value, Nat.zero_add] at factor
    exact factor
  | true =>
    have start : Cursor.skipBlanks ⟨0, '-' :: (l.text ++ n.ending)⟩ =
        ⟨0, '-' :: (l.text ++ n.ending)⟩ :=
      Cursor.skipBlanks_of_head fun c hc => (signed c hc).1
    have minus : sign context ⟨⟨0, '-' :: (l.text ++ n.ending)⟩, generator, room⟩ =
        .ok true ⟨⟨1, l.text ++ n.ending⟩, generator, room⟩ := by
      rw [sign_of_minus (congrArg Cursor.rest start), start]
    have factor := factor_of_literal context generator ends nesting minus (by rw [settled])
    rw [settled, value, if_pos rfl, Number.neg_ofDecimal, Nat.add_comm 1] at factor
    exact factor

theorem expression_of_numeral (enough : 13 ≤ room) :
    expression context ⟨.start ((if negative then ['-'] else []) ++ n.text), generator, room⟩ =
      .ok (Number.ofDecimal negative n.bare.decimal)
        ⟨⟨((if negative then ['-'] else []) ++ n.bare.text).length, n.ending⟩,
          generator, room⟩ := by
  have signed := Numeral.head_signed h negative
  have start := Cursor.skipBlanks_of_head
    (c := .start ((if negative then ['-'] else []) ++ n.text)) fun c hc => (signed c hc).1
  rw [← n.skipBlanks_ending]
  refine expression_of_factor n.final_ending enough
    (factor_of_numeral h negative context generator) ?_
  apply Cursor.keyword_of_head
  rw [start]
  exact fun c hc => (signed c hc).2

end Numerals

/-- A number that is printed in positions is read back by the expression that it is, and by a
factor. A number that is printed with an exponent is read up to the exponent. -/
theorem printed_number_read (negative : Bool) (x : Magnitude) (nesting : Nesting)
    (context : Context) (generator : Generator) {room : Nat} (enough : 13 ≤ room) :
    let a := Number.finite negative x
    (x.rank = 0 ∨ -4 ≤ x.shortest.order ∧ x.shortest.order ≤ 5 →
      expression context ⟨.start a.text, generator, room⟩ =
        .ok a ⟨⟨a.text.length, []⟩, generator, room⟩ ∧
      factor nesting context ⟨.start a.text, generator, room⟩ =
        .ok a ⟨⟨a.text.length, []⟩, generator, room⟩) ∧
    (¬(x.rank = 0 ∨ -4 ≤ x.shortest.order ∧ x.shortest.order ≤ 5) →
      ∃ n : Numeral, n.WellFormed ∧ n.whole.length = 1 ∧ n.exponent = some x.shortest.order ∧
        a.text = (if negative then ['-'] else []) ++ n.bare.text ++ n.ending ∧
        expression context ⟨.start a.text, generator, room⟩ =
          .ok (Number.ofDecimal negative n.bare.decimal)
            ⟨⟨((if negative then ['-'] else []) ++ n.bare.text).length, n.ending⟩,
              generator, room⟩) := by
  intro a
  obtain ⟨n, writes⟩ := Layout.plain.exists_writes rfl x
  have text : a.text = (if negative then ['-'] else []) ++ n.text := congrArg _ writes.text
  have placed : x.rank = 0 ∨ Layout.plain.Positional x.shortest.order ↔
      x.rank = 0 ∨ -4 ≤ x.shortest.order ∧ x.shortest.order ≤ 5 := by
    have from_ : Layout.plain.positionalFrom = -4 := rfl
    have below : Layout.plain.positionalBelow = 6 := rfl
    unfold Layout.Positional
    omega
  have expression := expression_of_numeral writes.wellFormed negative context generator enough
  have exponent := writes.exponent
  rw [← placed, text]
  constructor
  · intro fixed
    rw [if_pos fixed] at exponent
    have bare : n.bare = n := by
      rw [Numeral.bare, ← exponent]
    have ending : n.ending = [] := by
      rw [Numeral.ending, exponent]
    have factor : factor nesting context ⟨_, generator, room⟩ = _ :=
      factor_of_numeral writes.wellFormed negative context generator nesting
    rw [bare, ending, writes.value] at expression factor
    exact ⟨expression, factor⟩
  · intro floating
    rw [if_neg floating] at exponent
    refine ⟨n, writes.wellFormed, writes.single _ exponent, exponent, ?_, expression⟩
    rw [n.text_eq, List.append_assoc]

/-- A fraction below zero in positions, and two millions with an exponent. -/
theorem fraction_read_and_millions_cut :
    let context : Context := ⟨Table.empty, 0⟩
    let g := Generator.ofSeed 0
    let fraction := Number.finite true ⟨4548743710035257852, by decide⟩
    fraction.text = ofString "-0.000125" ∧
    factor (nestingWithin 13) context ⟨.start (ofString "-0.000125"), g, 13⟩ =
      .ok fraction ⟨⟨9, []⟩, g, 13⟩ ∧
    expression context ⟨.start (ofString "2e+06"), g, 13⟩ =
      .ok 2 ⟨⟨1, ofString "e+06"⟩, g, 13⟩ := by
  intro context g fraction
  have text : fraction.text = ofString "-0.000125" := by decide +kernel
  have text' : (Number.finite false ⟨4701340746312056832, by decide⟩).text = ofString "2e+06" := by
    decide +kernel
  obtain ⟨fixed, -⟩ :=
    printed_number_read true ⟨4548743710035257852, by decide⟩ (nestingWithin 13) context g
      (Nat.le_refl 13)
  obtain ⟨-, floating⟩ :=
    printed_number_read false ⟨4701340746312056832, by decide⟩ (nestingWithin 13) context g
      (Nat.le_refl 13)
  obtain ⟨-, read⟩ := fixed (by decide +kernel)
  obtain ⟨n, wellFormed, -, exponent, whole, cut⟩ := floating (by decide +kernel)
  have ending : n.ending = ofString "e+06" := by
    rw [Numeral.ending, exponent]
    decide +kernel
  have split : ofString "2e+06" = ['2'] ++ ofString "e+06" := by decide +kernel
  rw [text', ending, split] at whole
  have mantissa : n.bare.text = ['2'] := (List.append_cancel_right whole).symm
  have two : Number.ofLiteral ['2'] = 2 := by decide +kernel
  rw [text'] at cut
  rw [text] at read
  rw [← Numeral.ofLiteral_bare wellFormed, mantissa, ending, two] at cut
  exact ⟨text, read, cut⟩

end Eval

end NumberedBasic
