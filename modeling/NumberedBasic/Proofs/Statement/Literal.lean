import Mathlib.Algebra.Order.Field.Basic
import Mathlib.Algebra.Order.Ring.Rat
import NumberedBasic.Proofs.Grammar.Numeral
import NumberedBasic.Proofs.Number.Recovery
import NumberedBasic.Proofs.Statement.Print

/-! # Printed literals

A literal of up to fifteen significant digits whose value is printed in positions is printed back
digit for digit, only without the zeros that do not matter and without a point at its end.
-/

namespace NumberedBasic

open Text

namespace Literal

def significant (l : Literal) : Text :=
  dropEndWhile (· == '0') (l.digits.dropWhile (· == '0'))

def value (l : Literal) : ℚ :=
  digitsValue l.digits / (10 ^ l.behind.length : Nat)

/-- The literal without superfluous leading zeros, without zeros at the end of its fraction, and
without a point that nothing is behind. -/
def stripped (l : Literal) : Text :=
  let integral := l.whole.dropWhile (· == '0')
  let fraction := dropEndWhile (· == '0') l.behind
  (if integral = [] then ['0'] else integral) ++ if fraction = [] then [] else '.' :: fraction

theorem value_eq_zero_iff (l : Literal) : l.value = 0 ↔ digitsValue l.digits = 0 := by
  have power : ((10 ^ l.behind.length : Nat) : ℚ) ≠ 0 := by positivity
  rw [value, div_eq_zero_iff, or_iff_left power, Nat.cast_eq_zero]

theorem value_bounds_iff (l : Literal) : 1 / 10000 ≤ l.value ∧ l.value < 1000000 ↔
    Layout.Fixed (digitsValue l.digits) l.behind.length := by
  have power : 0 < ((10 ^ l.behind.length : Nat) : ℚ) := by positivity
  rw [value, div_le_div_iff₀ (by norm_num) power, div_lt_iff₀ power, one_mul, mul_comm]
  norm_cast
  exact ⟨fun h => ⟨h.1, h.2⟩, fun h => ⟨h.least, h.most⟩⟩

section Digits

variable {l : Literal} (ascii : ∀ c ∈ l.digits, c.isDigit = true)

include ascii

theorem stripped_of_zero (zero : digitsValue l.digits = 0) : l.stripped = ['0'] := by
  have none := dropWhile_zeros ascii
  rw [if_pos zero, List.dropWhile_eq_nil_iff] at none
  obtain ⟨whole, behind⟩ := List.forall_mem_append.mp none
  have integral : l.whole.dropWhile (· == '0') = [] := List.dropWhile_eq_nil_iff.mpr whole
  have fraction : dropEndWhile (· == '0') ([] ++ l.behind) = [] :=
    dropEndWhile_of_last behind nofun
  rw [List.nil_append] at fraction
  rw [stripped, integral, fraction]
  rfl

/-- The significant digits are those of the coefficient without the zeros at its end. -/
theorem significant_eq (positive : 0 < digitsValue l.digits) :
    l.significant = Nat.toDigits 10 l.decimal.reduce.coefficient := by
  obtain ⟨k, coefficient, -⟩ := l.decimal.reduce_eq
  have last := l.decimal.reduce_coefficient_mod positive
  have coefficient : digitsValue l.digits = l.decimal.reduce.coefficient * 10 ^ k := coefficient
  generalize l.decimal.reduce.coefficient = c at *
  have some : 0 < c := by omega
  rw [significant, dropWhile_zeros ascii, if_neg positive.ne', coefficient,
    toDigits_mul_ten_pow some]
  apply dropEndWhile_of_last
  · intro d hd
    simpa using List.eq_of_mem_replicate hd
  · intro d hd
    rw [beq_eq_false_iff_ne]
    rintro rfl
    obtain ⟨others, ends⟩ := List.getLast?_eq_some_iff.mp hd
    have tenfold := digitsValue_concat_mod others (c := '0') rfl
    rw [← ends, digitsValue_toDigits] at tenfold
    exact last (tenfold.mpr rfl)

theorem decimal_stripped (fixed : Layout.Fixed (digitsValue l.digits) l.behind.length) :
    Layout.plain.decimal l.decimal = l.stripped := by
  -- a fraction denotes the same decimal without the zeros at its end, and none is left to reduce
  obtain ⟨fraction, zeros, split, inside, last⟩ := exists_end_run (· == '0') l.behind
  obtain ⟨k, rfl⟩ : ∃ k, zeros = List.replicate k '0' :=
    ⟨_, List.eq_replicate_of_mem fun c hc => by simpa using inside c hc⟩
  have dropped : dropEndWhile (· == '0') l.behind = fraction := by
    rw [split]
    exact dropEndWhile_of_last inside last
  have whole : l.digits = l.whole ++ fraction ++ List.replicate k '0' := by
    rw [digits, split, List.append_assoc]
  have value : digitsValue l.digits = digitsValue (l.whole ++ fraction) * 10 ^ k := by
    rw [whole, digitsValue_append_zeros]
  have length : l.behind.length = fraction.length + k := by
    rw [split, List.length_append, List.length_replicate]
  rw [value, length] at fixed
  have fixed := fixed.of_scaled
  have same : l.decimal.reduce = (Decimal.mk (digitsValue (l.whole ++ fraction))
      (-fraction.length)).reduce := by
    refine Decimal.reduce_of_scaled k value ?_ fixed.positive
    dsimp only [decimal]
    omega
  rw [Layout.plain.decimal_congr same, stripped, dropped]
  refine Layout.decimal_of_digits (fun c hc => ascii c ?_) (by simpa using last) fixed
  rw [whole]
  exact List.mem_append_left _ hc

/-- A literal of few digits with a value that is written in positions is read as a number that is
written as the literal. -/
theorem text_ofLiteral (few : l.significant.length ≤ 15)
    (placed : l.value = 0 ∨ 1 / 10000 ≤ l.value ∧ l.value < 1000000) :
    (Number.ofLiteral l.text).text = l.stripped := by
  rw [value_eq_zero_iff, value_bounds_iff] at placed
  rw [ofLiteral_text]
  rcases placed with zero | fixed
  · rw [Number.ofDecimal, decimal, if_pos zero, stripped_of_zero ascii zero]
    decide +kernel
  · have short : l.decimal.reduce.coefficient < 10 ^ 15 := by
      rwa [← Nat.length_toDigits_le_iff (by decide) (by decide),
        ← significant_eq ascii fixed.positive]
    obtain ⟨lower, upper⟩ := fixed.normal
    rw [Number.text_ofDecimal false (short.trans (by decide)) lower upper,
      decimal_stripped ascii fixed]
    rfl

end Digits

end Literal

namespace Statement

theorem execute_print_literal {l : Literal} {line : Text} (wording : Says .print [l.text] line)
    (m : Machine) : ∃ c, execute (.start m line) =
      .ok () ⟨m.write (String.ofList (Number.ofLiteral l.text).text ++ "\n"), c,
        m.room + 14⟩ := by
  have ahead : (Cursor.start l.text).skipBlanks.rest = l.text ++ [] := by
    have settled := Cursor.skipBlanks_of_literal l 0 []
    rw [List.append_nil] at settled ⊢
    exact congrArg Cursor.rest settled
  have ends : ∀ c ∈ ([] : Text).head?, isDigit c = false ∧ c ≠ '.' := nofun
  have enough : 13 + 1 ≤ m.room + 14 := Nat.le_add_left _ _
  have evaluates :=
    Eval.expression_of_literal m.context m.generator ends ahead final_nil enough
  have writes : Writes m.context (m.room + 14) (.expression l.text) m.generator
      (Number.ofLiteral l.text).text m.generator := .expression evaluates rfl
  exact execute_print_of_printed (l := .last (.expression l.text) none) wording
    (.last writes nofun)

/-- A literal of up to fifteen significant digits is printed back without superfluous zeros and
without a dangling point, if it is zero or its value is one that is written in positions. -/
theorem literal_printed_back {l : Literal} (ascii : ∀ c ∈ l.digits, c.isDigit = true)
    (few : l.significant.length ≤ 15)
    (placed : l.value = 0 ∨ 1 / 10000 ≤ l.value ∧ l.value < 1000000)
    {line : Text} (wording : Says .print [l.text] line) (m : Machine) :
    ∃ c, execute (.start m line) =
      .ok () ⟨m.write (String.ofList l.stripped ++ "\n"), c, m.room + 14⟩ := by
  rw [← Literal.text_ofLiteral ascii few placed]
  exact execute_print_literal wording m

/-- Zeros are dropped on both sides of four digits, and fifteen digits are kept. -/
theorem zeros_dropped_and_fifteen_digits_kept :
    let m := Machine.fresh 0 0 (.ofInput [])
    (∃ c, execute (.start m (ofString "PRINT 007.1250")) =
      .ok () ⟨m.write "7.125\n", c, 14⟩) ∧
    ∃ c, execute (.start m (ofString "print 999999.999999999")) =
      .ok () ⟨m.write "999999.999999999\n", c, 14⟩ := by
  intro m
  constructor
  · let l : Literal := ⟨['0', '0', '7'], some ['1', '2', '5', '0'], nofun,
      List.all_eq_true.mp (by decide +kernel), by
        rintro _ ⟨⟩
        exact List.all_eq_true.mp (by decide +kernel)⟩
    have placed : l.value = 0 ∨ 1 / 10000 ≤ l.value ∧ l.value < 1000000 :=
      .inr (l.value_bounds_iff.mpr ⟨by decide +kernel, by decide +kernel⟩)
    have wording : Says .print [l.text] (ofString "PRINT" ++ ' ' :: l.text) :=
      .of_blank (by decide +kernel) (by decide +kernel) (.bare _)
    have ascii : ∀ c ∈ l.digits, c.isDigit = true := List.all_eq_true.mp (by decide +kernel)
    exact literal_printed_back ascii (by decide +kernel) placed wording m
  · let l : Literal := ⟨List.replicate 6 '9', some (List.replicate 9 '9'), nofun,
      List.all_eq_true.mp (by decide +kernel), by
        rintro _ ⟨⟩
        exact List.all_eq_true.mp (by decide +kernel)⟩
    have placed : l.value = 0 ∨ 1 / 10000 ≤ l.value ∧ l.value < 1000000 :=
      .inr (l.value_bounds_iff.mpr ⟨by decide +kernel, by decide +kernel⟩)
    have wording : Says .print [l.text] (ofString "print" ++ ' ' :: l.text) :=
      .of_blank (by decide +kernel) (by decide +kernel) (.bare _)
    have ascii : ∀ c ∈ l.digits, c.isDigit = true := List.all_eq_true.mp (by decide +kernel)
    exact literal_printed_back ascii (by decide +kernel) placed wording m

end Statement

end NumberedBasic
