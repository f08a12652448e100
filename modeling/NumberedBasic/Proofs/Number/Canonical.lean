import Mathlib.Algebra.Order.Field.Basic
import Mathlib.Algebra.Order.Ring.Rat
import Mathlib.Tactic.FieldSimp
import NumberedBasic.Proofs.Number.Recovery

/-! # The layout is exact and canonical

Signed digits with a power of ten are laid out as a text that denotes exactly their value. The place
of the first digit decides between digits in their places and a power of ten behind them, and no
zero stands where none is needed. So different texts denote different numbers.
-/

namespace NumberedBasic

open Text

/-- The number that a text denotes, if it is made of a sign, of digits with perhaps a point among
them and of an exponent, where the sign and the exponent may be missing. -/
def denoted? (text : Text) : Option ℚ :=
  let (negative, body) := Field.takeSign text
  let whole := body.takeWhile isDigit
  let (fraction, rest) :=
    match body.dropWhile isDigit with
    | '.' :: behind => (behind.takeWhile isDigit, behind.dropWhile isDigit)
    | behind => ([], behind)
  if whole = [] ∧ fraction = [] then none
  else (Field.exponent? rest).map fun exponent =>
    (if negative then -1 else 1) * (digitsValue (whole ++ fraction) *
      (10 : ℚ) ^ (exponent - (fraction.length : Int)))

namespace Decimal

def value (d : Decimal) : ℚ :=
  d.coefficient * (10 : ℚ) ^ d.exponent

variable {d e : Decimal}

theorem value_eq_on_grid {exponent : Int} (finer : exponent ≤ d.exponent) :
    d.value = (d.coefficient * 10 ^ (d.exponent - exponent).toNat : Nat) *
      (10 : ℚ) ^ exponent := by
  obtain ⟨k, hk⟩ : ∃ k : Nat, d.exponent = k + exponent :=
    ⟨(d.exponent - exponent).toNat, by omega⟩
  have power : (d.exponent - exponent).toNat = k := by omega
  rw [value, power, hk, zpow_add₀ (by norm_num), zpow_natCast]
  push_cast
  ring

theorem value_eq_iff : d.value = e.value ↔ d.Equivalent e := by
  have power : (10 : ℚ) ^ min d.exponent e.exponent ≠ 0 := zpow_ne_zero _ (by norm_num)
  have left : (d.exponent - min d.exponent e.exponent).toNat =
      (d.exponent - e.exponent).toNat := by
    omega
  have right : (e.exponent - min d.exponent e.exponent).toNat =
      (e.exponent - d.exponent).toNat := by
    omega
  rw [value_eq_on_grid (Int.min_le_left d.exponent e.exponent),
    value_eq_on_grid (Int.min_le_right d.exponent e.exponent), mul_left_inj' power, Nat.cast_inj,
    left, right]
  rfl

/-- Decimals of one positive value are the same without the zeros at their ends. -/
theorem reduce_eq_of_equivalent (h : d.Equivalent e) (positive : 0 < d.coefficient)
    (positive' : 0 < e.coefficient) : d.reduce = e.reduce := by
  unfold Equivalent at h
  rcases Int.le_total d.exponent e.exponent with le | le
  · have none : (d.exponent - e.exponent).toNat = 0 := by omega
    rw [none, Nat.pow_zero, Nat.mul_one] at h
    exact reduce_of_scaled _ h (by omega) positive'
  · have none : (e.exponent - d.exponent).toNat = 0 := by omega
    rw [none, Nat.pow_zero, Nat.mul_one] at h
    exact (reduce_of_scaled _ h.symm (by omega) positive).symm

end Decimal

/-- A sign, digits of which the first is not zero, and a power of ten. -/
structure SignedDigits where
  negative : Bool
  digits : Text
  exponent : Int
  nonempty : digits ≠ []
  ascii : ∀ c ∈ digits, c.isDigit = true
  leading : ∀ c ∈ digits.head?, c ≠ '0'

def signText (negative : Bool) : Text :=
  if negative then ['-'] else []

namespace SignedDigits

def decimal (d : SignedDigits) : Decimal :=
  ⟨digitsValue d.digits, d.exponent⟩

def value (d : SignedDigits) : ℚ :=
  (if d.negative then -1 else 1) * (digitsValue d.digits * (10 : ℚ) ^ d.exponent)

def order (d : SignedDigits) : Int :=
  d.digits.length + d.exponent - 1

def text (d : SignedDigits) : Text :=
  signText d.negative ++ Layout.plain.decimal d.decimal

end SignedDigits

/-- The text is written without an exponent. A zero stands before the point only if nothing else
does, which is so below one, and none ends what is behind the point. -/
def FixedForm (order : Int) (text : Text) : Prop :=
  ∃ whole fraction : Text, text = whole ++ (if fraction = [] then [] else '.' :: fraction) ∧
    whole ≠ [] ∧ (∀ c ∈ whole ++ fraction, c.isDigit = true) ∧
    (∀ c ∈ fraction.getLast?, c ≠ '0') ∧ (whole.head? = some '0' ↔ order < 0) ∧
    (order < 0 → whole = ['0'])

/-- The text is one digit that is not zero, a point if more digits follow, of which the last is not
zero, and the order with its sign and at least two digits. -/
def ScientificForm (order : Int) (text : Text) : Prop :=
  ∃ (first : Char) (others : Text), text =
      first :: (if others = [] then [] else '.' :: others) ++
        'e' :: (if order < 0 then '-' else '+') ::
          List.leftpad 2 '0' (Nat.toDigits 10 order.natAbs) ∧
    first ≠ '0' ∧ (∀ c ∈ first :: others, c.isDigit = true) ∧ ∀ c ∈ others.getLast?, c ≠ '0'

namespace Layout

theorem exponentPart_eq (order : Int) : exponentPart order =
    (if order < 0 then '-' else '+') :: List.leftpad 2 '0' (Nat.toDigits 10 order.natAbs) := by
  have some : 0 < (Nat.toDigits 10 order.natAbs).length := Nat.length_toDigits_pos
  unfold exponentPart List.leftpad
  dsimp only
  by_cases short : (Nat.toDigits 10 order.natAbs).length < 2
  · have one : 2 - (Nat.toDigits 10 order.natAbs).length = 1 := by omega
    rw [if_pos short, one]
    rfl
  · have none : 2 - (Nat.toDigits 10 order.natAbs).length = 0 := by omega
    rw [if_neg short, none]
    rfl

end Layout

namespace Numeral

variable {n : Numeral} (h : n.WellFormed)

include h

theorem denoted?_text (negative : Bool) : denoted? (signText negative ++ n.text) =
    some ((if negative then -1 else 1) * n.decimal.value) := by
  have sign : Field.takeSign (signText negative ++ n.text) = (negative, n.text) := by
    cases negative with
    | true => rfl
    | false =>
      obtain ⟨c, rest, text, digit⟩ := Field.exists_digit_text h
      rw [text]
      exact Number.takeSign_of_isDigit digit rest
  obtain ⟨take, drop⟩ := Field.run_text h
  have value (fraction : Text) : (Field.exponent? n.ending).map (fun exponent =>
      (if negative then (-1 : ℚ) else 1) * (digitsValue (n.whole ++ fraction) *
        (10 : ℚ) ^ (exponent - (fraction.length : Int)))) =
      some ((if negative then -1 else 1) * (digitsValue (n.whole ++ fraction) *
        (10 : ℚ) ^ (n.exponent.getD 0 - (fraction.length : Int)))) := by
    rw [Field.exponent?_ending n]
    rfl
  unfold denoted?
  rw [sign]
  dsimp only
  rw [take, drop]
  by_cases bare : n.fraction = []
  · have point (rest : Text) : n.ending ≠ '.' :: rest := fun same =>
      (Field.head_ending n '.' (by rw [same]; rfl)).2 rfl
    rw [if_pos bare]
    split
    · exact absurd ‹_› (point _)
    · rw [if_neg fun none => h.nonempty none.1, value, Decimal.value, decimal, bare]
  · have inside : ∀ c ∈ n.fraction, isDigit c = true := fun c hc =>
      Field.isDigit_of_isDigit (h.fraction c hc)
    have outside : ∀ c ∈ n.ending.head?, isDigit c = false := fun c hc =>
      (Field.head_ending n c hc).1
    rw [if_neg bare]
    simp only [takeWhile_run inside outside, dropWhile_run inside outside]
    rw [if_neg fun none => h.nonempty none.1, value, Decimal.value, decimal]

end Numeral

structure Text.Stripped (digits : Text) : Prop where
  nonempty : digits ≠ []
  ascii : ∀ c ∈ digits, c.isDigit = true
  first : ∀ c ∈ digits.head?, c ≠ '0'
  last : ∀ c ∈ digits.getLast?, c ≠ '0'

theorem Text.toDigits_digitsValue {digits : Text} (nonempty : digits ≠ [])
    (ascii : ∀ c ∈ digits, c.isDigit = true) (leading : ∀ c ∈ digits.head?, c ≠ '0') :
    0 < digitsValue digits ∧ Nat.toDigits 10 (digitsValue digits) = digits := by
  have dropped := dropWhile_zeros ascii
  have whole : digits.dropWhile (· == '0') = digits := by
    have stops : ∀ c ∈ digits.head?, (c == '0') = false := fun c hc => by
      simpa using leading c hc
    have none : ∀ c ∈ ([] : Text), (c == '0') = true := nofun
    exact dropWhile_run none stops
  rw [whole] at dropped
  by_cases zero : digitsValue digits = 0
  · rw [if_pos zero] at dropped
    exact absurd dropped nonempty
  · rw [if_neg zero] at dropped
    exact ⟨Nat.pos_of_ne_zero zero, dropped.symm⟩

theorem Text.head_toDigits {n : Nat} (positive : 0 < n) :
    ∀ c ∈ (Nat.toDigits 10 n).head?, c ≠ '0' := by
  have ascii : ∀ c ∈ Nat.toDigits 10 n, c.isDigit = true := fun _ =>
    Nat.isDigit_of_mem_toDigits (by decide) (by decide)
  have dropped := dropWhile_zeros ascii
  rw [digitsValue_toDigits, if_neg positive.ne'] at dropped
  intro c hc zero
  have head := List.head?_dropWhile_not (· == '0') (Nat.toDigits 10 n)
  rw [dropped, Option.mem_def.mp hc] at head
  simp [zero] at head

theorem Decimal.stripped_toDigits {d : Decimal} (positive : 0 < d.coefficient) :
    Stripped (Nat.toDigits 10 d.reduce.coefficient) where
  nonempty := Nat.toDigits_ne_nil
  ascii := d.digits_toDigits.inside
  first := by
    have last := d.reduce_coefficient_mod positive
    exact head_toDigits (by omega)
  last := by
    rintro c hc rfl
    obtain ⟨others, ends⟩ := List.getLast?_eq_some_iff.mp hc
    have tenfold := digitsValue_concat_mod others (c := '0') rfl
    rw [← ends, digitsValue_toDigits] at tenfold
    exact d.reduce_coefficient_mod positive (tenfold.mpr rfl)

namespace Text.Stripped

variable {digits : Text} (h : digits.Stripped)

include h

theorem fixedForm (point : Int) :
    FixedForm (point - 1) (Layout.plain.positional digits point) := by
  have suffix : Layout.plain.wholeSuffix = [] := rfl
  unfold Layout.positional
  by_cases low : point ≤ 0
  · rw [if_pos low]
    refine ⟨['0'], List.replicate (-point).toNat '0' ++ digits, ?_, List.cons_ne_nil _ _, ?_, ?_,
      iff_of_true rfl (by omega), fun _ => rfl⟩
    · simp [h.nonempty]
    · exact List.forall_mem_append.mpr ⟨Decimal.isDigit_zeros 1,
        List.forall_mem_append.mpr ⟨Decimal.isDigit_zeros _, h.ascii⟩⟩
    · rw [List.getLast?_append_of_ne_nil _ h.nonempty]
      exact h.last
  · have head : digits.head? ≠ some '0' := fun zero => h.first '0' zero rfl
    have none : ¬(point - 1 < 0) := by omega
    rw [if_neg low]
    by_cases high : digits.length ≤ point
    · rw [if_pos high, suffix, List.append_nil]
      refine ⟨digits ++ List.replicate (point - digits.length).toNat '0', [], by simp,
        List.append_ne_nil_of_left_ne_nil h.nonempty _, ?_, nofun, iff_of_false ?_ none,
        fun low => absurd low none⟩
      · rw [List.append_nil]
        exact List.forall_mem_append.mpr ⟨h.ascii, Decimal.isDigit_zeros _⟩
      · rwa [List.head?_append_of_ne_nil _ h.nonempty]
    · rw [if_neg high]
      have some : digits.drop point.toNat ≠ [] := by
        rw [Ne, List.drop_eq_nil_iff]
        omega
      refine ⟨digits.take point.toNat, digits.drop point.toNat, by simp [some], ?_, ?_, ?_,
        iff_of_false ?_ none, fun low => absurd low none⟩
      · rw [Ne, List.take_eq_nil_iff]
        exact not_or.mpr ⟨by omega, h.nonempty⟩
      · rw [List.take_append_drop]
        exact h.ascii
      · rw [List.getLast?_drop, if_neg (by omega)]
        exact h.last
      · rwa [List.head?_take, if_neg (by omega)]

theorem scientificForm (order : Int) : ScientificForm order (Layout.scientific digits order) := by
  obtain ⟨first, others, rfl⟩ := List.exists_cons_of_ne_nil h.nonempty
  refine ⟨first, others, ?_, h.first first rfl, h.ascii, ?_⟩
  · rw [← Layout.exponentPart_eq]
    cases others <;> rfl
  · intro c hc
    refine h.last c ?_
    rw [List.getLast?_cons, Option.mem_def.mp hc]
    rfl

end Text.Stripped

namespace SignedDigits

variable (d : SignedDigits)

theorem digits_eq : 0 < d.decimal.coefficient ∧ Nat.toDigits 10 d.decimal.coefficient = d.digits :=
  toDigits_digitsValue d.nonempty d.ascii d.leading

theorem order_eq : d.decimal.reduce.order = d.order := by
  obtain ⟨positive, digits⟩ := d.digits_eq
  rw [Decimal.order_reduce positive, Decimal.order, digits]
  rfl

theorem denoted?_text : denoted? d.text = some d.value := by
  have written : d.decimal.WrittenAs _ (Layout.plain.decimal d.decimal) :=
    Layout.decimal_writtenAs rfl d.decimal
  obtain ⟨n, wellFormed, text, equivalent, -⟩ := written
  have value : n.decimal.value = d.decimal.value := (Decimal.value_eq_iff.mpr equivalent).symm
  rw [SignedDigits.text, text, Numeral.denoted?_text wellFormed, value]
  rfl

theorem form : if -4 ≤ d.order ∧ d.order < 6 then
    FixedForm d.order (Layout.plain.decimal d.decimal)
    else ScientificForm d.order (Layout.plain.decimal d.decimal) := by
  have stripped := Decimal.stripped_toDigits d.digits_eq.1
  have order : (Nat.toDigits 10 d.decimal.reduce.coefficient).length +
      d.decimal.reduce.exponent - 1 = d.order := d.order_eq
  have placed : Layout.plain.Positional d.decimal.reduce.order ↔ -4 ≤ d.order ∧ d.order < 6 := by
    rw [d.order_eq]
    rfl
  by_cases fixed : -4 ≤ d.order ∧ d.order < 6
  · rw [if_pos fixed, Layout.decimal_of_positional (placed.mpr fixed), ← order]
    exact stripped.fixedForm _
  · have text : Layout.plain.decimal d.decimal = Layout.scientific
        (Nat.toDigits 10 d.decimal.reduce.coefficient) d.decimal.reduce.order :=
      if_neg (mt placed.mp fixed)
    rw [if_neg fixed, text, d.order_eq]
    exact stripped.scientificForm _

/-- Only an exponent brings its letter into the text. -/
theorem exponent_iff : 'e' ∈ d.text ↔ ¬(-4 ≤ d.order ∧ d.order < 6) := by
  have form := d.form
  have sign : 'e' ∉ signText d.negative := by
    cases d.negative <;> decide
  rw [text, List.mem_append, or_iff_right sign]
  split at form
  · rename_i fixed
    obtain ⟨whole, fraction, text, -, ascii, -⟩ := form
    refine iff_of_false (fun letter => ?_) (not_not.mpr fixed)
    have other : 'e' ∉ whole ++ fraction := fun mem => absurd (ascii 'e' mem) (by decide)
    obtain ⟨before, behind⟩ := not_or.mp (mt List.mem_append.mpr other)
    rw [text] at letter
    rcases List.mem_append.mp letter with mem | mem
    · exact before mem
    · split at mem
      · cases mem
      · exact behind (List.mem_of_ne_of_mem (by decide) mem)
  · rename_i scientific
    obtain ⟨first, others, text, -⟩ := form
    refine iff_of_true ?_ scientific
    rw [text]
    simp

theorem value_eq : d.value = (if d.negative then -1 else 1) * d.decimal.value :=
  rfl

theorem value_pos : 0 < d.decimal.value := by
  have positive : (0 : ℚ) < d.decimal.coefficient := Nat.cast_pos.mpr d.digits_eq.1
  exact mul_pos positive (zpow_pos (by norm_num) _)

/-- A sign and a decimal are written alike only if both are the same. -/
theorem text_eq_iff (d d' : SignedDigits) : d'.text = d.text ↔ d'.value = d.value := by
  constructor
  · intro same
    have denoted := d'.denoted?_text
    rw [same, d.denoted?_text] at denoted
    exact (Option.some.inj denoted).symm
  · intro same
    have positive := d.value_pos
    have positive' := d'.value_pos
    rw [value_eq, value_eq] at same
    have sign : d'.negative = d.negative := by
      cases h : d.negative <;> cases h' : d'.negative <;> simp only [h, h'] at same ⊢
      all_goals
        simp only [Bool.false_eq_true, if_true, if_false] at same
        linarith
    rw [sign] at same
    have factor : (if d.negative then (-1 : ℚ) else 1) ≠ 0 := by
      split <;> norm_num
    have equivalent := Decimal.value_eq_iff.mp (mul_left_cancel₀ factor same)
    have reduced := Decimal.reduce_eq_of_equivalent equivalent d'.digits_eq.1 d.digits_eq.1
    rw [text, text, sign, Layout.plain.decimal_congr reduced]

def ofDecimal (negative : Bool) (d : Decimal) (positive : 0 < d.coefficient) : SignedDigits where
  negative := negative
  digits := Nat.toDigits 10 d.coefficient
  exponent := d.exponent
  nonempty := Nat.toDigits_ne_nil
  ascii _ := Nat.isDigit_of_mem_toDigits (by decide) (by decide)
  leading := head_toDigits positive

theorem decimal_ofDecimal (negative : Bool) (d : Decimal) (positive : 0 < d.coefficient) :
    (ofDecimal negative d positive).decimal = d := by
  cases d
  exact congrArg (Decimal.mk · _) (digitsValue_toDigits _)

end SignedDigits

theorem Number.exists_signedDigits (negative : Bool) {x : Magnitude} (some : x.rank ≠ 0) :
    ∃ d : SignedDigits, d.negative = negative ∧ d.decimal = x.shortest ∧
      (finite negative x).text = d.text := by
  have positive := (Magnitude.covers_shortest (Nat.pos_of_ne_zero some)).1
  have decimal := SignedDigits.decimal_ofDecimal negative x.shortest positive
  refine ⟨.ofDecimal negative x.shortest positive, rfl, decimal, ?_⟩
  have magnitude : Layout.plain.magnitude x = Layout.plain.decimal x.shortest := if_neg some
  rw [SignedDigits.text, decimal, ← magnitude]
  rfl

/-- Signed digits with a power of ten are written as a text that denotes their value, in places
exactly if the first digit is near the point, and all ways to write one value give one text. What is
printed for a number is such a text. -/
theorem layout_exact :
    (∀ d : SignedDigits, denoted? d.text = some d.value ∧
      (∃ body, d.text = signText d.negative ++ body ∧
        if -4 ≤ d.order ∧ d.order < 6 then FixedForm d.order body
        else ScientificForm d.order body) ∧
      ('e' ∈ d.text ↔ ¬(-4 ≤ d.order ∧ d.order < 6)) ∧
      ∀ d' : SignedDigits, d'.text = d.text ↔ d'.value = d.value) ∧
    ∀ (negative : Bool) (x : Magnitude), x.rank ≠ 0 → ∃ d : SignedDigits,
      d.negative = negative ∧ d.decimal = x.shortest ∧ (Number.finite negative x).text = d.text :=
  ⟨fun d => ⟨d.denoted?_text, ⟨_, rfl, d.form⟩, d.exponent_iff, d.text_eq_iff⟩,
    fun negative _ some => Number.exists_signedDigits negative some⟩

/-- Zeros at the end of the digits count for the place of the first one, here the last place without
an exponent and the first one with it. -/
example : (SignedDigits.ofDecimal true ⟨120, 3⟩ (by decide)).text =
      ['-', '1', '2', '0', '0', '0', '0'] ∧
    (SignedDigits.ofDecimal true ⟨120, 4⟩ (by decide)).text =
      ['-', '1', '.', '2', 'e', '+', '0', '6'] := by
  decide +kernel

end NumberedBasic
