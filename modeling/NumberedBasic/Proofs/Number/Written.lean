import Mathlib.Data.Bool.AllAny
import Mathlib.Data.List.Induction
import Mathlib.Tactic.Ring
import NumberedBasic.Decimal.Layout
import NumberedBasic.Proofs.Number.Shortest
import NumberedBasic.Proofs.Text.Line

/-! # Written numbers read back

A written decimal is made of digits before and behind a point and perhaps of an exponent,
wherever its layout puts the point. Its value is that of the decimal, so that a field with a
written number is read as this number. The place of the first digit decides whether there is an
exponent.
-/

namespace NumberedBasic

namespace Text

theorem digitsValue_append (digits more : Text) : digitsValue (digits ++ more) =
    more.foldl (fun n c => 10 * n + (digitValue? c).getD 0) (digitsValue digits) :=
  List.foldl_append

theorem digitsValue_append_zeros (digits : Text) (count : Nat) :
    digitsValue (digits ++ List.replicate count '0') = digitsValue digits * 10 ^ count := by
  rw [digitsValue_append]
  generalize digitsValue digits = n
  induction count generalizing n with
  | zero => simp
  | succ count ih =>
    have zero : (digitValue? '0').getD 0 = 0 := rfl
    rw [List.replicate_succ, List.foldl_cons, ih, zero, Nat.pow_succ]
    ring

theorem digitsValue_zeros_append (count : Nat) (digits : Text) :
    digitsValue (List.replicate count '0' ++ digits) = digitsValue digits := by
  have zeros : digitsValue (List.replicate count '0') = 0 := by
    have h := digitsValue_append_zeros [] count
    simpa [digitsValue] using h
  rw [digitsValue_append, zeros]
  rfl

theorem exists_last_digit {c : Char} (h : c.isDigit = true) : ∃ n < 10, Nat.toDigits 10 n = [c] ∧
    (n = 0 ↔ c = '0') ∧ ∀ digits, digitsValue (digits ++ [c]) = 10 * digitsValue digits + n := by
  obtain ⟨lower, upper⟩ := Char.isDigit_iff_toNat.mp h
  have zero : '0'.toNat = 48 := rfl
  have nine : '9'.toNat = 57 := rfl
  have small : c.toNat - '0'.toNat < 10 := by omega
  have same : (c.toNat - '0'.toNat).digitChar = c := by
    rw [← Char.toNat_inj, Nat.toNat_digitChar_of_lt_ten small]
    omega
  refine ⟨c.toNat - '0'.toNat, small, ?_, ?_, fun digits => ?_⟩
  · rw [Nat.toDigits_of_lt_base small, same]
  · rw [← Char.toNat_inj]
    omega
  · rw [digitsValue_append, List.foldl_cons, digitValue?_of_isDigit h]
    rfl

theorem digitsValue_concat_mod (digits : Text) {c : Char} (h : c.isDigit = true) :
    digitsValue (digits ++ [c]) % 10 = 0 ↔ c = '0' := by
  obtain ⟨n, small, -, zero, value⟩ := exists_last_digit h
  rw [value, ← zero]
  omega

/-- Without its leading zeros a text of digits is the digits of its value. -/
theorem dropWhile_zeros {text : Text} (ascii : ∀ c ∈ text, c.isDigit = true) :
    text.dropWhile (· == '0') =
      if digitsValue text = 0 then [] else Nat.toDigits 10 (digitsValue text) := by
  induction text using List.reverseRecOn with
  | nil => rfl
  | append_singleton text c ih =>
    obtain ⟨before, last⟩ := List.forall_mem_append.mp ascii
    obtain ⟨n, small, alone, none, value⟩ := exists_last_digit (last c List.mem_cons_self)
    rw [List.dropWhile_append, ih before, value]
    by_cases zero : digitsValue text = 0
    · simp [zero, alone, List.dropWhile_cons, none]
    · have some : 10 * digitsValue text + n ≠ 0 := by omega
      rw [if_neg zero, if_neg some, if_neg (by simp), ← alone]
      exact Nat.toDigits_append_toDigits (by decide) (Nat.pos_of_ne_zero zero) small

end Text

/-- The parts of a written decimal. -/
structure Numeral where
  whole : Text
  fraction : Text
  exponent : Option Int

namespace Numeral

def ending (n : Numeral) : Text :=
  match n.exponent with
  | none => []
  | some exponent => 'e' :: Layout.exponentPart exponent

def text (n : Numeral) : Text :=
  n.whole ++ (if n.fraction = [] then n.ending else '.' :: (n.fraction ++ n.ending))

def bare (n : Numeral) : Numeral :=
  { n with exponent := none }

theorem text_eq (n : Numeral) : n.text = n.bare.text ++ n.ending := by
  by_cases none : n.fraction = [] <;> simp [text, ending, bare, none]

def decimal (n : Numeral) : Decimal :=
  ⟨Text.digitsValue (n.whole ++ n.fraction), n.exponent.getD 0 - n.fraction.length⟩

/-- There are digits before the point, and nothing but digits on its two sides. -/
structure WellFormed (n : Numeral) : Prop where
  nonempty : n.whole ≠ []
  whole : ∀ c ∈ n.whole, c.isDigit = true
  fraction : ∀ c ∈ n.fraction, c.isDigit = true

theorem WellFormed.bare {n : Numeral} (h : n.WellFormed) : n.bare.WellFormed :=
  ⟨h.nonempty, h.whole, h.fraction⟩

end Numeral

namespace Field

theorem exponent?_minus {digits : Text} (nonempty : digits ≠ [])
    (all : digits.all Text.isDigit = true) :
    exponent? ('e' :: '-' :: digits) = some (-(Text.digitsValue digits : Int)) := by
  simp [exponent?, takeSign, nonempty, all]

theorem exponent?_plus {digits : Text} (nonempty : digits ≠ [])
    (all : digits.all Text.isDigit = true) :
    exponent? ('e' :: '+' :: digits) = some (Text.digitsValue digits : Int) := by
  simp [exponent?, takeSign, nonempty, all]

theorem exponent?_exponentPart (exponent : Int) :
    exponent? ('e' :: Layout.exponentPart exponent) = some exponent := by
  obtain ⟨digits, hd⟩ : ∃ digits, digits = (if (Nat.toDigits 10 exponent.natAbs).length < 2 then
      '0' :: Nat.toDigits 10 exponent.natAbs else Nat.toDigits 10 exponent.natAbs) := ⟨_, rfl⟩
  have part : Layout.exponentPart exponent = (if exponent < 0 then '-' else '+') :: digits := by
    rw [hd]
    rfl
  obtain ⟨value, all, nonempty⟩ : Text.digitsValue digits = exponent.natAbs ∧
      digits.all Text.isDigit = true ∧ digits ≠ [] := by
    have all : (Nat.toDigits 10 exponent.natAbs).all Text.isDigit = true :=
      List.all_eq_true.mpr fun c => Text.isDigit_of_mem_toDigits
    rw [hd]
    split
    · refine ⟨?_, ?_, List.cons_ne_nil _ _⟩
      · exact (Text.digitsValue_zeros_append 1 _).trans (Text.digitsValue_toDigits _)
      · rw [List.all_cons, all]
        rfl
    · exact ⟨Text.digitsValue_toDigits _, all, Nat.toDigits_ne_nil⟩
  rw [part]
  split
  · rw [exponent?_minus nonempty all, value]
    exact congrArg some (by omega)
  · rw [exponent?_plus nonempty all, value]
    exact congrArg some (by omega)

theorem exponent?_ending (n : Numeral) : exponent? n.ending = some (n.exponent.getD 0) := by
  unfold Numeral.ending
  cases n.exponent with
  | none => rfl
  | some exponent => exact exponent?_exponentPart exponent

theorem isDigit_of_isDigit {c : Char} (h : c.isDigit = true) : Text.isDigit c = true := by
  rw [Text.isDigit, Text.digitValue?_of_isDigit h]
  rfl

theorem head_ending (n : Numeral) : ∀ c ∈ n.ending.head?, Text.isDigit c = false ∧ c ≠ '.' := by
  unfold Numeral.ending
  cases n.exponent with
  | none => nofun
  | some exponent =>
    rintro _ ⟨⟩
    exact ⟨by decide +kernel, by decide⟩

theorem toLower_of_isDigit {c : Char} (h : c.isDigit = true) : c.toLower = c := by
  obtain ⟨-, upper⟩ := Char.isDigit_iff_toNat.mp h
  unfold Char.toLower
  refine dif_neg fun capital => ?_
  have := capital.1
  have : 'A'.toNat ≤ c.toNat := this
  have : '9'.toNat < 'A'.toNat := by decide
  omega

theorem ne_of_isDigit {c : Char} (h : c.isDigit = true) (text : Text) {first : Char}
    (letter : first.isDigit = false) (others : Text) :
    (c :: text).map Char.toLower ≠ first :: others := by
  rw [List.map_cons, toLower_of_isDigit h]
  intro same
  rw [List.head_eq_of_cons_eq same, letter] at h
  exact Bool.false_ne_true h

section Parts

variable {n : Numeral} (h : n.WellFormed)

include h

theorem exists_digit_text : ∃ c rest, n.text = c :: rest ∧ c.isDigit = true := by
  obtain ⟨c, whole, hw⟩ := List.exists_cons_of_ne_nil h.nonempty
  have digit : c.isDigit = true := h.whole c (hw ▸ List.mem_cons_self)
  rw [Numeral.text, hw]
  exact ⟨c, _, List.cons_append, digit⟩

theorem run_text : n.text.takeWhile Text.isDigit = n.whole ∧ n.text.dropWhile Text.isDigit =
    if n.fraction = [] then n.ending else '.' :: (n.fraction ++ n.ending) := by
  have behind : ∀ c ∈ (if n.fraction = [] then n.ending
      else '.' :: (n.fraction ++ n.ending)).head?, Text.isDigit c = false := by
    split
    · exact fun c hc => (head_ending n c hc).1
    · rintro _ ⟨⟩
      decide +kernel
  have inside : ∀ c ∈ n.whole, Text.isDigit c = true := fun c hc =>
    isDigit_of_isDigit (h.whole c hc)
  exact ⟨Text.takeWhile_run inside behind, Text.dropWhile_run inside behind⟩

theorem unsigned?_text (negative : Bool) :
    unsigned? negative n.text = some (Number.ofDecimal negative n.decimal) := by
  obtain ⟨take, drop⟩ := run_text h
  have value (fraction : Text) : (exponent? n.ending).map
      (Number.ofDigits negative n.whole fraction) = some (Number.ofDecimal negative
        ⟨Text.digitsValue (n.whole ++ fraction), n.exponent.getD 0 - fraction.length⟩) := by
    rw [exponent?_ending n]
    rfl
  have some : n.whole.isEmpty = false := List.isEmpty_eq_false_iff.mpr h.nonempty
  obtain ⟨c, rest, text, digit⟩ := exists_digit_text h
  have named (first : Char) (letter : first.isDigit = false) (others : Text) :
      n.text.map Char.toLower ≠ first :: others := text ▸ ne_of_isDigit digit rest letter others
  have finite : ¬(n.text.map Char.toLower = Text.ofString "inf" ∨
      n.text.map Char.toLower = Text.ofString "infinity") :=
    not_or.mpr ⟨named 'i' (by decide) _, named 'i' (by decide) _⟩
  have defined : n.text.map Char.toLower ≠ Text.ofString "nan" := named 'n' (by decide) _
  unfold unsigned?
  dsimp only
  rw [if_neg finite, if_neg defined, take, drop]
  by_cases bare : n.fraction = []
  · have point (rest : Text) : n.ending ≠ '.' :: rest := fun same =>
      (head_ending n '.' (by rw [same]; rfl)).2 rfl
    rw [if_pos bare, Numeral.decimal, bare]
    split
    · exact absurd ‹_› (point _)
    · simp only [some, Bool.false_and, Bool.false_eq_true, if_false, value]
  · rw [if_neg bare]
    have inside : ∀ c ∈ n.fraction, Text.isDigit c = true := fun c hc =>
      isDigit_of_isDigit (h.fraction c hc)
    have outside : ∀ c ∈ n.ending.head?, Text.isDigit c = false := fun c hc =>
      (head_ending n c hc).1
    simp only [Text.takeWhile_run inside outside, Text.dropWhile_run inside outside, some,
      Bool.false_and, Bool.false_eq_true, if_false, value, Numeral.decimal]

end Parts

end Field

theorem Decimal.equivalent_reduce_mul (d : Decimal) (k : Nat) :
    d.Equivalent ⟨d.reduce.coefficient * 10 ^ k, d.reduce.exponent - k⟩ := by
  obtain ⟨j, coefficient, exponent⟩ := d.reduce_eq
  unfold Equivalent
  dsimp only
  have less : (d.exponent - (d.reduce.exponent - k)).toNat = k - j := by omega
  have more : (d.reduce.exponent - k - d.exponent).toNat = j - k := by omega
  have common : j + (k - j) = k + (j - k) := by omega
  rw [less, more, coefficient, Nat.mul_assoc, Nat.mul_assoc, ← Nat.pow_add, ← Nat.pow_add, common]

theorem toDigits_mul_ten_pow {n : Nat} (positive : 0 < n) (k : Nat) :
    Nat.toDigits 10 (n * 10 ^ k) = Nat.toDigits 10 n ++ List.replicate k '0' := by
  induction k with
  | zero => rw [Nat.pow_zero, Nat.mul_one, List.replicate_zero, List.append_nil]
  | succ k ih =>
    have more : 10 * (n * 10 ^ k) + 0 = n * 10 ^ (k + 1) := by ring
    have some : 0 < n * 10 ^ k := Nat.mul_pos positive (Nat.pow_pos (by decide))
    rw [← more, ← Nat.toDigits_append_toDigits (by decide) some (by decide), ih,
      List.replicate_succ', List.append_assoc]
    rfl

namespace Decimal

def order (d : Decimal) : Int :=
  (Nat.toDigits 10 d.coefficient).length + d.exponent - 1

theorem order_reduce {d : Decimal} (positive : 0 < d.coefficient) : d.reduce.order = d.order := by
  obtain ⟨k, coefficient, exponent⟩ := d.reduce_eq
  have some : 0 < d.reduce.coefficient := Nat.pos_of_mul_pos_right (coefficient ▸ positive)
  unfold order
  rw [coefficient, toDigits_mul_ten_pow some, exponent, List.length_append,
    List.length_replicate]
  omega

/-- The text is a numeral of the same value with the given exponent, if any. Before an exponent
there is one digit ahead of the point. -/
def WrittenAs (d : Decimal) (exponent : Option Int) (text : Text) : Prop :=
  ∃ n : Numeral, n.WellFormed ∧ text = n.text ∧ d.Equivalent n.decimal ∧
    n.exponent = exponent ∧ ∀ e ∈ exponent, n.whole.length = 1

structure Digits (d : Decimal) (digits : Text) : Prop where
  nonempty : digits ≠ []
  inside : ∀ c ∈ digits, c.isDigit = true
  value : Text.digitsValue digits = d.reduce.coefficient

theorem digits_toDigits (d : Decimal) : d.Digits (Nat.toDigits 10 d.reduce.coefficient) where
  nonempty := Nat.toDigits_ne_nil
  inside _ := Nat.isDigit_of_mem_toDigits (by decide) (by decide)
  value := Text.digitsValue_toDigits _

theorem equivalent_of_reduce {d e : Decimal} (coefficient : e.coefficient = d.reduce.coefficient)
    (exponent : e.exponent = d.reduce.exponent) : d.Equivalent e := by
  have same : e = d.reduce := by
    cases e
    cases h : d.reduce
    simp_all
  exact same ▸ d.equivalent_reduce

theorem isDigit_zeros (count : Nat) : ∀ c ∈ List.replicate count '0', c.isDigit = true := by
  intro c hc
  rw [List.eq_of_mem_replicate hc]
  rfl

namespace Digits

variable {d : Decimal} {digits : Text} (h : d.Digits digits)

include h

theorem fraction (low : digits.length + d.reduce.exponent ≤ 0) : d.WrittenAs none
    ('0' :: '.' ::
      (List.replicate (-(digits.length + d.reduce.exponent)).toNat '0' ++ digits)) := by
  refine ⟨⟨['0'], List.replicate (-(digits.length + d.reduce.exponent)).toNat '0' ++ digits,
    none⟩, ⟨List.cons_ne_nil _ _, isDigit_zeros 1, ?_⟩, ?_, equivalent_of_reduce ?_ ?_, rfl,
    nofun⟩
  · exact List.forall_mem_append.mpr ⟨isDigit_zeros _, h.inside⟩
  · simp [Numeral.text, Numeral.ending, h.nonempty]
  · exact ((Text.digitsValue_zeros_append 1 _).trans
      (Text.digitsValue_zeros_append _ _)).trans h.value
  · simp only [Numeral.decimal, List.length_append, List.length_replicate, Option.getD_none]
    omega

theorem whole {k : Nat} (exponent : d.reduce.exponent = k) :
    d.WrittenAs none (digits ++ List.replicate k '0') := by
  refine ⟨⟨digits ++ List.replicate k '0', [], none⟩,
    ⟨List.append_ne_nil_of_left_ne_nil h.nonempty _, ?_, nofun⟩, ?_, ?_, rfl, nofun⟩
  · exact List.forall_mem_append.mpr ⟨h.inside, isDigit_zeros _⟩
  · exact (List.append_nil _).symm
  · have equivalent := d.equivalent_reduce_mul k
    rw [exponent, Int.sub_self, ← h.value, ← Text.digitsValue_append_zeros] at equivalent
    rw [Numeral.decimal, List.append_nil]
    exact equivalent

theorem between {point : Nat} (place : (point : Int) = digits.length + d.reduce.exponent)
    (low : 0 < point) (high : point < digits.length) :
    d.WrittenAs none (digits.take point ++ '.' :: digits.drop point) := by
  have some : digits.drop point ≠ [] := by
    rw [Ne, List.drop_eq_nil_iff]
    omega
  refine ⟨⟨digits.take point, digits.drop point, none⟩, ⟨?_, ?_, ?_⟩, ?_,
    equivalent_of_reduce ?_ ?_, rfl, nofun⟩
  · rw [Ne, List.take_eq_nil_iff]
    exact not_or.mpr ⟨by omega, h.nonempty⟩
  · exact fun c hc => h.inside c (List.mem_of_mem_take hc)
  · exact fun c hc => h.inside c (List.mem_of_mem_drop hc)
  · simp [Numeral.text, Numeral.ending, some]
  · rw [Numeral.decimal, List.take_append_drop]
    exact h.value
  · simp only [Numeral.decimal, List.length_drop, Option.getD_none]
    omega

theorem scientific : d.WrittenAs (some (digits.length + d.reduce.exponent - 1))
    (Layout.scientific digits (digits.length + d.reduce.exponent - 1)) := by
  obtain ⟨first, others, rfl⟩ := List.exists_cons_of_ne_nil h.nonempty
  obtain ⟨digit, digits⟩ := List.forall_mem_cons.mp h.inside
  refine ⟨⟨[first], others, some ((first :: others).length + d.reduce.exponent - 1)⟩,
    ⟨List.cons_ne_nil _ _, List.forall_mem_singleton.mpr digit, digits⟩, ?_,
    equivalent_of_reduce h.value ?_, rfl, fun _ _ => rfl⟩
  · cases others <;> rfl
  · simp only [Numeral.decimal, List.length_cons, Option.getD_some]
    omega

end Digits

end Decimal

namespace Layout

variable {layout : Layout}

/-- The first digit has a place at which a layout needs no exponent. -/
def Positional (layout : Layout) (order : Int) : Prop :=
  layout.positionalFrom ≤ order ∧ order < layout.positionalBelow

instance (layout : Layout) (order : Int) : Decidable (layout.Positional order) :=
  inferInstanceAs (Decidable (_ ∧ _))

theorem decimal_of_positional {d : Decimal} (placed : layout.Positional d.reduce.order) :
    layout.decimal d = layout.positional (Nat.toDigits 10 d.reduce.coefficient)
      ((Nat.toDigits 10 d.reduce.coefficient).length + d.reduce.exponent) :=
  if_pos placed

/-- Each way to write the digits of a decimal is a numeral of the same value. -/
theorem decimal_writtenAs (bare : layout.wholeSuffix = []) (d : Decimal) :
    d.WrittenAs (if layout.Positional d.reduce.order then none else some d.reduce.order)
      (layout.decimal d) := by
  obtain ⟨digits, hd⟩ : ∃ digits, digits = Nat.toDigits 10 d.reduce.coefficient := ⟨_, rfl⟩
  have h : d.Digits digits := hd ▸ d.digits_toDigits
  have order : d.reduce.order = digits.length + d.reduce.exponent - 1 := by
    rw [hd]
    rfl
  by_cases placed : layout.Positional d.reduce.order
  · rw [decimal_of_positional placed, ← hd, if_pos placed]
    unfold positional
    split
    · exact h.fraction ‹_›
    · split
      · rw [bare, List.append_nil]
        exact h.whole (by omega)
      · exact h.between (by omega) (by omega) (by omega)
  · have text : layout.decimal d = scientific digits d.reduce.order := hd ▸ if_neg placed
    rw [text, if_neg placed, order]
    exact h.scientific

/-- The numeral is how the layout writes the magnitude. -/
structure Writes (layout : Layout) (x : Magnitude) (n : Numeral) : Prop where
  wellFormed : n.WellFormed
  text : layout.magnitude x = n.text
  value : ∀ negative, Number.ofDecimal negative n.decimal = .finite negative x
  exponent : n.exponent =
    if x.rank = 0 ∨ layout.Positional x.shortest.order then none else some x.shortest.order
  single : ∀ e ∈ n.exponent, n.whole.length = 1

/-- A magnitude is written as a numeral that is read as the magnitude. -/
theorem exists_writes (bare : layout.wholeSuffix = []) (x : Magnitude) :
    ∃ n, layout.Writes x n := by
  by_cases zero : x.rank = 0
  · obtain rfl : x = Magnitude.zero := by
      cases x
      cases zero
      rfl
    refine ⟨⟨['0'], [], none⟩, ⟨List.cons_ne_nil _ _, ?_, nofun⟩, ?_, ?_, ?_, nofun⟩
    · exact List.forall_mem_singleton.mpr rfl
    · rw [magnitude, if_pos zero, bare]
      rfl
    · exact fun _ => rfl
    · rw [if_pos (.inl zero)]
  · have positive : 0 < x.rank := Nat.pos_of_ne_zero zero
    obtain ⟨n, wellFormed, text, equivalent, exponent, single⟩ :=
      decimal_writtenAs bare x.shortest
    rw [Decimal.order_reduce (Magnitude.covers_shortest positive).1] at exponent single
    refine ⟨n, wellFormed, ?_, Number.ofDecimal_of_equivalent equivalent positive, ?_, ?_⟩
    · rw [magnitude, if_neg zero, text]
    · simp only [zero, false_or]
      exact exponent
    · rwa [exponent]

end Layout

def Number.Written (c : Char) : Prop :=
  c.isDigit = true ∨ c ∈ ['.', '-', '+', 'e', 'N', 'a', 'I', 'n', 'f']

namespace Number.Written

variable {c : Char} (h : Written c)

include h

theorem ne_comma : c ≠ ',' := by
  rintro rfl
  revert h
  unfold Written
  decide

theorem ne_underscore : c ≠ '_' := by
  rintro rfl
  revert h
  unfold Written
  decide

theorem not_isLineEnd : Text.isLineEnd c = false := by
  unfold Text.isLineEnd
  rw [Bool.or_eq_false_iff, beq_eq_false_iff_ne, beq_eq_false_iff_ne]
  unfold Written at h
  constructor <;> rintro rfl <;> revert h <;> decide

theorem not_isBlank : Text.isBlank c = false := by
  rcases h with digit | sign
  · exact Text.not_isBlank_of_isNameChar
      (Text.isNameChar_of_isDigit (Field.isDigit_of_isDigit digit))
  · have all : ∀ c ∈ ['.', '-', '+', 'e', 'N', 'a', 'I', 'n', 'f'], Text.isBlank c = false :=
      List.all_iff_forall_prop.mp (by decide +kernel)
    exact all c sign

end Number.Written

theorem Layout.written_exponentPart (exponent : Int) :
    ∀ c ∈ exponentPart exponent, Number.Written c := by
  have digits : ∀ c ∈ Nat.toDigits 10 exponent.natAbs, Number.Written c := fun c hc =>
    .inl (Nat.isDigit_of_mem_toDigits (by decide) (by decide) hc)
  unfold exponentPart
  refine List.forall_mem_cons.mpr ⟨?_, ?_⟩
  · split <;> exact .inr (by decide)
  · split
    · exact List.forall_mem_cons.mpr ⟨.inl rfl, digits⟩
    · exact digits

theorem Numeral.WellFormed.written {n : Numeral} (h : n.WellFormed) :
    ∀ c ∈ n.text, Number.Written c := by
  have ending : ∀ c ∈ n.ending, Number.Written c := by
    unfold ending
    cases n.exponent with
    | none => nofun
    | some exponent =>
      exact List.forall_mem_cons.mpr ⟨.inr (by decide), Layout.written_exponentPart exponent⟩
  refine List.forall_mem_append.mpr ⟨fun c hc => .inl (h.whole c hc), ?_⟩
  split
  · exact ending
  · exact List.forall_mem_cons.mpr ⟨.inr (by decide),
      List.forall_mem_append.mpr ⟨fun c hc => .inl (h.fraction c hc), ending⟩⟩

namespace Number

theorem exists_numeral_text (negative : Bool) (x : Magnitude) :
    ∃ n : Numeral, n.WellFormed ∧
      (finite negative x).text = (if negative then ['-'] else []) ++ n.text ∧
      ofDecimal negative n.decimal = finite negative x := by
  obtain ⟨n, writes⟩ := Layout.plain.exists_writes rfl x
  exact ⟨n, writes.wellFormed, congrArg _ writes.text, writes.value negative⟩

/-- A written number has characters, and they belong to no separator of fields. -/
theorem written_text (a : Number) : a.text ≠ [] ∧ ∀ c ∈ a.text, Written c := by
  cases a with
  | nan =>
    have letters : text .nan ⊆ ['.', '-', '+', 'e', 'N', 'a', 'I', 'n', 'f'] := by decide
    exact ⟨by decide, fun c hc => .inr (letters hc)⟩
  | infinite negative =>
    have signs : text (.infinite negative) ⊆ ['.', '-', '+', 'e', 'N', 'a', 'I', 'n', 'f'] := by
      cases negative <;> decide
    exact ⟨by cases negative <;> decide, fun c hc => .inr (signs hc)⟩
  | finite negative x =>
    obtain ⟨n, wellFormed, text, -⟩ := exists_numeral_text negative x
    have nonempty : n.text ≠ [] := List.append_ne_nil_of_left_ne_nil wellFormed.nonempty _
    rw [text]
    refine ⟨List.append_ne_nil_of_right_ne_nil _ nonempty, ?_⟩
    refine List.forall_mem_append.mpr ⟨?_, wellFormed.written⟩
    cases negative with
    | false => nofun
    | true => exact List.forall_mem_singleton.mpr (.inr (by decide))

theorem dropUnderscores?_eq {text : Text} (h : '_' ∉ text) (afterDigit : Bool) :
    Field.dropUnderscores? afterDigit text = some text := by
  induction text generalizing afterDigit with
  | nil => rfl
  | cons c text ih =>
    obtain ⟨hc, ht⟩ := not_or.mp fun hm => h (List.mem_cons.mpr hm)
    rw [Field.dropUnderscores?, if_neg (Ne.symm hc), ih ht]
    rfl

theorem takeSign_of_isDigit {c : Char} (h : c.isDigit = true) (text : Text) :
    Field.takeSign (c :: text) = (false, c :: text) := by
  unfold Field.takeSign
  split
  · rename_i same
    cases same
    exact absurd h (by decide)
  · rename_i same
    cases same
    exact absurd h (by decide)
  · rfl

theorem read?_text (a : Number) : read? a.text = some a := by
  have plain : Field.dropUnderscores? false a.text = some a.text :=
    dropUnderscores?_eq (fun hm => (a.written_text.2 _ hm).ne_underscore rfl) false
  unfold read?
  rw [plain]
  cases a with
  | nan => decide +kernel
  | infinite negative => cases negative <;> decide +kernel
  | finite negative x =>
    obtain ⟨n, wellFormed, text, value⟩ := exists_numeral_text negative x
    have sign : Field.takeSign (finite negative x).text = (negative, n.text) := by
      rw [text]
      cases negative with
      | true => rfl
      | false =>
        obtain ⟨c, whole, hw⟩ := List.exists_cons_of_ne_nil wellFormed.nonempty
        have digit : c.isDigit = true := wellFormed.whole c (hw ▸ List.mem_cons_self)
        rw [Numeral.text, hw]
        exact takeSign_of_isDigit digit _
    calc Field.unsigned? (Field.takeSign (finite negative x).text).1
          (Field.takeSign (finite negative x).text).2
        = Field.unsigned? negative n.text := by rw [sign]
      _ = some (finite negative x) := by rw [Field.unsigned?_text wellFormed, value]

example : (finite true ⟨1, by decide⟩).text = ['-', '5', 'e', '-', '3', '2', '4'] := by
  decide +kernel

end Number

end NumberedBasic
