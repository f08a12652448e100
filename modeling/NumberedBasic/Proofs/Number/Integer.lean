import NumberedBasic.Proofs.Number.Whole
import NumberedBasic.Proofs.Number.Written

/-! # Integers as numbers

Digits are read as the integer that they write, the part of a number before its point is an
integer, and an integer up to `2 ^ 53` is written with its digits, as long as these are no more
than six. A number with more digits is written with an exponent.
-/

namespace NumberedBasic

namespace Magnitude

variable {x : Magnitude} {n : Nat} (whole : x.units = n * unitsOfOne)

include whole

/-- The spacing at an integer below `2 ^ 53` is at most one. -/
theorem spacing_le_of_whole (small : n < 2 ^ 53) : 2 ^ x.scale ≤ unitsOfOne := by
  obtain ⟨k, hk, units⟩ := exists_unitsOfOne_eq
  rw [units]
  refine Nat.pow_le_pow_right Nat.two_pos (Nat.le_of_not_lt fun above => ?_)
  have full : 2 ^ 52 ≤ x.mantissa := x.le_mantissa (by omega)
  have least : 2 ^ 53 * 2 ^ k ≤ x.units := calc
    2 ^ 53 * 2 ^ k = 2 ^ 52 * 2 ^ (k + 1) := by ring
    _ ≤ x.mantissa * 2 ^ x.scale :=
      Nat.mul_le_mul full (Nat.pow_le_pow_right Nat.two_pos above)
  rw [whole, units] at least
  exact Nat.not_lt.mpr least (Nat.mul_lt_mul_of_pos_right small (Nat.two_pow_pos k))

theorem Covers.eq_whole {m : Nat} (h : x.Covers (m * unitsOfOne) 1) (small : n < 2 ^ 53) :
    m = n := by
  have spacing := spacing_le_of_whole whole small
  have reach := x.reach_pos.2
  obtain ⟨lower, upper⟩ := h
  unfold reachAbove at reach upper
  rw [quarters, whole] at lower upper
  have units := unitsOfOne_pos
  generalize unitsOfOne = u at *
  rcases Nat.lt_trichotomy m n with less | same | more
  · have := Nat.mul_le_mul_right u less
    rw [Nat.succ_mul] at this
    omega
  · exact same
  · have := Nat.mul_le_mul_right u more
    rw [Nat.succ_mul] at this
    omega

theorem shortest_of_whole (positive : 0 < n) (small : n < 2 ^ 53) :
    0 ≤ x.shortest.exponent ∧ x.shortest.coefficient * 10 ^ x.shortest.exponent.toNat = n := by
  have value : (Decimal.mk n 0).numerator = x.units := by
    simp [Decimal.numerator, whole]
  have nonzero : 0 < x.rank := by
    rw [Nat.pos_iff_ne_zero, Ne, ← units_eq_zero_iff, whole]
    exact (Nat.mul_pos positive unitsOfOne_pos).ne'
  have integral : 0 ≤ x.shortest.exponent :=
    exponent_le_shortest nonzero (d := ⟨n, 0⟩) positive (value ▸ x.covers_units)
  have one : x.shortest.denominator = 1 := by
    have none : (-x.shortest.exponent).toNat = 0 := by omega
    rw [Decimal.denominator, none, Nat.pow_zero]
  have covers := (covers_shortest nonzero).2
  rw [one, Decimal.numerator] at covers
  exact ⟨integral, covers.eq_whole whole small⟩

end Magnitude

namespace Layout

theorem mem_scientific (digits : Text) (exponent : Int) : 'e' ∈ scientific digits exponent := by
  unfold scientific
  split <;> simp

/-- Zeros fill the places up to the point, so an integer has its own digits in positions. -/
theorem positional_of_whole {digits : Text} (nonempty : digits ≠ []) (zeros : Nat) :
    plain.positional digits (digits.length + zeros) = digits ++ List.replicate zeros '0' := by
  have some : 0 < digits.length := List.length_pos_iff.mpr nonempty
  have filled : ((digits.length : Int) + zeros - digits.length).toNat = zeros := by omega
  unfold positional
  rw [if_neg (by omega), if_pos (by omega), filled]
  exact List.append_nil _

theorem decimal_of_whole {d : Decimal} {n : Nat} (positive : 0 < n) (integral : 0 ≤ d.exponent)
    (value : d.coefficient * 10 ^ d.exponent.toNat = n) :
    if n < 10 ^ 6 then plain.decimal d = Nat.toDigits 10 n else 'e' ∈ plain.decimal d := by
  obtain ⟨k, coefficient, exponent⟩ := d.reduce_eq
  obtain ⟨zeros, hz⟩ : ∃ zeros : Nat, d.reduce.exponent = zeros :=
    ⟨d.reduce.exponent.toNat, by omega⟩
  have reduced : d.reduce.coefficient * 10 ^ zeros = n := by
    have sum : zeros = k + d.exponent.toNat := by omega
    rw [← value, coefficient, sum, Nat.pow_add, Nat.mul_assoc]
  have some : 0 < d.reduce.coefficient := Nat.pos_of_mul_pos_right (reduced ▸ positive)
  have digits := toDigits_mul_ten_pow some zeros
  have length : (Nat.toDigits 10 n).length ≤ 6 ↔ n < 10 ^ 6 :=
    Nat.length_toDigits_le_iff (by decide) (by decide)
  rw [reduced] at digits
  rw [digits, List.length_append, List.length_replicate] at length
  have places : 0 < (Nat.toDigits 10 d.reduce.coefficient).length := Nat.length_toDigits_pos
  have low : plain.positionalFrom = -4 := rfl
  have high : plain.positionalBelow = 6 := rfl
  unfold decimal
  simp only [hz, low, high]
  by_cases short : n < 10 ^ 6
  · have := length.mpr short
    rw [if_pos short, if_pos (by omega), digits]
    exact positional_of_whole Nat.toDigits_ne_nil zeros
  · have : ¬_ := fun few => short (length.mp few)
    rw [if_neg short, if_neg (by omega)]
    exact mem_scientific _ _

end Layout

namespace Number

theorem ofDecimal_of_integer (n : Nat) : ofDecimal false ⟨n, 0⟩ = ofInt n := by
  have sign : decide ((n : Int) < 0) = false := decide_eq_false (by omega)
  rw [ofInt, sign, Int.natAbs_natCast]
  unfold ofDecimal
  by_cases zero : n = 0
  · rw [if_pos zero, zero, Nat.zero_mul]
    exact (round_units false Magnitude.zero).symm
  · rw [if_neg zero, if_neg (by dsimp only; omega),
      if_neg (by dsimp only; omega)]
    simp only [Int.neg_zero, Int.toNat_zero, Nat.pow_zero, Nat.mul_one]

theorem ofLiteral_of_digits {digits : Text} (all : ∀ c ∈ digits, Text.isDigit c = true) :
    ofLiteral digits = ofInt (Text.digitsValue digits) := by
  have whole : (digits ++ []).takeWhile Text.isDigit = digits := Text.takeWhile_run all nofun
  have fraction : (digits ++ []).dropWhile Text.isDigit = [] := Text.dropWhile_run all nofun
  rw [List.append_nil] at whole fraction
  rw [ofLiteral, whole, fraction, ← ofDecimal_of_integer, ofDigits, List.drop_nil,
    List.append_nil, List.length_nil]
  rfl

/-- The integer is what is left of a finite number without its fraction. -/
def Truncates (a : Number) (n : Int) : Prop :=
  ∃ negative x, a = finite negative x ∧ n = (signedUnits negative x).tdiv unitsOfOne

theorem truncate?_eq_some_iff {a : Number} {n : Int} : a.truncate? = some n ↔ a.Truncates n := by
  have whole (negative : Bool) (x : Magnitude) : truncate? (finite negative x) =
      some ((signedUnits negative x).tdiv unitsOfOne) := by
    unfold truncate? signedUnits
    generalize unitsOfOne = one
    cases negative <;> simp
  constructor
  · intro h
    cases a with
    | nan | infinite => cases h
    | finite negative x =>
      rw [whole] at h
      exact ⟨negative, x, rfl, (Option.some.inj h).symm⟩
  · rintro ⟨negative, x, rfl, rfl⟩
    exact whole negative x

theorem Truncates.unique {a : Number} {m n : Int} (h : a.Truncates m) (h' : a.Truncates n) :
    m = n := by
  rw [← truncate?_eq_some_iff] at h h'
  exact Option.some.inj (h.symm.trans h')

theorem Holds.truncates {a : Number} {n : Int} (h : a.Holds n) : a.Truncates n := by
  obtain ⟨negative, x, rfl, units⟩ := h
  have pos : (unitsOfOne : Int) ≠ 0 := Int.natCast_ne_zero.mpr Magnitude.unitsOfOne_pos.ne'
  exact ⟨negative, x, rfl, by rw [units, Int.mul_tdiv_cancel _ pos]⟩

theorem truncates_ofInt {n : Nat} (small : n ≤ 2 ^ 53) {i : Int} :
    (ofInt n).Truncates i ↔ i = n := by
  have holds : (ofInt n).Holds n := ofInt_holds small
  constructor
  · exact fun h => h.unique holds.truncates
  · rintro rfl
    exact holds.truncates

/-- An integer up to `2 ^ 53` is written with its digits if these are no more than six, and
otherwise with an exponent. -/
theorem text_ofInt {n : Nat} (small : n ≤ 2 ^ 53) :
    if n < 10 ^ 6 then (ofInt n).text = Nat.toDigits 10 n else 'e' ∈ (ofInt n).text := by
  rcases Nat.eq_zero_or_pos n with rfl | positive
  · decide +kernel
  rcases Nat.lt_or_eq_of_le small with below | rfl
  · obtain ⟨x, whole⟩ := Magnitude.exists_units_whole small
    have nonzero : x.rank ≠ 0 := fun zero => by
      rw [Magnitude.units_eq_zero_iff.mpr zero] at whole
      exact (Nat.mul_pos positive Magnitude.unitsOfOne_pos).ne whole
    have sign : decide ((n : Int) < 0) = false := decide_eq_false (by omega)
    have value : ofInt n = finite false x := by
      rw [ofInt, sign, Int.natAbs_natCast, ← whole, round_units]
    have text : (finite false x).text = Layout.plain.decimal x.shortest :=
      (List.nil_append _).trans (if_neg nonzero)
    obtain ⟨integral, shortest⟩ := Magnitude.shortest_of_whole whole positive below
    rw [value, text]
    exact Layout.decimal_of_whole positive integral shortest
  · rw [if_neg (by decide)]
    decide +kernel

example : (ofInt 1000000).text = ['1', 'e', '+', '0', '6'] := by decide +kernel

end Number

end NumberedBasic
