import NumberedBasic.Proofs.Number.Integer

/-! # Decimals that are recovered

A decimal of up to fifteen digits is found again as the shortest decimal of the number that it is
rounded to, unless the number is so small that its mantissa is short. On the grid of the decimal
no other one is as near, and the search does not miss it on a coarser one. So the number is written
with the digits of the decimal, and in positions they keep their places.
-/

namespace NumberedBasic

open Text

namespace Decimal

variable {d e : Decimal}

theorem reduce_of_scaled (k : Nat) (coefficient : d.coefficient = e.coefficient * 10 ^ k)
    (exponent : e.exponent = d.exponent + k) (positive : 0 < e.coefficient) :
    d.reduce = e.reduce := by
  induction k generalizing d with
  | zero =>
    have same : d = e := by
      cases d
      cases e
      simp_all
    rw [same]
  | succ k ih =>
    have tenfold : d.coefficient = e.coefficient * 10 ^ k * 10 := by
      rw [coefficient, Nat.pow_succ, Nat.mul_assoc]
    have some : 0 < e.coefficient * 10 ^ k := Nat.mul_pos positive (Nat.pow_pos (by decide))
    rw [reduce, dif_pos (by omega)]
    exact ih (by dsimp only; omega) (by dsimp only; omega)

theorem reduce_of_last (last : d.coefficient % 10 ≠ 0) : d.reduce = d := by
  rw [reduce, dif_neg fun h => last h.2]

end Decimal

namespace Magnitude

variable {x : Magnitude} (normal : 2 ^ 52 ≤ x.mantissa)

include normal

/-- Where mantissas are full, different decimals of one grid in an interval have long
coefficients. -/
theorem le_coefficient_of_lt {a b : Nat} {exponent : Int} (less : a < b)
    (ha : x.Covers (Decimal.mk a exponent).numerator (Decimal.mk a exponent).denominator)
    (hb : x.Covers (Decimal.mk b exponent).numerator (Decimal.mk b exponent).denominator) :
    2 ^ 52 ≤ a := by
  obtain ⟨g, hg⟩ : ∃ g, g = 2 ^ x.scale * 10 ^ (-exponent).toNat := ⟨_, rfl⟩
  have finer (c : Nat) : (Decimal.mk c exponent).denominator = 10 ^ (-exponent).toNat := rfl
  have value : x.quarters * 10 ^ (-exponent).toNat = 4 * (x.mantissa * g) := by
    rw [hg, quarters, units]
    ring
  have above : x.reachAbove * 10 ^ (-exponent).toNat = 2 * g := by
    rw [hg, reachAbove]
    ring
  have below := Nat.mul_le_mul_right (10 ^ (-exponent).toNat) x.reach_pos.2
  have lower := ha.lower
  have upper := hb.upper
  rw [four_mul_numerator, finer, value] at lower
  rw [four_mul_numerator, finer, Nat.add_mul, value, above] at upper
  rw [above] at below
  have next := Nat.mul_le_mul_left (gridSpacing exponent) less
  rw [Nat.mul_succ] at next
  -- two decimals are in the interval only if the grid is as fine as four quarters of its spacing
  have fine : gridSpacing exponent ≤ 4 * g := by omega
  have full := Nat.mul_le_mul_right g normal
  have positive : 0 < g := hg ▸ Nat.mul_pos (Nat.two_pow_pos _) (Nat.pow_pos (by decide))
  by_contra short
  have product := Nat.mul_le_mul fine (Nat.le_sub_one_of_lt (not_le.mp short))
  omega

/-- A decimal of few digits in the interval is the shortest one, without the zeros at its end. -/
theorem shortest_eq_reduce {d : Decimal} (positive : 0 < d.coefficient)
    (covers : x.Covers d.numerator d.denominator) (few : d.reduce.coefficient < 2 ^ 52) :
    x.shortest = d.reduce := by
  have hr : 0 < x.rank := by
    have := x.rank_eq
    omega
  have equivalent := d.equivalent_reduce
  obtain ⟨k, coefficient, -⟩ := d.reduce_eq
  have some : 0 < d.reduce.coefficient := Nat.pos_of_mul_pos_right (coefficient ▸ positive)
  have last := d.reduce_coefficient_mod positive
  generalize d.reduce = e at *
  have mine : x.Covers e.numerator e.denominator :=
    covers.of_mul_eq d.denominator_pos e.denominator_pos equivalent.mul_eq
  obtain ⟨found, theirs⟩ := covers_shortest hr
  obtain ⟨j, hj⟩ : ∃ j : Nat, x.shortest.exponent = e.exponent + j :=
    ⟨(x.shortest.exponent - e.exponent).toNat, by
      have := exponent_le_shortest hr some mine
      omega⟩
  generalize x.shortest = s at found theirs hj ⊢
  obtain ⟨c, hc⟩ : ∃ c, c = s.coefficient * 10 ^ j := ⟨_, rfl⟩
  have moved : x.Covers (Decimal.mk c e.exponent).numerator
      (Decimal.mk c e.exponent).denominator := by
    refine theirs.of_mul_eq s.denominator_pos (Decimal.denominator_pos _)
      (Decimal.Equivalent.mul_eq ?_)
    have more : (s.exponent - e.exponent).toNat = j := by omega
    have less : (e.exponent - s.exponent).toNat = 0 := by omega
    simp [Decimal.Equivalent, more, less, hc]
  have same : e.coefficient = c := by
    rcases Nat.lt_trichotomy e.coefficient c with low | same | high
    · exact absurd (le_coefficient_of_lt normal low mine moved) (not_le.mpr few)
    · exact same
    · exact absurd (le_coefficient_of_lt normal high moved mine) (not_le.mpr (high.trans few))
  cases j with
  | zero =>
    rw [Nat.pow_zero, Nat.mul_one] at hc
    cases s
    cases e
    simp_all
  | succ j =>
    have tenfold : e.coefficient = s.coefficient * 10 ^ j * 10 := by
      rw [same, hc, Nat.pow_succ, Nat.mul_assoc]
    omega

end Magnitude

namespace Layout

variable (layout : Layout) {d e : Decimal}

theorem decimal_congr (same : d.reduce = e.reduce) : layout.decimal d = layout.decimal e := by
  simp only [decimal, same]

theorem positional_of_fraction (layout : Layout) (whole : Text) {fraction : Text}
    (some : fraction ≠ []) :
    let digits := (whole ++ fraction).dropWhile (· == '0')
    let integral := whole.dropWhile (· == '0')
    layout.positional digits (digits.length + -fraction.length) =
      (if integral = [] then ['0'] else integral) ++ '.' :: fraction := by
  intro digits integral
  have split : digits = if integral.isEmpty then fraction.dropWhile (· == '0')
      else integral ++ fraction := List.dropWhile_append
  have count : 0 < fraction.length := List.length_pos_iff.mpr some
  by_cases none : integral = []
  · obtain ⟨zeros, hz⟩ : ∃ zeros, fraction.takeWhile (· == '0') = List.replicate zeros '0' :=
      ⟨_, List.eq_replicate_of_mem fun c hc => by simpa using List.mem_takeWhile_imp hc⟩
    have whole : List.replicate zeros '0' ++ digits = fraction := by
      rw [split, none, ← hz]
      exact List.takeWhile_append_dropWhile
    have length := congrArg List.length whole
    rw [List.length_append, List.length_replicate] at length
    have filled : (-((digits.length : Int) + -fraction.length)).toNat = zeros := by omega
    rw [positional, if_pos (by omega), filled, whole, if_pos none]
    rfl
  · have digits_eq : digits = integral ++ fraction := by simpa [none] using split
    have count' : 0 < integral.length := List.length_pos_iff.mpr none
    have point : (digits.length : Int) + -fraction.length = integral.length := by
      rw [digits_eq, List.length_append]
      omega
    rw [point, positional, if_neg (by omega), if_neg (by omega), if_neg none, digits_eq,
      Int.toNat_natCast, List.take_left, List.drop_left]

/-- The value `n / 10 ^ k` is at least `1 / 10 ^ 4` and less than `10 ^ 6`. -/
structure Fixed (n k : Nat) : Prop where
  least : 10 ^ k ≤ 10 ^ 4 * n
  most : n < 10 ^ 6 * 10 ^ k

namespace Fixed

theorem of_scaled {n k j : Nat} (h : Fixed (n * 10 ^ j) (k + j)) : Fixed n k := by
  obtain ⟨least, most⟩ := h
  rw [Nat.pow_add, ← Nat.mul_assoc] at least most
  exact ⟨Nat.le_of_mul_le_mul_right least (Nat.pow_pos (by decide)),
    Nat.lt_of_mul_lt_mul_right most⟩

variable {n k : Nat} (h : Fixed n k)

include h

theorem positive : 0 < n := by
  have power : 0 < 10 ^ k := Nat.pow_pos (by decide)
  have least := h.least
  omega

theorem positional : plain.Positional (Decimal.mk n (-k)).order := by
  have upper : (Nat.toDigits 10 n).length ≤ 6 + k := by
    rw [Nat.length_toDigits_le_iff (by decide) (by omega), Nat.pow_add]
    exact h.most
  have below : n < 10 ^ (Nat.toDigits 10 n).length :=
    (Nat.length_toDigits_le_iff (by decide) Nat.length_toDigits_pos).mp (Nat.le_refl _)
  have lower : k < 4 + (Nat.toDigits 10 n).length := by
    rw [← Nat.pow_lt_pow_iff_right (by decide : 1 < 10), Nat.pow_add]
    exact h.least.trans_lt (Nat.mul_lt_mul_of_pos_left below (by decide))
  have low : plain.positionalFrom = -4 := rfl
  have high : plain.positionalBelow = 6 := rfl
  unfold Positional Decimal.order
  dsimp only
  omega

theorem normal : 2 ^ 53 * (Decimal.mk n (-k)).denominator < (Decimal.mk n (-k)).numerator ∧
    (Decimal.mk n (-k)).numerator < 2 ^ 2097 * (Decimal.mk n (-k)).denominator := by
  obtain ⟨e, he, units⟩ := Magnitude.exists_unitsOfOne_eq
  have numerator : (Decimal.mk n (-k)).numerator = n * 2 ^ e := by
    simp [Decimal.numerator, units]
  have denominator : (Decimal.mk n (-k)).denominator = 10 ^ k := by
    simp [Decimal.denominator]
  have positive := h.positive
  rw [numerator, denominator]
  constructor
  · calc 2 ^ 53 * 10 ^ k ≤ 2 ^ 53 * (10 ^ 4 * n) := Nat.mul_le_mul_left _ h.least
      _ < n * 2 ^ 67 := by omega
      _ ≤ n * 2 ^ e := Nat.mul_le_mul_left n (Nat.pow_le_pow_right (by decide) (by omega))
  · have room : 2 ^ (20 + e) ≤ 2 ^ 2097 := by
      gcongr
      · decide
      · omega
    have large : n * 2 ^ e < 2 ^ (20 + e) * 10 ^ k :=
      calc n * 2 ^ e < 10 ^ 6 * 10 ^ k * 2 ^ e :=
            Nat.mul_lt_mul_of_pos_right h.most (Nat.two_pow_pos e)
        _ ≤ 2 ^ 20 * (10 ^ k * 2 ^ e) := by
            rw [Nat.mul_assoc]
            exact Nat.mul_le_mul_right _ (by decide)
        _ = 2 ^ (20 + e) * 10 ^ k := by ring
    exact large.trans_le (Nat.mul_le_mul_right _ room)

end Fixed

theorem decimal_of_digits {whole fraction : Text}
    (ascii : ∀ c ∈ whole ++ fraction, c.isDigit = true) (last : ∀ c ∈ fraction.getLast?, c ≠ '0')
    (fixed : Fixed (digitsValue (whole ++ fraction)) fraction.length) :
    let integral := whole.dropWhile (· == '0')
    plain.decimal ⟨digitsValue (whole ++ fraction), -fraction.length⟩ =
      (if integral = [] then ['0'] else integral) ++
        if fraction = [] then [] else '.' :: fraction := by
  intro integral
  have positive := fixed.positive
  have toDigits := dropWhile_zeros ascii
  rw [if_neg positive.ne'] at toDigits
  by_cases none : fraction = []
  · subst none
    rw [List.append_nil] at *
    have short : digitsValue whole < 10 ^ 6 := fixed.most
    have written := decimal_of_whole (d := ⟨digitsValue whole, 0⟩) positive (Int.le_refl 0)
      (Nat.mul_one _)
    have some : integral ≠ [] := ne_of_eq_of_ne toDigits Nat.toDigits_ne_nil
    rw [if_pos short, ← toDigits] at written
    simpa [some] using written
  · have reduced : (Decimal.mk (digitsValue (whole ++ fraction)) (-fraction.length)).reduce =
        ⟨digitsValue (whole ++ fraction), -fraction.length⟩ := by
      apply Decimal.reduce_of_last
      obtain ⟨others, c, rfl⟩ := (List.eq_nil_or_concat' fraction).resolve_left none
      have ends := digitsValue_concat_mod (whole ++ others) (ascii c (by simp))
      rw [List.append_assoc] at ends
      exact mt ends.mp (last c List.getLast?_concat)
    have placed := fixed.positional
    rw [← reduced] at placed
    rw [decimal_of_positional placed, reduced, ← toDigits, if_neg none]
    exact positional_of_fraction plain whole none

end Layout

namespace Number

open Magnitude

variable {d : Decimal}

/-- A decimal of few digits among the normal numbers is rounded to a number that is written as the
decimal itself. -/
theorem text_ofDecimal (negative : Bool) (few : d.reduce.coefficient < 2 ^ 52)
    (lower : 2 ^ 53 * d.denominator < d.numerator)
    (upper : d.numerator < 2 ^ 2097 * d.denominator) :
    (ofDecimal negative d).text = (if negative then ['-'] else []) ++ Layout.plain.decimal d := by
  have positive : 0 < d.coefficient := by
    rw [Nat.pos_iff_ne_zero]
    intro zero
    simp [Decimal.numerator, zero] at lower
  obtain ⟨x, covers⟩ := exists_covers d.denominator_pos upper
  have scaled : 0 < x.scale := by
    rw [Nat.pos_iff_ne_zero]
    intro zero
    have least := covers.four_mul_le
    rw [zero] at least
    omega
  have normal := x.le_mantissa scaled
  have rank := x.rank_eq
  have shortest := shortest_eq_reduce normal positive covers few
  have magnitude : Layout.plain.magnitude x = Layout.plain.decimal d := by
    rw [Layout.magnitude, if_neg (by omega), shortest]
    exact Layout.plain.decimal_congr (Decimal.reduce_of_last (d.reduce_coefficient_mod positive))
  rw [ofDecimal_of_covers positive (by omega) covers, ← magnitude]
  rfl

end Number

end NumberedBasic
