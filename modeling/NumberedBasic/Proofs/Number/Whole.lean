import NumberedBasic.Proofs.Number.Shortest
import NumberedBasic.Number.Arithmetic

/-! # Whole numbers held exactly

A number holds an integer if its value is that integer, so both zeros hold zero. Every integer up
to `2 ^ 53` is held, and as long as sums stay in this range adding and comparing numbers is adding
and comparing the integers that they hold.
-/

namespace NumberedBasic

namespace Magnitude

variable {x y : Magnitude}

theorem covers_units (x : Magnitude) : x.Covers x.units 1 := by
  have below := x.reach_pos
  unfold reachAbove at below
  have odd : x.mantissa % 2 ≤ x.reachBelow ∧ x.mantissa % 2 ≤ x.reachAbove := by
    unfold reachAbove
    omega
  constructor
  · simp only [quarters]
    omega
  · simp only [quarters]
    omega

theorem units_lt (h : x.rank < y.rank) : x.units < y.units := by
  have hx := x.rank_eq
  have hy := y.rank_eq
  have room := x.mantissa_lt
  unfold units
  rcases Nat.lt_trichotomy x.scale y.scale with scale | scale | scale
  · have full : 2 ^ 52 ≤ y.mantissa := y.le_mantissa (by omega)
    calc
      x.mantissa * 2 ^ x.scale < 2 ^ 53 * 2 ^ x.scale :=
        Nat.mul_lt_mul_of_pos_right room (Nat.two_pow_pos _)
      _ = 2 ^ 52 * 2 ^ (x.scale + 1) := by ring
      _ ≤ y.mantissa * 2 ^ y.scale :=
        Nat.mul_le_mul full (Nat.pow_le_pow_right Nat.two_pos scale)
  · rw [scale] at hx ⊢
    exact Nat.mul_lt_mul_of_pos_right (by omega) (Nat.two_pow_pos _)
  · have full : 2 ^ 52 ≤ x.mantissa := x.le_mantissa (by omega)
    have := y.mantissa_lt
    omega

theorem units_lt_iff : x.units < y.units ↔ x.rank < y.rank := by
  constructor
  · intro h
    by_contra above
    rcases Nat.eq_or_lt_of_le (Nat.le_of_not_lt above) with same | less
    · unfold units mantissa scale at h
      rw [same] at h
      exact Nat.lt_irrefl _ h
    · exact Nat.lt_asymm h (units_lt less)
  · exact units_lt

theorem units_zero : zero.units = 0 := rfl

theorem units_eq_zero_iff : x.units = 0 ↔ x.rank = 0 := by
  have none := units_zero
  have above : zero.units < x.units ↔ 0 < x.rank := units_lt_iff
  omega

/-- A whole number below `2 ^ 53` makes a magnitude at every scale. -/
theorem exists_units_mul {n scale : Nat} (small : n < 2 ^ 53) (within : scale ≤ 2045) :
    ∃ x : Magnitude, x.units = n * 2 ^ scale := by
  -- a number that is too small for a mantissa is doubled at the scale below
  induction scale generalizing n with
  | zero =>
    obtain ⟨x, scaled, rfl⟩ := exists_parts (fun h => absurd h (Nat.lt_irrefl 0)) small within
    exact ⟨x, by rw [units, scaled]⟩
  | succ scale ih =>
    rcases Nat.lt_or_ge n (2 ^ 52) with low | full
    · obtain ⟨x, hx⟩ := ih (n := 2 * n) (by omega) (by omega)
      refine ⟨x, ?_⟩
      rw [hx]
      ring
    · obtain ⟨x, scaled, rfl⟩ := exists_parts (fun _ => full) small within
      exact ⟨x, by rw [units, scaled]⟩

theorem exists_units_whole {n : Nat} (h : n ≤ 2 ^ 53) :
    ∃ x : Magnitude, x.units = n * unitsOfOne := by
  rcases Nat.lt_or_eq_of_le h with small | rfl
  · exact exists_units_mul small (by decide)
  · have double (scale : Nat) : 2 ^ 52 * 2 ^ (scale + 1) = 2 ^ 53 * 2 ^ scale := by ring
    obtain ⟨x, hx⟩ : ∃ x : Magnitude, x.units = 2 ^ 52 * 2 ^ (1074 + 1) :=
      exists_units_mul (by decide) (by decide)
    refine ⟨x, ?_⟩
    rw [hx, unitsOfOne, double]

end Magnitude

namespace Number

/-- A number with the value of an integer. -/
def Holds (a : Number) (n : Int) : Prop :=
  ∃ negative x, a = finite negative x ∧ signedUnits negative x = n * unitsOfOne

theorem signedUnits_zero (negative : Bool) : signedUnits negative Magnitude.zero = 0 := by
  simp [signedUnits, Magnitude.units_zero]

theorem round_units (negative : Bool) (x : Magnitude) :
    round negative x.units 1 = finite negative x :=
  x.covers_units.round_eq Nat.one_pos negative

theorem natAbs_mul_units (n : Int) : (n * unitsOfOne : Int).natAbs = n.natAbs * unitsOfOne := by
  rw [Int.natAbs_mul, Int.natAbs_natCast]

section Units

variable {n : Int} {x : Magnitude}

theorem ofInt_of_units (h : x.units = n.natAbs * unitsOfOne) :
    ofInt n = finite (decide (n < 0)) x := by
  rw [ofInt, ← h, round_units]

theorem signedUnits_of_units (h : x.units = n.natAbs * unitsOfOne) {negative : Bool}
    (sign : n ≠ 0 → negative = decide (n < 0)) : signedUnits negative x = n * unitsOfOne := by
  rw [signedUnits, h, Nat.cast_mul]
  by_cases zero : n = 0
  · rw [zero, Int.natAbs_zero, Int.natCast_zero, Int.zero_mul, Int.neg_zero, ite_self]
  by_cases below : n < 0
  · have negated : -(n.natAbs : Int) = n := by omega
    rw [sign zero, decide_eq_true below, if_pos rfl, ← Int.neg_mul, negated]
  · have same : (n.natAbs : Int) = n := by omega
    rw [sign zero, decide_eq_false below, if_neg Bool.false_ne_true, same]

theorem ofInt_holds (h : n.natAbs ≤ 2 ^ 53) : (ofInt n).Holds n := by
  obtain ⟨x, hx⟩ := Magnitude.exists_units_whole h
  exact ⟨_, x, ofInt_of_units hx, signedUnits_of_units hx fun _ => rfl⟩

end Units

/-- Finite numbers compare as their values do. -/
theorem less_finite (s t : Bool) (x y : Magnitude) :
    less (finite s x) (finite t y) = decide (signedUnits s x < signedUnits t y) := by
  have order : x.units < y.units ↔ x.rank < y.rank := Magnitude.units_lt_iff
  have order' : y.units < x.units ↔ y.rank < x.rank := Magnitude.units_lt_iff
  have zero : x.units = 0 ↔ x.rank = 0 := Magnitude.units_eq_zero_iff
  have zero' : y.units = 0 ↔ y.rank = 0 := Magnitude.units_eq_zero_iff
  change decide (_ < _) = _
  rw [decide_eq_decide]
  unfold signedUnits
  cases s <;> cases t <;> simp only [Bool.false_eq_true, if_true, if_false] <;> omega

namespace Holds

variable {a b : Number} {m n : Int}

theorem add (ha : a.Holds m) (hb : b.Holds n) (h : (m + n).natAbs ≤ 2 ^ 53) :
    (a.add b).Holds (m + n) := by
  obtain ⟨s, x, rfl, hx⟩ := ha
  obtain ⟨t, y, rfl, hy⟩ := hb
  have total : signedUnits s x + signedUnits t y = (m + n) * unitsOfOne := by
    rw [hx, hy, Int.add_mul]
  have pos : 0 < (unitsOfOne : Int) := Int.natCast_pos.mpr Magnitude.unitsOfOne_pos
  simp only [Number.add, total]
  by_cases none : m + n = 0
  · rw [none, Int.zero_mul, if_pos rfl]
    exact ⟨_, _, rfl, (signedUnits_zero _).trans (Int.zero_mul _).symm⟩
  · have sign : (m + n) * (unitsOfOne : Int) < 0 ↔ m + n < 0 := by
      constructor
      · exact fun hn => neg_of_mul_neg_left hn pos.le
      · exact fun hn => Int.mul_neg_of_neg_of_pos hn pos
    rw [if_neg (Int.mul_ne_zero none pos.ne'), natAbs_mul_units]
    simp only [sign]
    exact ofInt_holds h

theorem unique (h : a.Holds m) (h' : a.Holds n) : m = n := by
  obtain ⟨s, x, rfl, hx⟩ := h
  obtain ⟨t, y, same, hy⟩ := h'
  obtain ⟨rfl, rfl⟩ := finite.inj same
  have pos : (unitsOfOne : Int) ≠ 0 := Int.natCast_ne_zero.mpr Magnitude.unitsOfOne_pos.ne'
  exact Int.eq_of_mul_eq_mul_right pos (hx.symm.trans hy)

theorem less_eq (ha : a.Holds m) (hb : b.Holds n) : a.less b = decide (m < n) := by
  obtain ⟨s, x, rfl, hx⟩ := ha
  obtain ⟨t, y, rfl, hy⟩ := hb
  have pos : 0 < (unitsOfOne : Int) := Int.natCast_pos.mpr Magnitude.unitsOfOne_pos
  rw [less_finite, hx, hy, decide_eq_decide]
  exact Int.mul_lt_mul_right pos

end Holds

end Number

end NumberedBasic
