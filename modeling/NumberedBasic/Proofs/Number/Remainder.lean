import NumberedBasic.Builtin
import NumberedBasic.Proofs.Number.Integer

/-! # Whole parts and remainders

What is left of a number without its fraction is a number, however large it is, and so is the
remainder of two such integers. Neither is rounded, since both need no finer spacing and no
longer mantissa than what they are made of.
-/

namespace NumberedBasic

namespace Magnitude

theorem exists_units_cut (x : Magnitude) :
    ∃ y : Magnitude, y.units = x.units / unitsOfOne * unitsOfOne := by
  obtain ⟨k, -, one⟩ := exists_unitsOfOne_eq
  rcases Nat.le_total k x.scale with coarse | fine
  · have whole : unitsOfOne ∣ x.units := by
      rw [one]
      exact Nat.dvd_mul_left_of_dvd (Nat.pow_dvd_pow 2 coarse) x.mantissa
    exact ⟨x, (Nat.div_mul_cancel whole).symm⟩
  · apply exists_units_whole
    have split : unitsOfOne = 2 ^ (k - x.scale) * 2 ^ x.scale := by
      rw [one, ← Nat.pow_add, Nat.sub_add_cancel fine]
    rw [units, split, Nat.mul_div_mul_right _ _ (Nat.two_pow_pos _)]
    exact (Nat.div_le_self _ _).trans x.mantissa_lt.le

/-- The remainder of magnitudes is a magnitude. -/
theorem exists_units_mod (x y : Magnitude) : ∃ z : Magnitude, z.units = x.units % y.units := by
  -- it is a whole number of the finer of the two spacings, and below both mantissas there
  rcases Nat.le_total x.scale y.scale with finer | coarser
  · have split : 2 ^ y.scale = 2 ^ (y.scale - x.scale) * 2 ^ x.scale := by
      rw [← Nat.pow_add, Nat.sub_add_cancel finer]
    have rest : x.units % y.units =
        x.mantissa % (y.mantissa * 2 ^ (y.scale - x.scale)) * 2 ^ x.scale := by
      rw [units, units, split, ← Nat.mul_assoc, Nat.mul_mod_mul_right]
    rw [rest]
    exact exists_units_mul ((Nat.mod_le _ _).trans_lt x.mantissa_lt) x.scale_le
  · rcases Nat.eq_zero_or_pos y.mantissa with none | some
    · have zero : y.units = 0 := by rw [units, none, Nat.zero_mul]
      exact ⟨x, by rw [zero, Nat.mod_zero]⟩
    have split : 2 ^ x.scale = 2 ^ (x.scale - y.scale) * 2 ^ y.scale := by
      rw [← Nat.pow_add, Nat.sub_add_cancel coarser]
    have rest : x.units % y.units =
        x.mantissa * 2 ^ (x.scale - y.scale) % y.mantissa * 2 ^ y.scale := by
      rw [units, units, split, ← Nat.mul_assoc, Nat.mul_mod_mul_right]
    rw [rest]
    exact exists_units_mul ((Nat.mod_lt _ some).trans y.mantissa_lt) y.scale_le

end Magnitude

namespace Number

variable {a b : Number} {m n : Int}

theorem natAbs_signedUnits (negative : Bool) (x : Magnitude) :
    (signedUnits negative x).natAbs = x.units := by
  cases negative <;> simp [signedUnits]

theorem isZero_finite (negative : Bool) (x : Magnitude) :
    (finite negative x).isZero = true ↔ x.rank = 0 := by
  cases negative <;> simp [isZero, place?]

theorem Truncates.exists_units (h : a.Truncates n) :
    ∃ x : Magnitude, x.units = n.natAbs * unitsOfOne := by
  obtain ⟨negative, x, rfl, rfl⟩ := h
  rw [Int.natAbs_tdiv, natAbs_signedUnits, Int.natAbs_natCast]
  exact x.exists_units_cut

theorem Truncates.exists_units_tmod (ha : a.Truncates m) (hb : b.Truncates n) :
    ∃ x : Magnitude, x.units = (m.tmod n).natAbs * unitsOfOne := by
  obtain ⟨x, hx⟩ := ha.exists_units
  obtain ⟨y, hy⟩ := hb.exists_units
  rw [Int.natAbs_tmod, ← Nat.mul_mod_mul_right, ← hx, ← hy]
  exact x.exists_units_mod y

end Number

namespace Builtin

open Number

variable {a b : Number} {m n : Int}

theorem tmod_sign (m n : Int) : (0 ≤ m → 0 ≤ m.tmod n) ∧ (m ≤ 0 → m.tmod n ≤ 0) := by
  constructor
  · exact Int.tmod_nonneg n
  · intro h
    have opposite := Int.tmod_nonneg n (Int.neg_nonneg_of_nonpos h)
    rw [Int.neg_tmod] at opposite
    omega

theorem callByName_int (h : a.Truncates m) (clock : Nat) (g : Generator) :
    callByName clock int.name [a] g = (.ok (ofInt m), g) := by
  have truncated := truncate?_eq_some_iff.mpr h
  simp [callByName, ofName?_name, call, value, truncated, whenDefined]

/-- The remainder of two whole parts, with the sign of the first. -/
theorem remainder_eq (ha : a.Truncates m) (hb : b.Truncates n) (nonzero : n ≠ 0)
    {x : Magnitude} (hx : x.units = (m.tmod n).natAbs * unitsOfOne) :
    remainder a b = .ok (finite (decide (m < 0)) x) := by
  obtain ⟨upward, downward⟩ := tmod_sign m n
  have none : (ofInt (m.tmod n)).isZero = true ↔ m.tmod n = 0 := by
    rw [ofInt_of_units hx, isZero_finite, ← Magnitude.units_eq_zero_iff, hx, Nat.mul_eq_zero,
      Int.natAbs_eq_zero, or_iff_left Magnitude.unitsOfOne_pos.ne']
  unfold remainder
  rw [truncate?_eq_some_iff.mpr ha, truncate?_eq_some_iff.mpr hb]
  split
  · contradiction
  · rename_i zero
    exact absurd (Option.some.inj zero) nonzero
  · rename_i divisor _ same
    obtain rfl := Option.some.inj same
    dsimp only
    by_cases zero : m.tmod n = 0
    · rw [none.mpr zero, ofInt_of_units hx, zero]
      by_cases below : m < 0 <;> simp [below, neg]
    · have left : (ofInt (m.tmod n)).isZero = false :=
        Bool.eq_false_iff.mpr fun h => zero (none.mp h)
      have sign : decide (m.tmod n < 0) = decide (m < 0) := by
        rw [decide_eq_decide]
        omega
      rw [left, Bool.false_and, if_neg Bool.false_ne_true, ofInt_of_units hx, sign]

/-- The whole part of a finite number is given without rounding, and so is the remainder of
two whole parts: it is below the divisor, never of the sign opposite to the dividend, and
congruent to it. -/
theorem int_and_mod_exact (clock : Nat) (g : Generator) (negative : Bool) (x : Magnitude) :
    ∃ m, (finite negative x).Truncates m ∧
    (∃ y, callByName clock int.name [finite negative x] g =
        (.ok (finite (decide (m < 0)) y), g) ∧
      signedUnits (decide (m < 0)) y = m * unitsOfOne) ∧
    ∀ b n, b.Truncates n → n ≠ 0 → ∃ r y,
      callByName clock mod.name [finite negative x, b] g =
        (.ok (finite (decide (m < 0)) y), g) ∧
      signedUnits (decide (m < 0)) y = r * unitsOfOne ∧ r = m - n * m.tdiv n ∧
      r.natAbs < n.natAbs ∧ (0 ≤ m → 0 ≤ r) ∧ (m ≤ 0 → r ≤ 0) ∧ n ∣ m - r := by
  obtain ⟨m, hm⟩ : ∃ m, (finite negative x).Truncates m := ⟨_, negative, x, rfl, rfl⟩
  refine ⟨m, hm, ?_, ?_⟩
  · obtain ⟨y, hy⟩ := hm.exists_units
    refine ⟨y, ?_, signedUnits_of_units hy fun _ => rfl⟩
    rw [callByName_int hm, ofInt_of_units hy]
  · intro b n hb nonzero
    obtain ⟨y, hy⟩ := hm.exists_units_tmod hb
    obtain ⟨upward, downward⟩ := tmod_sign m n
    refine ⟨m.tmod n, y, ?_, ?_, Int.tmod_def m n, ?_, upward, downward, Int.dvd_self_sub_tmod⟩
    · simp [callByName, ofName?_name, call, value, remainder_eq hm hb nonzero hy]
    · apply signedUnits_of_units hy
      intro some
      rw [decide_eq_decide]
      omega
    · rw [Int.natAbs_tmod]
      exact Nat.mod_lt _ (Int.natAbs_pos.mpr nonzero)

/-- The lowest number, which has 309 digits, and a divisor with a fraction. -/
theorem mod_of_lowest :
    let lowest := finite true ⟨9218868437227405311, by decide⟩
    let divisor := ofLiteral ['1', '7', '.', '9']
    ∃ y, callByName 0 mod.name [lowest, divisor] (Generator.ofSeed 0) =
        (.ok (finite true y), Generator.ofSeed 0) ∧
      signedUnits true y = -10 * unitsOfOne := by
  intro lowest divisor
  obtain ⟨m, hm, -, remainders⟩ := int_and_mod_exact 0 (Generator.ofSeed 0) true
    ⟨9218868437227405311, by decide⟩
  have whole : lowest.truncate? = some m := truncate?_eq_some_iff.mpr hm
  have signs : lowest.truncate?.map (fun m => decide (m < 0)) = some true := by decide +kernel
  have rests : lowest.truncate?.map (fun m => m - 17 * m.tdiv 17) = some (-10) := by
    decide +kernel
  simp only [whole, Option.map_some, Option.some.injEq] at signs rests
  have hn : divisor.Truncates 17 := truncate?_eq_some_iff.mp (by decide +kernel)
  obtain ⟨r, y, called, value, rest, -⟩ := remainders divisor 17 hn (by decide)
  rw [signs] at called value
  rw [rest, rests] at value
  exact ⟨y, called, value⟩

end Builtin

end NumberedBasic
