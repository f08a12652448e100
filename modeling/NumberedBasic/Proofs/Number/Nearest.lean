import Mathlib.Tactic.Linarith
import Mathlib.Tactic.Ring
import NumberedBasic.Decimal.Read
import NumberedBasic.Decimal.Shortest

/-! # Fractions that round to a magnitude

The fractions that a magnitude is nearest to form an interval around it, whose ends are as
far away as half the spacing to the neighbours. Rounding brings every fraction of the interval
back to the magnitude, and every fraction that is not too large lies in such an interval.
-/

namespace NumberedBasic

/-- A fraction within half a unit of a whole number rounds to it, and a tie does so if the
number is even. -/
theorem roundEven_eq {n d m : Nat} (hd : 0 < d) (lower : 2 * (m * d) + m % 2 ≤ 2 * n + d)
    (upper : 2 * n + m % 2 ≤ 2 * (m * d) + d) : roundEven n d = m := by
  have division := Nat.div_add_mod n d
  have remainder := Nat.mod_lt n hd
  unfold roundEven
  dsimp only
  generalize n / d = q at *
  generalize n % d = r at *
  subst division
  have nonneg := Nat.zero_le (m % 2)
  have near : q = m ∨ q + 1 = m := by
    have above : q < m + 1 := by
      by_contra h
      have := Nat.mul_le_mul_left d (not_lt.mp h)
      nlinarith
    have below : m < q + 2 := by
      by_contra h
      have := Nat.mul_le_mul_left d (not_lt.mp h)
      nlinarith
    omega
  rcases near with rfl | rfl
  · have half : 2 * r + q % 2 ≤ d := by nlinarith
    split
    · rfl
    · split <;> omega
  · have half : d + (q + 1) % 2 ≤ 2 * r := by nlinarith
    split
    · omega
    · split <;> omega

theorem roundEven_near (n : Nat) {d : Nat} (hd : 0 < d) :
    2 * (roundEven n d * d) + roundEven n d % 2 ≤ 2 * n + d ∧
      2 * n + roundEven n d % 2 ≤ 2 * (roundEven n d * d) + d := by
  have division := Nat.div_add_mod n d
  have remainder := Nat.mod_lt n hd
  unfold roundEven
  dsimp only
  generalize n / d = q at *
  generalize n % d = r at *
  have e : (q + 1) * d = d * q + d := by ring
  have e' : q * d = d * q := Nat.mul_comm q d
  split
  · rw [e']
    omega
  · split
    · rw [e]
      omega
    · rcases Nat.mod_two_eq_zero_or_one q with even | odd
      · rw [even, Nat.add_zero, e']
        omega
      · rw [odd, e]
        omega

namespace Magnitude

variable (x : Magnitude)

theorem rank_eq : x.scale * 2 ^ 52 + x.mantissa = x.rank := by
  unfold mantissa scale
  omega

theorem mantissa_lt : x.mantissa < 2 ^ 53 := by
  unfold mantissa scale
  omega

theorem le_mantissa (h : 0 < x.scale) : 2 ^ 52 ≤ x.mantissa := by
  unfold mantissa scale at *
  omega

theorem mantissa_pos (h : 0 < x.rank) : 0 < x.mantissa := by
  unfold mantissa scale at *
  omega

/-- The fraction of the least positive magnitude lies in the interval of the magnitude, whose
ends belong to it if the mantissa is even. -/
structure Covers (n d : Nat) : Prop where
  lower : x.quarters * d + x.mantissa % 2 ≤ 4 * n + x.reachBelow * d
  upper : 4 * n + x.mantissa % 2 ≤ (x.quarters + x.reachAbove) * d

namespace Covers

variable {x} {n d : Nat} (h : x.Covers n d)

include h

theorem of_mul_eq {n' d' : Nat} (hd : 0 < d) (hd' : 0 < d') (same : n' * d = n * d') :
    x.Covers n' d' := by
  -- a strict inequality stays strict when its common factor is another one
  have scaled {a b a' b' : Nat} (hab : a + x.mantissa % 2 ≤ b) (ha : a' * d = a * d')
      (hb : b' * d = b * d') : a' + x.mantissa % 2 ≤ b' := by
    rcases Nat.mod_two_eq_zero_or_one x.mantissa with even | odd
    · rw [even] at hab ⊢
      exact Nat.le_of_mul_le_mul_right (ha ▸ hb ▸ Nat.mul_le_mul_right d' hab) hd
    · rw [odd] at hab ⊢
      exact Nat.lt_of_mul_lt_mul_right (ha ▸ hb ▸ Nat.mul_lt_mul_of_pos_right hab hd')
  obtain ⟨lower, upper⟩ := h
  exact ⟨scaled lower (by ring) (by linarith), scaled upper (by linarith) (by ring)⟩

/-- In spacings of the magnitude the fraction is within half a unit of the mantissa, unless it
is below the lower end of a binade. -/
theorem spaced (hd : 0 < d)
    (away : x.mantissa * (d * 2 ^ x.scale) ≤ n ∨ ¬(x.mantissa = 2 ^ 52 ∧ 0 < x.scale)) :
    2 * (x.mantissa * (d * 2 ^ x.scale)) + x.mantissa % 2 ≤ 2 * n + d * 2 ^ x.scale ∧
      2 * n + x.mantissa % 2 ≤ 2 * (x.mantissa * (d * 2 ^ x.scale)) + d * 2 ^ x.scale := by
  obtain ⟨lower, upper⟩ := h
  unfold quarters reachAbove reachBelow units at *
  have spacing : 0 < d * 2 ^ x.scale := Nat.mul_pos hd (Nat.two_pow_pos _)
  generalize 2 ^ x.scale = s at *
  have e₁ : 4 * (x.mantissa * s) * d = 4 * (x.mantissa * (d * s)) := by ring
  have e₂ : 2 * s * d = 2 * (d * s) := by ring
  rw [Nat.add_mul, e₁, e₂] at upper
  constructor
  · rcases away with above | inside
    · omega
    · rw [if_neg inside, e₁, e₂] at lower
      omega
  · omega

theorem halved (lowest : x.mantissa = 2 ^ 52) {scale : Nat} (hs : x.scale = scale + 1) :
    2 * (2 ^ 53 * (d * 2 ^ scale)) ≤ 2 * n + d * 2 ^ scale := by
  have lower := h.lower
  unfold quarters reachBelow units at lower
  have double : 2 ^ (scale + 1) = 2 ^ scale * 2 := Nat.pow_succ ..
  rw [if_pos ⟨lowest, by omega⟩, lowest, hs, double] at lower
  generalize 2 ^ scale = s at *
  have e₁ : 4 * (2 ^ 52 * (s * 2)) * d = 4 * (2 ^ 53 * (d * s)) := by ring
  have e₂ : s * 2 * d = 2 * (d * s) := by ring
  rw [e₁, e₂] at lower
  omega

theorem below (hd : 0 < d) : n < 2 ^ 53 * (d * 2 ^ x.scale) := by
  have spacing : 0 < d * 2 ^ x.scale := Nat.mul_pos hd (Nat.two_pow_pos _)
  have low := Nat.mul_le_mul_right (d * 2 ^ x.scale) (Nat.succ_le_of_lt x.mantissa_lt)
  have upper := h.upper
  unfold quarters reachAbove units at upper
  generalize 2 ^ x.scale = s at *
  have e : (4 * (x.mantissa * s) + 2 * s) * d = 4 * (x.mantissa * (d * s)) + 2 * (d * s) := by
    ring
  rw [Nat.succ_mul] at low
  omega

/-- Only the interval of its least magnitude reaches below the lower end of a binade. -/
theorem mantissa_eq (hd : 0 < d) (positive : 0 < x.scale)
    (under : n < 2 ^ 52 * (d * 2 ^ x.scale)) : x.mantissa = 2 ^ 52 := by
  by_contra higher
  obtain ⟨lower, -⟩ := h.spaced hd (.inr fun edge => higher edge.1)
  have next := Nat.mul_le_mul_right (d * 2 ^ x.scale)
    (Nat.lt_of_le_of_ne (x.le_mantissa positive) (Ne.symm higher))
  rw [Nat.succ_mul] at next
  omega

end Covers

variable {x}

theorem log2_div {n d scale : Nat} (hd : 0 < d) (lower : 2 ^ 52 * (d * 2 ^ scale) ≤ n)
    (upper : n < 2 ^ 53 * (d * 2 ^ scale)) : (n / d).log2 - 52 = scale := by
  have e₁ : 2 ^ 52 * (d * 2 ^ scale) = 2 ^ (52 + scale) * d := by ring
  have e₂ : 2 ^ 53 * (d * 2 ^ scale) = d * 2 ^ (52 + scale + 1) := by ring
  have lower' : 2 ^ (52 + scale) ≤ n / d := (Nat.le_div_iff_mul_le hd).mpr (e₁ ▸ lower)
  have upper' : n / d < 2 ^ (52 + scale + 1) := Nat.div_lt_of_lt_mul (e₂ ▸ upper)
  have pos : n / d ≠ 0 := (Nat.lt_of_lt_of_le (Nat.two_pow_pos _) lower').ne'
  rw [(Nat.log2_eq_iff pos).mpr ⟨lower', upper'⟩, Nat.add_sub_cancel_left]

theorem log2_div_zero {n d : Nat} (upper : n < 2 ^ 53 * d) : (n / d).log2 - 52 = 0 := by
  have small : n / d < 2 ^ 53 := Nat.div_lt_of_lt_mul (Nat.mul_comm _ d ▸ upper)
  rcases Nat.eq_zero_or_pos (n / d) with none | some
  · rw [none]
    rfl
  · have := (Nat.log2_lt some.ne').mpr small
    omega

/-- Rounding finds the scale of the magnitude for the fractions of its interval, or the scale
below it for those under the lower end of a binade. -/
theorem Covers.round_scale {n d : Nat} (h : x.Covers n d) (hd : 0 < d) :
    ((n / d).log2 - 52 = x.scale ∧
      (x.mantissa * (d * 2 ^ x.scale) ≤ n ∨ ¬(x.mantissa = 2 ^ 52 ∧ 0 < x.scale))) ∨
    ∃ scale, x.scale = scale + 1 ∧ x.mantissa = 2 ^ 52 ∧ (n / d).log2 - 52 = scale ∧
      n < 2 ^ 53 * (d * 2 ^ scale) := by
  have upper := h.below hd
  rcases Nat.eq_zero_or_pos x.scale with zero | positive
  · refine .inl ⟨?_, .inr fun edge => by omega⟩
    rw [zero, Nat.pow_zero, Nat.mul_one] at upper
    rw [zero, log2_div_zero upper]
  · rcases Nat.lt_or_ge n (2 ^ 52 * (d * 2 ^ x.scale)) with under | above
    · obtain ⟨scale, hs⟩ := Nat.exists_eq_add_one.mpr positive
      have lowest := h.mantissa_eq hd positive under
      have lower := h.halved lowest hs
      have double : 2 ^ 52 * (d * 2 ^ (scale + 1)) = 2 ^ 53 * (d * 2 ^ scale) := by ring
      rw [hs, double] at under
      exact .inr ⟨scale, hs, lowest, log2_div hd (by omega) under, under⟩
    · refine .inl ⟨log2_div hd above upper, ?_⟩
      by_cases lowest : x.mantissa = 2 ^ 52
      · exact .inl (lowest ▸ above)
      · exact .inr fun edge => lowest edge.1

/-- Rounding brings every fraction of the interval back to the magnitude. -/
theorem Covers.round_eq {n d : Nat} (h : x.Covers n d) (hd : 0 < d) (negative : Bool) :
    Number.round negative n d = .finite negative x := by
  have rank := x.rank_eq
  have rounded : ((n / d).log2 - 52) * 2 ^ 52 +
      roundEven n (d * 2 ^ ((n / d).log2 - 52)) = x.rank := by
    rcases h.round_scale hd with ⟨hs, away⟩ | ⟨scale, hs, lowest, hs', below⟩
    · have spacing : 0 < d * 2 ^ x.scale := Nat.mul_pos hd (Nat.two_pow_pos _)
      obtain ⟨lower, upper⟩ := h.spaced hd away
      rw [hs, roundEven_eq spacing lower upper, rank]
    · have spacing : 0 < d * 2 ^ scale := Nat.mul_pos hd (Nat.two_pow_pos _)
      have lower := h.halved lowest hs
      have even : 2 ^ 53 % 2 = 0 := rfl
      have rounds : roundEven n (d * 2 ^ scale) = 2 ^ 53 := by
        refine roundEven_eq spacing ?_ ?_
        · rw [even]
          exact lower
        · rw [even]
          omega
      rw [lowest, hs] at rank
      calc
        _ = scale * 2 ^ 52 + 2 ^ 53 := by rw [hs', rounds]
        _ = x.rank := by linarith
  unfold Number.round
  simp only [rounded, x.rank_lt, ↓reduceDIte]

theorem covers_of_spaced {n d : Nat}
    (lower : 2 * (x.mantissa * (d * 2 ^ x.scale)) + x.mantissa % 2 ≤ 2 * n + d * 2 ^ x.scale)
    (upper : 2 * n + x.mantissa % 2 ≤ 2 * (x.mantissa * (d * 2 ^ x.scale)) + d * 2 ^ x.scale)
    (away : x.mantissa * (d * 2 ^ x.scale) ≤ n ∨ ¬(x.mantissa = 2 ^ 52 ∧ 0 < x.scale)) :
    x.Covers n d := by
  have value : x.quarters * d = 4 * (x.mantissa * (d * 2 ^ x.scale)) := by
    unfold quarters units
    ring
  have above : x.reachAbove * d = 2 * (d * 2 ^ x.scale) := by
    unfold reachAbove
    ring
  constructor
  · rw [value]
    by_cases edge : x.mantissa = 2 ^ 52 ∧ 0 < x.scale
    · have even : x.mantissa % 2 = 0 := by omega
      have exact_or_above := away.resolve_right (not_not_intro edge)
      omega
    · have below : x.reachBelow * d = 2 * (d * 2 ^ x.scale) := by
        rw [reachBelow, if_neg edge]
        ring
      omega
  · rw [Nat.add_mul, value, above]
    omega

theorem covers_of_halved {n d scale : Nat} (lowest : x.mantissa = 2 ^ 52)
    (hs : x.scale = scale + 1) (lower : 2 * (2 ^ 53 * (d * 2 ^ scale)) ≤ 2 * n + d * 2 ^ scale)
    (upper : n < 2 ^ 53 * (d * 2 ^ scale)) : x.Covers n d := by
  have value : x.quarters * d = 4 * (2 ^ 53 * (d * 2 ^ scale)) := by
    unfold quarters units
    rw [lowest, hs]
    ring
  have below : x.reachBelow * d = 2 * (d * 2 ^ scale) := by
    rw [reachBelow, if_pos ⟨lowest, by omega⟩, hs]
    ring
  have even : x.mantissa % 2 = 0 := by omega
  constructor
  · rw [value, below, even]
    omega
  · rw [Nat.add_mul, value, even]
    omega

theorem exists_parts {scale mantissa : Nat} (lower : 0 < scale → 2 ^ 52 ≤ mantissa)
    (upper : mantissa < 2 ^ 53) (within : scale ≤ 2045) :
    ∃ x : Magnitude, x.scale = scale ∧ x.mantissa = mantissa := by
  have rank_lt : scale * 2 ^ 52 + mantissa < 2047 * 2 ^ 52 := by omega
  have same : Magnitude.scale ⟨scale * 2 ^ 52 + mantissa, rank_lt⟩ = scale := by
    change (scale * 2 ^ 52 + mantissa) / 2 ^ 52 - 1 = scale
    omega
  refine ⟨⟨scale * 2 ^ 52 + mantissa, rank_lt⟩, same, ?_⟩
  rw [Magnitude.mantissa, same, Nat.add_sub_cancel_left]

/-- The scale of a fraction: at most `2 ^ 53` spacings, and at least `2 ^ 52` if there is a finer
scale. -/
theorem scale_bounds {n d scale : Nat} (hd : 0 < d) (hs : (n / d).log2 - 52 = scale) :
    n < 2 ^ 53 * (d * 2 ^ scale) ∧ (0 < scale → 2 ^ 52 * (d * 2 ^ scale) ≤ n) := by
  constructor
  · have e : 2 ^ 53 * (d * 2 ^ scale) = 2 ^ (scale + 53) * d := by ring
    rw [e, ← Nat.div_lt_iff_lt_mul hd]
    exact Nat.lt_log2_self.trans_le (Nat.pow_le_pow_right Nat.two_pos (by omega))
  · intro positive
    have e : 2 ^ 52 * (d * 2 ^ scale) = 2 ^ (scale + 52) * d := by ring
    have nonzero : n / d ≠ 0 := by
      intro none
      rw [none] at hs
      exact positive.ne hs
    rw [e, ← Nat.le_div_iff_mul_le hd]
    exact (Nat.pow_le_pow_right Nat.two_pos (by omega)).trans (Nat.log2_self_le nonzero)

/-- A fraction that is not too large lies in the interval of a magnitude. -/
theorem exists_covers {n d : Nat} (hd : 0 < d) (bounded : n < 2 ^ 2097 * d) :
    ∃ x : Magnitude, x.Covers n d := by
  obtain ⟨scale, hs⟩ : ∃ scale, (n / d).log2 - 52 = scale := ⟨_, rfl⟩
  have small : scale ≤ 2044 := by
    have quotient : n / d < 2 ^ 2097 := (Nat.div_lt_iff_lt_mul hd).mpr bounded
    rcases Nat.eq_zero_or_pos (n / d) with none | some
    · rw [none] at hs
      exact hs ▸ Nat.zero_le _
    · have := (Nat.log2_lt some.ne').mpr quotient
      omega
  have spacing : 0 < d * 2 ^ scale := Nat.mul_pos hd (Nat.two_pow_pos _)
  obtain ⟨upper, lower⟩ := scale_bounds hd hs
  obtain ⟨near, near'⟩ := roundEven_near n spacing
  generalize roundEven n (d * 2 ^ scale) = r at near near'
  have high : r ≤ 2 ^ 53 := by
    by_contra above
    have := Nat.mul_le_mul_right (d * 2 ^ scale) (not_le.mp above)
    rw [Nat.succ_mul] at this
    omega
  have low (h : 0 < scale) : 2 ^ 52 ≤ r := by
    by_contra below
    have := Nat.mul_le_mul_right (d * 2 ^ scale) (not_le.mp below)
    have := lower h
    rw [Nat.succ_mul] at *
    omega
  rcases Nat.lt_or_eq_of_le high with inside | rfl
  · obtain ⟨x, rfl, rfl⟩ := exists_parts low inside (by omega)
    refine ⟨x, covers_of_spaced near near' ?_⟩
    by_cases edge : x.mantissa = 2 ^ 52 ∧ 0 < x.scale
    · rw [edge.1]
      exact .inl (lower edge.2)
    · exact .inr edge
  · -- rounding has carried into the next binade
    obtain ⟨x, scaled, lowest⟩ : ∃ x : Magnitude, x.scale = scale + 1 ∧ x.mantissa = 2 ^ 52 :=
      exists_parts (fun _ => Nat.le_refl _) (by decide) (by omega)
    exact ⟨x, covers_of_halved lowest scaled (by omega) upper⟩

end Magnitude

end NumberedBasic
