import NumberedBasic.Number.Basic

/-! # Decimal numbers

A decimal is a whole coefficient times a power of ten. Its digits are those of
the coefficient, and dropping zeros at their end does not change its value.
-/

namespace NumberedBasic

/-- The number `coefficient * 10 ^ exponent`. -/
structure Decimal where
  coefficient : Nat
  exponent : Int
  deriving DecidableEq, Repr, Inhabited

namespace Decimal

/-- Drops the zeros at the end of a positive coefficient. -/
def reduce (d : Decimal) : Decimal :=
  if h : 0 < d.coefficient ∧ d.coefficient % 10 = 0 then
    reduce ⟨d.coefficient / 10, d.exponent + 1⟩
  else d
termination_by d.coefficient
decreasing_by omega

def Equivalent (d e : Decimal) : Prop :=
  d.coefficient * 10 ^ (d.exponent - e.exponent).toNat =
    e.coefficient * 10 ^ (e.exponent - d.exponent).toNat

theorem reduce_coefficient_mod (d : Decimal) (h : 0 < d.coefficient) :
    d.reduce.coefficient % 10 ≠ 0 := by
  fun_induction reduce d with
  | case1 d hd ih => exact ih (by simp only; omega)
  | case2 d hd => omega

theorem reduce_eq (d : Decimal) :
    ∃ k : Nat, d.coefficient = d.reduce.coefficient * 10 ^ k ∧
      d.reduce.exponent = d.exponent + k := by
  fun_induction reduce d with
  | case1 d hd ih =>
    obtain ⟨k, hc, he⟩ := ih
    refine ⟨k + 1, ?_, ?_⟩
    · rw [Nat.pow_succ, ← Nat.mul_assoc, ← hc]
      simp only
      omega
    · rw [he]
      simp only
      omega
  | case2 d hd => exact ⟨0, by simp, by simp⟩

end Decimal

end NumberedBasic
