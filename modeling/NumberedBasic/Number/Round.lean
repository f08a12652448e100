import NumberedBasic.Number.Basic

/-! # Rounding to the nearest number

A fraction of the least positive magnitude is rounded once, ties to the even
neighbour. Ranks carry from one binade to the next by themselves, and the rank
after the last finite magnitude is infinity.
-/

namespace NumberedBasic

/-- The whole number nearest to a fraction; a tie goes to the even neighbour. -/
def roundEven (numerator denominator : Nat) : Nat :=
  let quotient := numerator / denominator
  let remainder := numerator % denominator
  if 2 * remainder < denominator then quotient
  else if denominator < 2 * remainder then quotient + 1
  else quotient + quotient % 2

/-- The integer part of a square root, two binary digits at a time. -/
def isqrt (n : Nat) : Nat :=
  if h : n = 0 then 0
  else
    let root := 2 * isqrt (n / 4)
    if (root + 1) * (root + 1) ≤ n then root + 1 else root
termination_by n
decreasing_by omega

theorem isqrt_bounds (n : Nat) :
    isqrt n * isqrt n ≤ n ∧ n < (isqrt n + 1) * (isqrt n + 1) := by
  induction n using Nat.strongRecOn with
  | ind n ih =>
    rw [isqrt]
    split
    · omega
    · rename_i h
      obtain ⟨lower, upper⟩ := ih (n / 4) (by omega)
      generalize isqrt (n / 4) = r at lower upper ⊢
      have hl : 4 * (r * r) ≤ n := by omega
      have hu : n < 4 * ((r + 1) * (r + 1)) := by omega
      simp only
      split
      · rename_i hle
        exact ⟨hle, by grind⟩
      · rename_i hlt
        exact ⟨by grind, by omega⟩

namespace Number

def round (negative : Bool) (numerator denominator : Nat) : Number :=
  let scale := (numerator / denominator).log2 - 52
  let rank := scale * 2 ^ 52 + roundEven numerator (denominator * 2 ^ scale)
  if h : rank < 2047 * 2 ^ 52 then finite negative ⟨rank, h⟩ else infinite negative

/-- The number nearest to `2 ^ doublings` square roots of a whole number of units.
The root is taken with sixty more binary digits; one that does not come out even
is rounded from the middle of the last of them, which no boundary meets. -/
def roundRoot (radicand doublings : Nat) : Number :=
  let scaled := radicand * 4 ^ 60
  let root := isqrt scaled
  if root * root = scaled then round false (root * 2 ^ doublings) (2 ^ 60)
  else round false ((2 * root + 1) * 2 ^ doublings) (2 ^ 61)

end Number

end NumberedBasic
