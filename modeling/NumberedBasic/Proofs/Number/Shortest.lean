import Mathlib.Tactic.Positivity
import NumberedBasic.Proofs.Number.Nearest

/-! # The shortest decimal reads back

The search for the shortest decimal finds one on some grid of powers of ten, and what it finds
lies in the interval of the magnitude. So every decimal of the same value reads as the
magnitude.
-/

namespace NumberedBasic

namespace Decimal

/-- The decimal is a fraction of the least positive magnitude. -/
def numerator (d : Decimal) : Nat :=
  d.coefficient * 10 ^ d.exponent.toNat * unitsOfOne

def denominator (d : Decimal) : Nat :=
  10 ^ (-d.exponent).toNat

theorem denominator_pos (d : Decimal) : 0 < d.denominator :=
  Nat.pow_pos (by decide)

theorem Equivalent.mul_eq {d e : Decimal} (h : d.Equivalent e) :
    e.numerator * d.denominator = d.numerator * e.denominator := by
  obtain ⟨a, i⟩ := d
  obtain ⟨b, j⟩ := e
  unfold Equivalent at h
  unfold numerator denominator
  dsimp only at *
  -- both sides have a power of ten in common
  obtain ⟨t, ht⟩ : ∃ t, t = i.toNat + (-j).toNat - (i - j).toNat := ⟨_, rfl⟩
  have left : 10 ^ j.toNat * 10 ^ (-i).toNat = 10 ^ (j - i).toNat * 10 ^ t := by
    rw [← Nat.pow_add, ← Nat.pow_add]
    congr 1
    omega
  have right : 10 ^ i.toNat * 10 ^ (-j).toNat = 10 ^ (i - j).toNat * 10 ^ t := by
    rw [← Nat.pow_add, ← Nat.pow_add]
    congr 1
    omega
  calc b * 10 ^ j.toNat * unitsOfOne * 10 ^ (-i).toNat
      = b * (10 ^ j.toNat * 10 ^ (-i).toNat) * unitsOfOne := by ring
    _ = b * 10 ^ (j - i).toNat * 10 ^ t * unitsOfOne := by rw [left]; ring
    _ = a * 10 ^ (i - j).toNat * 10 ^ t * unitsOfOne := by rw [h]
    _ = a * (10 ^ i.toNat * 10 ^ (-j).toNat) * unitsOfOne := by rw [right]; ring
    _ = a * 10 ^ i.toNat * unitsOfOne * 10 ^ (-j).toNat := by ring

theorem equivalent_reduce (d : Decimal) : d.Equivalent d.reduce := by
  obtain ⟨k, coefficient, exponent⟩ := d.reduce_eq
  unfold Equivalent
  have less : (d.exponent - d.reduce.exponent).toNat = 0 := by omega
  have more : (d.reduce.exponent - d.exponent).toNat = k := by omega
  rw [less, more, Nat.pow_zero, Nat.mul_one, ← coefficient]

end Decimal

namespace Magnitude

variable {x : Magnitude}

theorem within_iff (x : Magnitude) (distance reach : Nat) :
    x.within distance reach = true ↔ distance + x.mantissa % 2 ≤ reach := by
  unfold within
  rcases Nat.mod_two_eq_zero_or_one x.mantissa with even | odd
  · rw [even, if_pos rfl, decide_eq_true_eq, Nat.add_zero]
  · rw [odd, if_neg Nat.one_ne_zero, decide_eq_true_eq]
    exact Nat.lt_iff_add_one_le

theorem reach_pos (x : Magnitude) : 0 < x.reachBelow ∧ x.reachBelow ≤ x.reachAbove := by
  have spacing : 0 < 2 ^ x.scale := Nat.two_pow_pos _
  unfold reachBelow reachAbove
  split <;> omega

/-- One is a power of two, named so that it is not computed. -/
theorem exists_unitsOfOne_eq : ∃ k, k = 1074 ∧ unitsOfOne = 2 ^ k :=
  ⟨1074, rfl, rfl⟩

def gridSpacing (exponent : Int) : Nat :=
  4 * unitsOfOne * 10 ^ exponent.toNat

theorem unitsOfOne_pos : 0 < unitsOfOne := by
  unfold unitsOfOne
  positivity

theorem gridSpacing_pos (exponent : Int) : 0 < gridSpacing exponent :=
  Nat.mul_pos (Nat.mul_pos (by decide) unitsOfOne_pos) (Nat.pow_pos (by decide))

theorem four_mul_numerator (coefficient : Nat) (exponent : Int) :
    4 * (Decimal.mk coefficient exponent).numerator = gridSpacing exponent * coefficient := by
  unfold Decimal.numerator gridSpacing
  ring

theorem covers_of_onGrid? {exponent : Int} {d : Decimal} (h : x.onGrid? exponent = some d) :
    0 < d.coefficient ∧ x.Covers d.numerator d.denominator := by
  obtain ⟨below_pos, reach⟩ := x.reach_pos
  unfold onGrid? at h
  extract_lets finer spacing value lower below above lowerHits upperHits preferLower at h
  have denominator (coefficient : Nat) :
      (Decimal.mk coefficient exponent).denominator = finer := rfl
  have numerator (coefficient : Nat) :
      4 * (Decimal.mk coefficient exponent).numerator = spacing * coefficient :=
    four_mul_numerator coefficient exponent
  have finer_pos : 0 < finer := Nat.pow_pos (by decide)
  have spacing_pos : 0 < spacing := gridSpacing_pos exponent
  clear_value finer spacing
  have division : spacing * lower + below = value := Nat.div_add_mod value spacing
  have remainder : below < spacing := Nat.mod_lt value spacing_pos
  have tie : x.mantissa % 2 ≤ x.reachBelow * finer :=
    (Nat.le_of_lt_succ (Nat.mod_lt _ Nat.two_pos)).trans (Nat.mul_pos below_pos finer_pos)
  have widened : x.reachBelow * finer ≤ x.reachAbove * finer := Nat.mul_le_mul_right finer reach
  split at h
  · rename_i hits
    cases h
    have hits : lowerHits = true := (Bool.and_eq_true_iff.mp hits).1
    obtain ⟨some, near⟩ := Bool.and_eq_true_iff.mp hits
    refine ⟨of_decide_eq_true some, ?_⟩
    rw [within_iff] at near
    constructor
    · rw [numerator, denominator]
      exact (by omega : value + x.mantissa % 2 ≤ spacing * lower + x.reachBelow * finer)
    · rw [numerator, denominator, Nat.add_mul]
      exact (by omega : spacing * lower + x.mantissa % 2 ≤ value + x.reachAbove * finer)
  · split at h
    · rename_i hits
      cases h
      refine ⟨Nat.succ_pos _, ?_⟩
      have near := (x.within_iff _ _).mp hits
      constructor
      · rw [numerator, denominator, Nat.mul_succ]
        exact (by omega :
          value + x.mantissa % 2 ≤ spacing * lower + spacing + x.reachBelow * finer)
      · rw [numerator, denominator, Nat.mul_succ, Nat.add_mul]
        exact (by omega :
          spacing * lower + spacing + x.mantissa % 2 ≤ value + x.reachAbove * finer)
    · cases h

theorem reachBelow_le_quarters (h : 0 < x.rank) : x.reachBelow ≤ x.quarters := by
  have mantissa := Nat.mul_le_mul_right (2 ^ x.scale) (x.mantissa_pos h)
  unfold reachBelow quarters units
  split <;> omega

theorem exponent_of_onGrid? {exponent : Int} {d : Decimal} (h : x.onGrid? exponent = some d) :
    d.exponent = exponent := by
  unfold onGrid? at h
  extract_lets at h
  split at h
  · cases h
    rfl
  · split at h
    · cases h
      rfl
    · cases h

theorem onGrid?_isSome_of_covers {d : Decimal} (positive : 0 < d.coefficient)
    (covers : x.Covers d.numerator d.denominator) : (x.onGrid? d.exponent).isSome := by
  have scaled := four_mul_numerator d.coefficient d.exponent
  have spacing_pos := gridSpacing_pos d.exponent
  obtain ⟨low, high⟩ := covers
  rw [Nat.add_mul] at high
  rw [scaled, Decimal.denominator] at low high
  unfold onGrid?
  extract_lets finer spacing value lower below above lowerHits upperHits preferLower
  change 0 < spacing at spacing_pos
  change value + _ ≤ spacing * d.coefficient + x.reachBelow * finer at low
  change spacing * d.coefficient + _ ≤ value + x.reachAbove * finer at high
  clear_value finer
  have division : spacing * lower + below = value := Nat.div_add_mod value spacing
  have remainder : below < spacing := Nat.mod_lt value spacing_pos
  rcases Nat.lt_or_ge lower d.coefficient with less | reached
  · have next := Nat.mul_le_mul_left spacing less
    rw [Nat.mul_succ] at next
    have hits : upperHits = true := by
      apply (x.within_iff _ _).mpr
      omega
    rw [hits]
    split <;> rfl
  · have least := Nat.mul_le_mul_left spacing reached
    have near : x.within below (x.reachBelow * finer) = true := by
      rw [within_iff]
      omega
    have hits : lowerHits = true :=
      Bool.and_eq_true_iff.mpr ⟨decide_eq_true (positive.trans_le reached), near⟩
    rw [hits]
    cases upperHits <;> cases preferLower <;> rfl

/-- A grid that is no coarser than the interval has a hit. -/
theorem onGrid?_isSome {exponent : Int} (h : 0 < x.rank)
    (fine : gridSpacing exponent ≤ x.reachBelow * 10 ^ (-exponent).toNat) :
    (x.onGrid? exponent).isSome := by
  have spacing_pos := gridSpacing_pos exponent
  have enough : gridSpacing exponent ≤ x.quarters * 10 ^ (-exponent).toNat :=
    fine.trans (Nat.mul_le_mul_right _ (reachBelow_le_quarters h))
  have division := Nat.div_add_mod (x.quarters * 10 ^ (-exponent).toNat) (gridSpacing exponent)
  have remainder := Nat.mod_lt (x.quarters * 10 ^ (-exponent).toNat) spacing_pos
  have positive := Nat.div_pos enough spacing_pos
  have widened := Nat.mul_le_mul_right (10 ^ (-exponent).toNat) x.reach_pos.2
  have tie := Nat.mod_lt x.mantissa Nat.two_pos
  generalize x.quarters * 10 ^ (-exponent).toNat / gridSpacing exponent = c at division positive
  have scaled := four_mul_numerator c exponent
  have finer : (Decimal.mk c exponent).denominator = 10 ^ (-exponent).toNat := rfl
  apply onGrid?_isSome_of_covers (d := ⟨c, exponent⟩) positive
  constructor
  · rw [scaled, finer]
    omega
  · rw [scaled, finer, Nat.add_mul]
    omega

theorem ten_pow_le {a b : Nat} (h : 103 * a ≤ 31 * b) : 10 ^ a ≤ 2 ^ b := by
  refine le_of_pow_le_pow_left₀ (n := 31) (by decide) (Nat.zero_le _) ?_
  calc (10 ^ a) ^ 31 = (10 ^ 31) ^ a := by rw [← pow_mul, ← pow_mul, Nat.mul_comm]
    _ ≤ (2 ^ 103) ^ a := Nat.pow_le_pow_left (by decide) a
    _ = 2 ^ (103 * a) := (pow_mul 2 103 a).symm
    _ ≤ 2 ^ (31 * b) := Nat.pow_le_pow_right (by decide) h
    _ = (2 ^ b) ^ 31 := by rw [← pow_mul, Nat.mul_comm]

theorem two_pow_le {a b : Nat} (h : 28 * b ≤ 93 * a) : 2 ^ b ≤ 10 ^ a := by
  refine le_of_pow_le_pow_left₀ (n := 28) (by decide) (Nat.zero_le _) ?_
  calc (2 ^ b) ^ 28 = 2 ^ (28 * b) := by rw [← pow_mul, Nat.mul_comm]
    _ ≤ 2 ^ (93 * a) := Nat.pow_le_pow_right (by decide) h
    _ = (2 ^ 93) ^ a := pow_mul 2 93 a
    _ ≤ (10 ^ 28) ^ a := Nat.pow_le_pow_left (by decide) a
    _ = (10 ^ a) ^ 28 := by rw [← pow_mul, ← pow_mul, Nat.mul_comm]

/-- The search finds what is found on one of its grids, and gets no further than to a grid that
has a hit. -/
theorem exists_onGrid?_firstHit {grids k : Nat} {exponent : Int} (hk : k ≤ grids)
    (hit : (x.onGrid? (exponent - k)).isSome) :
    ∃ e, exponent - k ≤ e ∧ x.onGrid? e = some (x.firstHit grids exponent) := by
  have found : ((List.range (k + 1)).findSome? fun k : Nat => x.onGrid? (exponent - k)).isSome :=
    List.findSome?_isSome_iff.mpr ⟨k, List.mem_range.mpr (Nat.lt_succ_self k), hit⟩
  obtain ⟨d, hd⟩ := Option.isSome_iff_exists.mp found
  obtain ⟨k', hk', hd'⟩ := List.exists_of_findSome?_eq_some hd
  have further : grids + 1 = k + 1 + (grids - k) := by omega
  refine ⟨exponent - k', ?_, ?_⟩
  · have := List.mem_range.mp hk'
    omega
  · rw [firstHit, further, List.range_add, List.findSome?_append, hd, Option.some_or,
      Option.getD_some, hd']

theorem scale_le (x : Magnitude) : x.scale ≤ 2045 := by
  have := x.rank_lt
  unfold scale
  omega

theorem log2_quarters_le (x : Magnitude) : x.quarters.log2 ≤ x.scale + 54 := by
  rcases Nat.eq_zero_or_pos x.quarters with zero | positive
  · rw [zero]
    exact Nat.zero_le _
  · refine Nat.le_of_lt_succ ((Nat.log2_lt positive.ne').mpr ?_)
    have mantissa := Nat.mul_lt_mul_of_pos_right x.mantissa_lt (Nat.two_pow_pos x.scale)
    unfold quarters units
    calc 4 * (x.mantissa * 2 ^ x.scale) < 4 * (2 ^ 53 * 2 ^ x.scale) := by omega
      _ = 2 ^ (x.scale + 54 + 1) := by ring

theorem gridSpacing_le (x : Magnitude) : gridSpacing (x.gridBound - 24) ≤
    x.reachBelow * 10 ^ (-(x.gridBound - 24)).toNat := by
  have scale := x.scale_le
  have log := x.log2_quarters_le
  have reach : 2 ^ x.scale ≤ x.reachBelow := by
    unfold reachBelow
    split <;> omega
  refine Nat.le_trans ?_ (Nat.mul_le_mul_right _ reach)
  have bound : x.gridBound = ((x.quarters.log2 : Int) - 1074) * 30103 / 100000 + 1 := rfl
  generalize x.gridBound = e at *
  obtain ⟨n, hn, units⟩ := exists_unitsOfOne_eq
  have spacing : gridSpacing (e - 24) = 2 ^ (n + 2) * 10 ^ (e - 24).toNat := by
    unfold gridSpacing
    rw [units]
    ring
  rw [spacing]
  rcases Int.le_total 0 (e - 24) with coarse | fine
  · have none : (-(e - 24)).toNat = 0 := by omega
    rw [none, Nat.pow_zero, Nat.mul_one]
    calc 2 ^ (n + 2) * 10 ^ (e - 24).toNat ≤ 2 ^ (n + 2) * 2 ^ (x.scale - (n + 2)) :=
          Nat.mul_le_mul_left _ (ten_pow_le (by omega))
      _ = 2 ^ x.scale := by
        rw [← Nat.pow_add, Nat.add_sub_of_le (by omega)]
  · have none : (e - 24).toNat = 0 := by omega
    rw [none, Nat.pow_zero, Nat.mul_one]
    calc 2 ^ (n + 2) ≤ 2 ^ (x.scale + (n + 2 - x.scale)) :=
          Nat.pow_le_pow_right (by decide) (by omega)
      _ = 2 ^ x.scale * 2 ^ (n + 2 - x.scale) := Nat.pow_add ..
      _ ≤ 2 ^ x.scale * 10 ^ (-(e - 24)).toNat :=
        Nat.mul_le_mul_left _ (two_pow_le (by omega))

theorem quarters_add_le (h : 0 < x.rank) :
    x.quarters + x.reachAbove ≤ 2 ^ (x.quarters.log2 + 1) := by
  have value : x.quarters = x.mantissa * 2 ^ (x.scale + 2) := by
    unfold quarters units
    ring
  have above : x.reachAbove ≤ 2 ^ (x.scale + 2) := by
    have double : 2 ^ (x.scale + 2) = 4 * 2 ^ x.scale := by ring
    unfold reachAbove
    omega
  have least : 2 ^ (x.scale + 2) ≤ x.quarters :=
    value ▸ Nat.le_mul_of_pos_left _ (x.mantissa_pos h)
  have nonzero : x.quarters ≠ 0 := ((Nat.two_pow_pos _).trans_le least).ne'
  have places := (Nat.le_log2 nonzero).mpr least
  obtain ⟨k, hk⟩ : ∃ k, x.quarters.log2 + 1 = k + (x.scale + 2) :=
    ⟨x.quarters.log2 + 1 - (x.scale + 2), by omega⟩
  have room : x.mantissa * 2 ^ (x.scale + 2) < 2 ^ k * 2 ^ (x.scale + 2) := by
    rw [← value, ← Nat.pow_add, ← hk]
    exact Nat.lt_log2_self
  have next := Nat.mul_le_mul_right (2 ^ (x.scale + 2)) (Nat.lt_of_mul_lt_mul_right room)
  rw [Nat.succ_mul] at next
  rw [hk, Nat.pow_add 2 k, value]
  omega

/-- The search starts above all decimals of the interval. -/
theorem exponent_le_gridBound {d : Decimal} (h : 0 < x.rank) (positive : 0 < d.coefficient)
    (covers : x.Covers d.numerator d.denominator) : d.exponent ≤ x.gridBound := by
  by_contra above
  have log := x.log2_quarters_le
  have scale := x.scale_le
  have bound : x.gridBound = ((x.quarters.log2 : Int) - 1074) * 30103 / 100000 + 1 := rfl
  have upper : 4 * d.numerator ≤ 2 ^ (x.quarters.log2 + 1) * d.denominator :=
    (Nat.le_add_right _ _).trans
      (covers.upper.trans (Nat.mul_le_mul_right _ (quarters_add_le h)))
  generalize x.quarters.log2 = places at log bound upper
  obtain ⟨k, hk, units⟩ := exists_unitsOfOne_eq
  unfold Decimal.numerator Decimal.denominator at upper
  rw [units] at upper
  have least : 2 ^ (k + 2) * 10 ^ d.exponent.toNat ≤
      4 * (d.coefficient * 10 ^ d.exponent.toNat * 2 ^ k) :=
    calc 2 ^ (k + 2) * 10 ^ d.exponent.toNat
        = 1 * (4 * (10 ^ d.exponent.toNat * 2 ^ k)) := by ring
      _ ≤ d.coefficient * (4 * (10 ^ d.exponent.toNat * 2 ^ k)) :=
        Nat.mul_le_mul_right _ positive
      _ = 4 * (d.coefficient * 10 ^ d.exponent.toNat * 2 ^ k) := by ring
  have most := least.trans upper
  rcases Int.le_total 0 d.exponent with whole | fraction
  · have none : (-d.exponent).toNat = 0 := by omega
    rw [none, Nat.pow_zero, Nat.mul_one] at most
    have more : 2 ^ (places + 1) < 2 ^ (k + 2) * 10 ^ d.exponent.toNat :=
      calc 2 ^ (places + 1) < 2 ^ (k + 2 + (places - k)) :=
            Nat.pow_lt_pow_right (by decide) (by omega)
        _ = 2 ^ (k + 2) * 2 ^ (places - k) := Nat.pow_add ..
        _ ≤ 2 ^ (k + 2) * 10 ^ d.exponent.toNat :=
          Nat.mul_le_mul_left _ (two_pow_le (by omega))
    omega
  · have none : d.exponent.toNat = 0 := by omega
    rw [none, Nat.pow_zero, Nat.mul_one] at most
    have less : 2 ^ (places + 1) * 10 ^ (-d.exponent).toNat < 2 ^ (k + 2) :=
      calc 2 ^ (places + 1) * 10 ^ (-d.exponent).toNat
          ≤ 2 ^ (places + 1) * 2 ^ (k - places) :=
            Nat.mul_le_mul_left _ (ten_pow_le (by omega))
        _ = 2 ^ (places + 1 + (k - places)) := (Nat.pow_add ..).symm
        _ < 2 ^ (k + 2) := Nat.pow_lt_pow_right (by decide) (by omega)
    omega

/-- The shortest decimal lies in the interval. -/
theorem covers_shortest (h : 0 < x.rank) : 0 < x.shortest.coefficient ∧
    x.Covers x.shortest.numerator x.shortest.denominator := by
  have last : (x.onGrid? (x.gridBound - (24 : Nat))).isSome := onGrid?_isSome h x.gridSpacing_le
  obtain ⟨exponent, -, hit⟩ := exists_onGrid?_firstHit (Nat.le_refl 24) last
  exact covers_of_onGrid? hit

theorem exponent_le_shortest {d : Decimal} (h : 0 < x.rank) (positive : 0 < d.coefficient)
    (covers : x.Covers d.numerator d.denominator) : d.exponent ≤ x.shortest.exponent := by
  have start := exponent_le_gridBound h positive covers
  obtain ⟨k, within, reached, hit⟩ : ∃ k : Nat, k ≤ 24 ∧ d.exponent ≤ x.gridBound - k ∧
      (x.onGrid? (x.gridBound - k)).isSome := by
    by_cases near : x.gridBound - d.exponent ≤ 24
    · obtain ⟨k, hk⟩ : ∃ k : Nat, x.gridBound - k = d.exponent :=
        ⟨(x.gridBound - d.exponent).toNat, by omega⟩
      exact ⟨k, by omega, by omega, hk ▸ onGrid?_isSome_of_covers positive covers⟩
    · exact ⟨24, Nat.le_refl 24, by omega, onGrid?_isSome h x.gridSpacing_le⟩
  obtain ⟨exponent, coarse, found⟩ := exists_onGrid?_firstHit within hit
  have found : x.onGrid? exponent = some x.shortest := found
  rw [exponent_of_onGrid? found]
  exact reached.trans coarse

end Magnitude

namespace Magnitude.Covers

variable {x : Magnitude} {n d : Nat} (h : x.Covers n d)

include h

theorem le_two_mul (hr : 0 < x.rank) : d ≤ 2 * n := by
  have lower := h.lower
  have gap : x.reachBelow + 2 ≤ x.quarters := by
    have mantissa := Nat.mul_le_mul_right (2 ^ x.scale) (x.mantissa_pos hr)
    have spacing : 0 < 2 ^ x.scale := Nat.two_pow_pos _
    unfold reachBelow quarters units
    split <;> omega
  have product := Nat.mul_le_mul_right d gap
  rw [Nat.add_mul] at product
  omega

theorem four_mul_le : 4 * n ≤ 2 ^ (x.scale + 55) * d := by
  refine (Nat.le_add_right _ _).trans (h.upper.trans (Nat.mul_le_mul_right d ?_))
  have mantissa := Nat.mul_le_mul_right (2 ^ x.scale) (Nat.succ_le_of_lt x.mantissa_lt)
  have power : 2 ^ (x.scale + 55) = 4 * (2 ^ 53 * 2 ^ x.scale) := by ring
  rw [Nat.succ_mul] at mantissa
  unfold quarters reachAbove units
  omega

end Magnitude.Covers

namespace Number

open Magnitude

variable {x : Magnitude} {d : Decimal}

theorem exponent_le_of_covers (positive : 0 < d.coefficient)
    (covers : x.Covers d.numerator d.denominator) : d.exponent ≤ 400 := by
  by_contra high
  have scale := x.scale_le
  have upper := covers.four_mul_le
  have none : (-d.exponent).toNat = 0 := by omega
  obtain ⟨n, hn, units⟩ := exists_unitsOfOne_eq
  unfold Decimal.numerator Decimal.denominator at upper
  rw [none, Nat.pow_zero, Nat.mul_one, units] at upper
  have large : 2 ^ (x.scale + 55) ≤ 10 ^ d.exponent.toNat * 2 ^ n :=
    calc 2 ^ (x.scale + 55) ≤ 2 ^ (x.scale + 55 - n) * 2 ^ n := by
          rw [← Nat.pow_add]
          exact Nat.pow_le_pow_right (by decide) (by omega)
      _ ≤ 10 ^ d.exponent.toNat * 2 ^ n := Nat.mul_le_mul_right _ (two_pow_le (by omega))
  have product := Nat.mul_le_mul_right (10 ^ d.exponent.toNat * 2 ^ n) positive
  have some : 0 < 10 ^ d.exponent.toNat * 2 ^ n :=
    Nat.mul_pos (Nat.pow_pos (by decide)) (Nat.two_pow_pos _)
  rw [Nat.mul_assoc] at upper
  omega

theorem le_exponent_of_covers (hr : 0 < x.rank)
    (covers : x.Covers d.numerator d.denominator) :
    -400 ≤ d.exponent + d.coefficient.log2 / 3 + 1 := by
  by_contra low
  have lower := covers.le_two_mul hr
  have none : d.exponent.toNat = 0 := by omega
  obtain ⟨n, hn, units⟩ := exists_unitsOfOne_eq
  unfold Decimal.numerator Decimal.denominator at lower
  rw [none, Nat.pow_zero, Nat.mul_one, units] at lower
  obtain ⟨k, hk⟩ : ∃ k, k = d.coefficient.log2 / 3 + 1 := ⟨_, rfl⟩
  have coefficient : d.coefficient < 10 ^ k :=
    calc d.coefficient < 2 ^ (d.coefficient.log2 + 1) := Nat.lt_log2_self
      _ ≤ 2 ^ (3 * k) := Nat.pow_le_pow_right (by decide) (by omega)
      _ ≤ 10 ^ k := two_pow_le (by omega)
  have contra : 2 * (d.coefficient * 2 ^ n) < 10 ^ (-d.exponent).toNat :=
    calc 2 * (d.coefficient * 2 ^ n) = d.coefficient * 2 ^ (n + 1) := by ring
      _ < 10 ^ k * 2 ^ (n + 1) := Nat.mul_lt_mul_of_pos_right coefficient (Nat.two_pow_pos _)
      _ ≤ 10 ^ k * 10 ^ ((-d.exponent).toNat - k) :=
        Nat.mul_le_mul_left _ (two_pow_le (by omega))
      _ = 10 ^ (-d.exponent).toNat := by rw [← Nat.pow_add, Nat.add_sub_of_le (by omega)]
  omega

/-- A decimal that lies in the interval of a positive magnitude is read as this magnitude. -/
theorem ofDecimal_of_covers (positive : 0 < d.coefficient) (hr : 0 < x.rank)
    (covers : x.Covers d.numerator d.denominator) (negative : Bool) :
    ofDecimal negative d = .finite negative x := by
  unfold ofDecimal
  rw [if_neg positive.ne', if_neg (not_lt.mpr (exponent_le_of_covers positive covers)),
    if_neg (not_lt.mpr (le_exponent_of_covers hr covers))]
  exact covers.round_eq d.denominator_pos negative

theorem ofDecimal_of_equivalent (h : x.shortest.Equivalent d) (hr : 0 < x.rank)
    (negative : Bool) : ofDecimal negative d = .finite negative x := by
  obtain ⟨positive, covers⟩ := covers_shortest hr
  refine ofDecimal_of_covers ?_ hr ?_ negative
  · refine Nat.pos_of_ne_zero fun zero => ?_
    unfold Decimal.Equivalent at h
    rw [zero, Nat.zero_mul] at h
    exact (Nat.mul_pos positive (Nat.pow_pos (by decide))).ne' h
  · exact covers.of_mul_eq (Decimal.denominator_pos _) d.denominator_pos h.mul_eq

end Number

end NumberedBasic
