import NumberedBasic.Proofs.Evaluation.Progress

/-! # Repetitions without a bound

A repetition on a line is bounded by the characters ahead. Every round passes at least
one of them, so the bound is never met and each repetition unfolds round by round.
-/

namespace NumberedBasic

/-- A matcher that finds something has passed a part of the line. -/
structure Cursor.Consumes {α : Type} (matcher : Cursor → Option α × Cursor) : Prop where
  reaches : ∀ c : Cursor, c.Reaches (matcher c).2
  shortens : ∀ c : Cursor, (matcher c).1.isSome → (matcher c).2.rest.length < c.rest.length

theorem Cursor.Consumes.at_end {α : Type} {matcher : Cursor → Option α × Cursor}
    (h : Consumes matcher) {c : Cursor} (hc : c.rest = []) : matcher c = (none, c) := by
  have hr := (h.reaches c).eq_of_rest_eq_nil hc
  have hs := h.shortens c
  cases hm : matcher c with
  | mk found d =>
    simp only [hm] at hr hs
    cases found with
    | none => rw [hr]
    | some a => simp [hc] at hs

theorem Cursor.logical_consumes (o : Operator) (expected : Text) :
    Consumes (logical o expected) :=
  ⟨fun c => c.logical_reaches o expected, fun _ => logical_shortens⟩

theorem Cursor.eitherSign_consumes (first second : Char × Operator) :
    Consumes (eitherSign first second) :=
  ⟨fun c => c.eitherSign_reaches first second, fun _ => eitherSign_shortens⟩

namespace Eval

variable {α : Type} {context : Context} {r s : Reading}

section Chains

variable {operator : Cursor → Option Operator × Cursor} {operand : Eval Number}

def chainAll (operator : Cursor → Option Operator × Cursor) (operand : Eval Number)
    (left : Number) : Eval Number := do
  chainFrom operator operand (← remaining) left

variable (consumes : Cursor.Consumes operator) (advances : operand.Advances)

include consumes advances

theorem extend?_shortens {left value : Number}
    (h : extend? operator operand left context r = .ok (some value) s) :
    s.cursor.rest.length < r.cursor.rest.length := by
  obtain ⟨found, t, ht, h⟩ := bind_eq_ok_iff.mp h
  cases ht
  have hs := consumes.shortens r.cursor
  cases ho : (operator r.cursor).1 with
  | none =>
    rw [ho] at h
    cases h
  | some o =>
    rw [ho] at h hs
    have hl := (advances.bind fun right => (ofExcept_advances (o.apply left right)).bind
      fun value => .pure (some value)).of_ok h
    exact Nat.lt_of_le_of_lt hl.cursor.length_le (hs rfl)

omit advances in
theorem extend?_at_end {left : Number} (h : r.cursor.rest = []) :
    extend? operator operand left context r = .ok none r := by
  have hm := consumes.at_end h
  have hs : scan operator context r = .ok none r := by
    simp only [scan, hm]
  exact (bind_of_ok hs _).trans rfl

omit advances in
theorem chainFrom_at_end (n : Nat) {left : Number} (h : r.cursor.rest = []) :
    chainFrom operator operand n left context r = .ok left r := by
  cases n with
  | zero => rfl
  | succ n => exact (bind_of_ok (extend?_at_end consumes h) _).trans rfl

/-- Any bound will do that covers the characters ahead. -/
theorem chainFrom_eq {m n : Nat} {left : Number} (hm : r.cursor.rest.length ≤ m)
    (hn : r.cursor.rest.length ≤ n) :
    chainFrom operator operand m left context r = chainFrom operator operand n left context r := by
  induction m generalizing n left r with
  | zero =>
    have hr := List.eq_nil_of_length_eq_zero (Nat.le_zero.mp hm)
    rw [chainFrom_at_end consumes n hr]
    rfl
  | succ m ih =>
    cases n with
    | zero =>
      have hr := List.eq_nil_of_length_eq_zero (Nat.le_zero.mp hn)
      rw [chainFrom_at_end consumes (m + 1) hr]
      rfl
    | succ n =>
      refine bind_congr rfl fun value s he => ?_
      cases value with
      | none => rfl
      | some value =>
        have hs := extend?_shortens consumes advances he
        exact ih (by omega) (by omega)

theorem chainAll_eq (left : Number) :
    chainAll operator operand left = (do
      match ← extend? operator operand left with
      | none => return left
      | some value => chainAll operator operand value) := by
  funext context r
  have ha (value : Number) (s : Reading) : chainAll operator operand value context s =
      chainFrom operator operand s.cursor.rest.length value context s := rfl
  rw [ha, chainFrom_eq consumes advances (Nat.le_refl _) (Nat.le_succ _)]
  refine bind_congr rfl fun value s he => ?_
  cases value with
  | none => rfl
  | some value =>
    have hs := extend?_shortens consumes advances he
    exact (chainFrom_eq consumes advances (by omega) (Nat.le_refl _)).trans (ha value s).symm

theorem chain_eq : chain operator operand = (do chainAll operator operand (← operand)) := by
  unfold chain
  congr 1
  funext first
  exact (chainAll_eq consumes advances first).symm

end Chains

section Lists

variable {separator : Text} {item : Eval α}

variable (nonempty : separator ≠ [])

include nonempty

theorem literal_shortens (h : literal separator context r = .ok true s) :
    s.cursor.rest.length < r.cursor.rest.length := by
  have hl := Cursor.literal_shortens (c := r.cursor) nonempty
  unfold literal scan at h
  cases hm : r.cursor.literal separator with
  | mk found d =>
    simp only [hm] at h hl
    cases h
    exact hl rfl

theorem literal_at_end (h : r.cursor.rest = []) :
    literal separator context r = .ok false r := by
  have hr := (r.cursor.literal_reaches separator).eq_of_rest_eq_nil h
  have hl := Cursor.literal_shortens (c := r.cursor) nonempty
  unfold literal scan
  cases hm : r.cursor.literal separator with
  | mk found d =>
    simp only [hm] at hr hl
    cases found with
    | false => rw [hr]
    | true => simp [h] at hl

theorem further_at_end (n : Nat) (h : r.cursor.rest = []) :
    further (literal separator) item n context r = .ok [] r := by
  cases n with
  | zero => rfl
  | succ n => exact (bind_of_ok (literal_at_end nonempty h) _).trans rfl

variable (advances : item.Advances)

include advances

theorem further_eq {m n : Nat} (hm : r.cursor.rest.length ≤ m) (hn : r.cursor.rest.length ≤ n) :
    further (literal separator) item m context r =
      further (literal separator) item n context r := by
  induction m generalizing n r with
  | zero =>
    have hr := List.eq_nil_of_length_eq_zero (Nat.le_zero.mp hm)
    rw [further_at_end nonempty n hr]
    rfl
  | succ m ih =>
    cases n with
    | zero =>
      have hr := List.eq_nil_of_length_eq_zero (Nat.le_zero.mp hn)
      rw [further_at_end nonempty (m + 1) hr]
      rfl
    | succ n =>
      refine bind_congr rfl fun found s hs => ?_
      cases found with
      | false => rfl
      | true =>
        have hl := literal_shortens nonempty hs
        refine bind_congr rfl fun first t hi => bind_congr ?_ fun _ _ _ => rfl
        have ht := (advances.of_ok hi).cursor.length_le
        exact ih (by omega) (by omega)

theorem separatedBy_eq :
    separatedBy separator item = (do
      let first ← item
      if ← literal separator then return first :: (← separatedBy separator item)
      else return [first]) := by
  funext context r
  refine bind_congr rfl fun first s hi => ?_
  have hr (s : Reading) : remaining context s = .ok s.cursor.rest.length s := rfl
  rw [bind_of_ok (hr s)]
  refine (bind_congr (further_eq nonempty advances (Nat.le_refl _) (Nat.le_succ _))
    fun _ _ _ => rfl).trans ?_
  unfold further
  rw [bind_assoc]
  refine bind_congr rfl fun found t hs => ?_
  cases found with
  | false => rfl
  | true =>
    have hl := literal_shortens nonempty hs
    refine bind_congr ?_ fun _ _ _ => rfl
    refine bind_congr rfl fun second u hi => ?_
    have hu := (advances.of_ok hi).cursor.length_le
    rw [bind_of_ok (hr u)]
    exact bind_congr (further_eq nonempty advances (by omega) (Nat.le_refl _)) fun _ _ _ => rfl

end Lists

end Eval

end NumberedBasic
