import NumberedBasic.Proofs.Evaluation.Repetition

/-! # Blanks behind expressions

An expression passes the blanks behind it, because it looks for one more operator there.
Only a keyword that is not found gives the blanks back, and they were passed before.
-/

namespace NumberedBasic

namespace Cursor

def Settled (c : Cursor) : Prop :=
  ∀ first ∈ c.rest.head?, Text.isBlank first = false

theorem skipBlanks_settled (c : Cursor) : c.skipBlanks.Settled := by
  intro first hf
  have h := List.head?_dropWhile_not Text.isBlank c.rest
  have hf : (c.rest.dropWhile Text.isBlank).head? = some first := hf
  rwa [hf] at h

variable {c : Cursor}

theorem literal_settled {expected : Text} (h : (c.literal expected).1 = false) :
    (c.literal expected).2.Settled := by
  unfold literal at h ⊢
  dsimp only at h ⊢
  split at h
  · cases h
  · rename_i hp
    rw [if_neg hp]
    exact c.skipBlanks_settled

theorem eitherSign_settled {first second : Char × Operator}
    (h : (c.eitherSign first second).1 = none) : (c.eitherSign first second).2.Settled := by
  unfold eitherSign at h ⊢
  split at h
  · cases h
  · split at h
    · cases h
    · rename_i d hm e hm'
      have hs := literal_settled (congrArg Prod.fst hm')
      rwa [hm'] at hs

theorem keyword_not_found {expected : Text} (h : (c.keyword expected).1 = false) :
    (c.keyword expected).2 = c := by
  unfold keyword at h ⊢
  split at h
  · split at h
    · cases h
    · rename_i hr
      rw [if_neg hr]
  · rfl

theorem logical_settled {o : Operator} {expected : Text} (hc : c.Settled)
    (h : (c.logical o expected).1 = none) : (c.logical o expected).2.Settled := by
  unfold logical at h ⊢
  split at h
  · cases h
  · rename_i d hm
    have hd := keyword_not_found (congrArg Prod.fst hm)
    rw [hm] at hd
    exact hd ▸ hc

theorem relation_settled (h : c.relation.1 = none) : c.relation.2.Settled := by
  unfold relation at h ⊢
  dsimp only at h ⊢
  split at h
  · cases h
  · rename_i hf
    exact c.skipBlanks_settled

end Cursor

namespace Eval

variable {α : Type} {context : Context} {r s : Reading}

def Settles (e : Eval α) : Prop :=
  ∀ {context : Context} {r s : Reading} {a : α}, e context r = .ok a s → s.cursor.Settled

theorem scan_ok {matcher : Cursor → α × Cursor} {a : α} (h : scan matcher context r = .ok a s) :
    (matcher r.cursor).1 = a ∧ s.cursor = (matcher r.cursor).2 := by
  cases h
  exact ⟨rfl, rfl⟩

section Chains

variable {operator : Cursor → Option Operator × Cursor} {operand : Eval Number}

theorem extend?_ok {left : Number} {value : Option Number}
    (h : extend? operator operand left context r = .ok value s) :
    (value = none ∧ (operator r.cursor).1 = none ∧ s.cursor = (operator r.cursor).2) ∨
      ∃ a right t, value = some a ∧ operand context t = .ok right s := by
  obtain ⟨found, t, ht, h⟩ := bind_eq_ok_iff.mp h
  cases found with
  | none =>
    obtain ⟨ho, hc⟩ := scan_ok ht
    cases h
    exact .inl ⟨rfl, ho, hc⟩
  | some o =>
    obtain ⟨right, u, hu, h⟩ := bind_eq_ok_iff.mp h
    obtain ⟨value, w, hw, h⟩ := bind_eq_ok_iff.mp h
    obtain ⟨-, rfl⟩ := ofExcept_ok hw
    cases h
    exact .inr ⟨_, right, _, rfl, hu⟩

variable (consumes : Cursor.Consumes operator) (advances : operand.Advances)
  (settled : ∀ {context : Context} {r s : Reading} {a : Number}, operand context r = .ok a s →
    (operator s.cursor).1 = none → (operator s.cursor).2.Settled)

include consumes advances settled

theorem chainAll_settled {left value : Number}
    (hr : (operator r.cursor).1 = none → (operator r.cursor).2.Settled)
    (h : chainAll operator operand left context r = .ok value s) : s.cursor.Settled := by
  induction hn : r.cursor.rest.length using Nat.strongRecOn generalizing left r with
  | ind n ih =>
    rw [chainAll_eq consumes advances] at h
    obtain ⟨found, t, ht, h⟩ := bind_eq_ok_iff.mp h
    rcases extend?_ok ht with ⟨rfl, ho, hc⟩ | ⟨a, right, u, rfl, hu⟩
    · cases h
      rw [hc]
      exact hr ho
    · have hs := extend?_shortens consumes advances ht
      exact ih _ (hn ▸ hs) (settled hu) h rfl

/-- A chain ends where its operator was not found behind an operand. -/
theorem chain_settles : (chain operator operand).Settles := by
  rw [chain_eq consumes advances]
  intro context r s value h
  obtain ⟨first, t, ht, h⟩ := bind_eq_ok_iff.mp h
  exact chainAll_settled consumes advances settled (settled ht) h

end Chains

section Levels

variable {nesting : Nesting} (advances : nesting.All Advances)

include advances

theorem arithmetic_settles : (arithmetic nesting).Settles :=
  chain_settles (Cursor.eitherSign_consumes _ _) (term_advances advances) fun _ =>
    Cursor.eitherSign_settled

theorem comparison_settles : (comparison nesting).Settles := by
  intro context r s value h
  obtain ⟨left, t, -, h⟩ := bind_eq_ok_iff.mp h
  obtain ⟨found, u, hu, h⟩ := bind_eq_ok_iff.mp h
  cases found with
  | none =>
    obtain ⟨hf, hc⟩ := scan_ok hu
    cases h
    rw [hc]
    exact Cursor.relation_settled hf
  | some relation =>
    obtain ⟨right, v, hv, h⟩ := bind_eq_ok_iff.mp h
    cases h
    exact arithmetic_settles advances hv

theorem negation_settles : (negation nesting).Settles := by
  intro context r s value h
  obtain ⟨found, t, -, h⟩ := bind_eq_ok_iff.mp h
  cases found with
  | false => exact comparison_settles advances h
  | true =>
    obtain ⟨a, u, hu, h⟩ := bind_eq_ok_iff.mp h
    cases h
    exact comparison_settles advances hu

theorem conjunction_settles : (conjunction nesting).Settles :=
  chain_settles (Cursor.logical_consumes _ _) (negation_advances advances) fun h =>
    Cursor.logical_settled (negation_settles advances h)

theorem disjunction_settles : (disjunction nesting).Settles :=
  chain_settles (Cursor.logical_consumes _ _) (conjunction_advances advances) fun h =>
    Cursor.logical_settled (conjunction_settles advances h)

end Levels

theorem expression_settles : expression.Settles :=
  fun h => disjunction_settles (nestingWithin_advances _) (expressionWithin_ok h).2

end Eval

end NumberedBasic
