import NumberedBasic.Proofs.Evaluation.Composition

/-! # Expressions and their room

An expression is a disjunction as long as there is room for one, and what stands in its
parentheses is an expression with less room. With too little room it fails, at the latest
behind its first operand. What holds of all levels around any parentheses therefore holds of
expressions with any room.
-/

namespace NumberedBasic.Eval

structure Nesting.All (P : Eval Number → Prop) (nesting : Nesting) : Prop where
  group : P nesting.group
  argument : P nesting.argument

theorem expressionWithin_add (room : Nat) :
    expressionWithin (room + 13) = disjunction (nestingWithin (room + 13)) := rfl

theorem expressionWithin_induction {P : Eval Number → Prop} (refused : P (throw .tooComplex))
    (broken : P (breakOff (pure ())))
    (cut : ∀ nesting : Nesting, nesting.All P → P (breakOff (discard (factor nesting))))
    (whole : ∀ nesting : Nesting, nesting.All P → P (disjunction nesting)) (room : Nat) :
    P (expressionWithin room) := by
  induction room using Nat.strongRecOn with
  | ind room ih =>
    unfold expressionWithin
    split
    · exact whole _ ⟨ih _ (by omega), ih _ (by omega)⟩
    · exact cut _ ⟨refused, refused⟩
    · exact cut _ ⟨refused, refused⟩
    · exact broken
    · exact refused

/-- What holds of expressions with any room holds of what stands in parentheses. -/
theorem nestingWithin_all {P : Eval Number → Prop} (h : ∀ room, P (expressionWithin room))
    (room : Nat) : (nestingWithin room).All P :=
  ⟨h _, h _⟩

variable {α : Type} {context : Context} {r s : Reading}

theorem byRoom_apply (e : Nat → Eval α) : byRoom e context r = e r.room context r := rfl

theorem expressionWithin_eq {room : Nat} (enough : 13 ≤ room) :
    expressionWithin room = disjunction (nestingWithin room) := by
  obtain ⟨more, rfl⟩ := Nat.exists_eq_add_of_le' enough
  exact expressionWithin_add more

theorem expressionWithin_of_lt {room : Nat} (few : room < 11) :
    expressionWithin room = breakOff (pure ()) ∨ expressionWithin room = throw .tooComplex := by
  unfold expressionWithin
  split
  · omega
  · omega
  · omega
  · exact .inl rfl
  · exact .inr rfl

/-- With room for all of its levels, an expression is a disjunction. -/
theorem expressionBelow_eq {calls : Nat} (enough : 13 + calls ≤ r.room) :
    expressionBelow calls context r =
      disjunction (nestingWithin (r.room - calls)) context r := by
  rw [expressionBelow, byRoom_apply, expressionWithin_eq (Nat.le_sub_of_add_le enough)]

theorem breakOff_ne_ok {operand : Eval Unit} {a : Number} :
    breakOff operand context r ≠ .ok a s := by
  intro h
  obtain ⟨-, _, -, h⟩ := bind_eq_ok_iff.mp h
  obtain ⟨-, _, -, h⟩ := bind_eq_ok_iff.mp h
  cases h

theorem exists_breakOff_eq (operand : Eval Unit) (context : Context) (r : Reading) :
    ∃ cause s, breakOff operand context r = .error cause s := by
  cases h : breakOff operand context r with
  | ok a s => exact absurd h breakOff_ne_ok
  | error cause s => exact ⟨cause, s, rfl⟩

theorem expressionWithin_ok {room : Nat} {a : Number}
    (h : expressionWithin room context r = .ok a s) :
    13 ≤ room ∧ disjunction (nestingWithin room) context r = .ok a s := by
  unfold expressionWithin at h
  split at h
  · exact ⟨Nat.le_add_left _ _, h⟩
  · exact absurd h breakOff_ne_ok
  · exact absurd h breakOff_ne_ok
  · exact absurd h breakOff_ne_ok
  · cases h

end NumberedBasic.Eval
