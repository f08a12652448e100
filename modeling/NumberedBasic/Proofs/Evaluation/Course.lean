import NumberedBasic.Proofs.Evaluation.Room

/-! # The course of an evaluation

Variables, random numbers and the room decide what an evaluation yields and whether it
fails, but not how far it gets: two evaluations that succeed from one place stop at one place.
-/

namespace NumberedBasic.Eval

variable {α β γ δ : Type}

/-- From one cursor, two evaluations stop at one cursor with related values where both of
them succeed, whatever variables, random numbers and room they find. -/
def Alike (R : α → β → Prop) (e : Eval α) (e' : Eval β) : Prop :=
  ∀ ⦃context context' : Context⦄ ⦃r r' : Reading⦄ ⦃a : α⦄ ⦃b : β⦄ ⦃s s' : Reading⦄,
    r.cursor = r'.cursor → e context r = .ok a s → e' context' r' = .ok b s' →
      s.cursor = s'.cursor ∧ R a b

abbrev Steady (e : Eval α) : Prop :=
  Alike (fun _ _ => True) e e

namespace Alike

variable {R : α → β → Prop} {S : γ → δ → Prop} {e : Eval α} {e' : Eval β} {f : α → Eval γ}
  {f' : β → Eval δ}

theorem bind (he : Alike R e e') (hf : ∀ a b, R a b → Alike S (f a) (f' b)) :
    Alike S (e >>= f) (e' >>= f') := by
  intro context context' r r' x y s s' same h h'
  obtain ⟨a, t, ha, h⟩ := bind_eq_ok_iff.mp h
  obtain ⟨b, t', hb, h'⟩ := bind_eq_ok_iff.mp h'
  obtain ⟨same, related⟩ := he same ha hb
  exact hf a b related same h h'

theorem pure {a : α} {b : β} (h : R a b) : Alike R (pure a) (pure b) := by
  intro context context' r r' x y s s' same hx hy
  cases hx
  cases hy
  exact ⟨same, h⟩

theorem throw_left (cause : Cause) (e' : Eval β) : Alike R (throw cause) e' :=
  fun _ _ _ _ _ _ _ _ _ h => nomatch h

theorem throw_right (e : Eval α) (cause : Cause) : Alike R e (throw cause) :=
  fun _ _ _ _ _ _ _ _ _ _ h => nomatch h

theorem scan (matcher : Cursor → α × Cursor) : Alike Eq (scan matcher) (scan matcher) := by
  rintro context context' ⟨c, g, room⟩ ⟨_, g', room'⟩ x y s s' ⟨⟩ hx hy
  cases hx
  cases hy
  exact ⟨rfl, rfl⟩

theorem scan_bind {matcher : Cursor → α × Cursor} {f : α → Eval γ} {f' : α → Eval δ}
    (h : ∀ found, Alike S (f found) (f' found)) :
    Alike S (Eval.scan matcher >>= f) (Eval.scan matcher >>= f') :=
  (scan matcher).bind fun found _ same => same ▸ h found

theorem remaining : Alike Eq remaining remaining := by
  rintro context context' ⟨c, g, room⟩ ⟨_, g', room'⟩ x y s s' ⟨⟩ hx hy
  cases hx
  cases hy
  exact ⟨rfl, rfl⟩

theorem byRoom {e : Nat → Eval α} {e' : Nat → Eval β}
    (h : ∀ room room', Alike R (e room) (e' room')) :
    Alike R (byRoom e) (byRoom e') :=
  fun _ _ r r' _ _ _ _ same => h r.room r'.room same

end Alike

theorem steady_descend : descend.Steady := by
  intro context context' r r' x y s s' same hx hy
  cases hx
  cases hy
  exact ⟨same, trivial⟩

theorem alike_failNear {R : α → α → Prop} (cause : Text → Cause) :
    Alike R (failNear cause) (failNear cause) :=
  fun _ _ _ _ _ _ _ _ _ h => nomatch h

theorem steady_require (found : Bool) (cause : Text → Cause) : (require found cause).Steady := by
  cases found with
  | true => exact .pure trivial
  | false => exact alike_failNear cause

theorem alike_ofExcept (x y : Except Cause α) :
    Alike (fun _ _ => True) (ofExcept x) (ofExcept y) := by
  cases x with
  | error cause => exact .throw_left cause _
  | ok a =>
    cases y with
    | error cause => exact .throw_right _ cause
    | ok b => exact .pure trivial

theorem steady_valueOf? (name : Text) : (valueOf? name).Steady := by
  intro context context' r r' x y s s' same hx hy
  cases hx
  cases hy
  exact ⟨same, trivial⟩

theorem call_cursor {b : Builtin} {arguments : List Number} {context : Context} {r s : Reading}
    {a : Number} (h : call b arguments context r = .ok a s) : s.cursor = r.cursor := by
  unfold call at h
  split at h
  · cases h
    rfl
  · cases h

theorem alike_call (b : Builtin) (arguments arguments' : List Number) :
    Alike (fun _ _ => True) (call b arguments) (call b arguments') :=
  fun _ _ _ _ _ _ _ _ same h h' =>
    ⟨(call_cursor h).trans (same.trans (call_cursor h').symm), trivial⟩

/-- Two evaluations stop at one place, if they succeed, whatever their values are. -/
abbrev Together (e e' : Eval Number) : Prop :=
  Alike (fun _ _ => True) e e'

section Repetition

variable {separator : Text} {item item' : Eval α} (together : Alike (fun _ _ => True) item item')

include together

theorem alike_further (count : Nat) :
    Alike (fun _ _ => True) (further (literal separator) item count)
      (further (literal separator) item' count) := by
  induction count with
  | zero => exact .pure trivial
  | succ count ih =>
    refine .scan_bind fun found => ?_
    cases found with
    | false => exact .pure trivial
    | true => exact together.bind fun _ _ _ => ih.bind fun _ _ _ => .pure trivial

theorem alike_separatedBy :
    Alike (fun _ _ => True) (separatedBy separator item) (separatedBy separator item') :=
  together.bind fun _ _ _ => Alike.remaining.bind fun count _ same =>
    same ▸ (alike_further together count).bind fun _ _ _ => .pure trivial

end Repetition

section Chains

variable {operator : Cursor → Option Operator × Cursor} {operand operand' : Eval Number}
  (together : operand.Together operand')

include together

theorem alike_extend? (left left' : Number) :
    Alike (fun a b => a.isSome = b.isSome) (extend? operator operand left)
      (extend? operator operand' left') := by
  refine .scan_bind fun found => ?_
  cases found with
  | none => exact .pure rfl
  | some o => exact together.bind fun _ _ _ => (alike_ofExcept _ _).bind fun _ _ _ => .pure rfl

theorem together_chainFrom (count : Nat) (left left' : Number) :
    (chainFrom operator operand count left).Together
      (chainFrom operator operand' count left') := by
  induction count generalizing left left' with
  | zero => exact .pure trivial
  | succ count ih =>
    refine (alike_extend? together left left').bind fun value value' same => ?_
    cases value <;> cases value' <;> cases same
    · exact .pure trivial
    · exact ih _ _

theorem together_chain : (chain operator operand).Together (chain operator operand') := by
  refine together.bind fun first first' _ => ?_
  refine (alike_extend? together first first').bind fun value value' same => ?_
  cases value <;> cases value' <;> cases same
  · exact .pure trivial
  · exact Alike.remaining.bind fun count _ same => same ▸ together_chainFrom together count _ _

end Chains

section Levels

variable {nesting nesting' : Nesting}

theorem steady_closeParenthesis : closeParenthesis.Steady :=
  .scan_bind fun found => steady_require found _

theorem alike_sign : Alike Eq sign sign := by
  refine .scan_bind fun found => ?_
  cases found with
  | true => exact .pure rfl
  | false =>
    have skipped : Alike Eq (discard (literal ['+'])) (discard (literal ['+'])) :=
      (Alike.scan (Cursor.literal ['+'])).bind fun _ _ _ => .pure rfl
    exact skipped.bind fun _ _ _ => .pure rfl

theorem alike_arguments (argument : nesting.argument.Together nesting'.argument) :
    Alike (fun _ _ => True) (arguments nesting) (arguments nesting') := by
  refine .scan_bind fun opened => ?_
  cases opened with
  | false => exact .pure trivial
  | true =>
    refine .scan_bind fun closed => ?_
    cases closed with
    | true => exact .pure trivial
    | false =>
      exact (alike_separatedBy argument).bind fun _ _ _ =>
        steady_closeParenthesis.bind fun _ _ _ => .pure trivial

theorem together_named (argument : nesting.argument.Together nesting'.argument)
    (negative : Bool) (name : Text) :
    (named nesting negative name).Together (named nesting' negative name) := by
  unfold named
  split
  · -- without room for a call there is no value on either side
    rcases nesting.callable
    · exact .throw_left _ _
    · rcases nesting'.callable
      · exact .throw_right _ _
      · exact (alike_arguments argument).bind fun _ _ _ => alike_call _ _ _
  · refine (steady_valueOf? name).bind fun value value' _ => ?_
    cases value with
    | none => exact .throw_left _ _
    | some a =>
      cases value' with
      | none => exact .throw_right _ _
      | some b => exact .pure trivial

variable (group : nesting.group.Together nesting'.group)
  (argument : nesting.argument.Together nesting'.argument)

include group argument

theorem together_factor : (factor nesting).Together (factor nesting') := by
  refine alike_sign.bind fun negative _ same => same ▸ .scan_bind fun token => ?_
  cases token with
  | some token => exact .pure trivial
  | none =>
    refine .scan_bind fun name => ?_
    cases name with
    | some name => exact together_named argument negative name
    | none =>
      refine .scan_bind fun opened => ?_
      cases opened with
      | false => exact alike_failNear _
      | true =>
        exact group.bind fun _ _ _ => steady_closeParenthesis.bind fun _ _ _ => .pure trivial

theorem together_arithmetic : (arithmetic nesting).Together (arithmetic nesting') :=
  together_chain (together_chain (together_factor group argument))

theorem together_comparison : (comparison nesting).Together (comparison nesting') := by
  have sums := together_arithmetic group argument
  refine sums.bind fun _ _ _ => .scan_bind fun relation => ?_
  cases relation with
  | none => exact .pure trivial
  | some relation => exact sums.bind fun _ _ _ => .pure trivial

theorem together_negation : (negation nesting).Together (negation nesting') := by
  have comparisons := together_comparison group argument
  refine .scan_bind fun found => ?_
  cases found with
  | true => exact comparisons.bind fun _ _ _ => .pure trivial
  | false => exact comparisons

theorem together_disjunction : (disjunction nesting).Together (disjunction nesting') :=
  together_chain (together_chain (together_negation group argument))

end Levels

theorem together_breakOff (operand : Eval Unit) (e : Eval Number) :
    (breakOff operand).Together e :=
  fun _ _ _ _ _ _ _ _ _ h => absurd h breakOff_ne_ok

/-- Two rooms decide whether there is a value, but not where. -/
theorem together_expressionWithin (room room' : Nat) :
    (expressionWithin room).Together (expressionWithin room') := by
  refine expressionWithin_induction (P := fun e => ∀ room', e.Together (expressionWithin room'))
    (fun _ => .throw_left _ _) (fun _ => together_breakOff _ _)
    (fun _ _ _ => together_breakOff _ _) (fun nesting ih room' => ?_) room room'
  intro context context' r r' a b s s' same h h'
  exact together_disjunction (ih.group _) (ih.argument _) same h (expressionWithin_ok h').2

theorem steady_expression : expression.Steady :=
  .byRoom fun _ _ => together_expressionWithin _ _

end NumberedBasic.Eval
