import NumberedBasic.Proofs.Evaluation.Course

/-! # The statement behind conditions

Conditions only decide which statement of a line is executed. Selecting it is an
evaluation, so executing a line is an evaluation followed by the body of one
keyword, however many conditions stand before it. A line can only select one statement.
-/

namespace NumberedBasic.Statement

/-- Whether the condition at the cursor lets the statement behind `then` be executed. -/
def holds : Eval Bool := do
  let condition ← Eval.expression
  Eval.require (← Eval.keyword ['t', 'h', 'e', 'n']) fun _ => .thenMissing
  Eval.descend
  return !condition.isZero

/-- The keyword of the statement that the conditions before it leave to be executed.
There is none when a condition does not hold. -/
def selectWithin : Nat → Eval (Option Keyword)
  | 0 => throw .tooComplex
  | depth + 1 => do
    match ← keyword with
    | .condition =>
      if ← holds then selectWithin depth
      else
        Eval.skipLine
        return none
    | k => return some k

def select : Eval (Option Keyword) :=
  Eval.byRoom fun room => selectWithin (room + 1)

def selected (context : Context) (r : Reading) : Option Keyword :=
  match select context r with
  | .ok k _ => k
  | .error _ _ => none

theorem selected_eq_some_iff {context : Context} {r : Reading} {k : Keyword} :
    selected context r = some k ↔ ∃ r', select context r = .ok (some k) r' := by
  unfold selected
  cases select context r <;> simp

def perform : Option Keyword → Exec Unit
  | none => pure ()
  | some k => body (pure ()) k

theorem conditional_eq (nested : Exec Unit) :
    conditional nested =
      Exec.evaluate holds >>= fun h => if h then nested else Exec.evaluate Eval.skipLine := by
  simp only [conditional, holds, Exec.evaluate_bind, bind_assoc, Exec.liftM_eq,
    Exec.evaluate_pure, pure_bind]
  refine bind_congr fun condition => bind_congr fun found => bind_congr fun u =>
    bind_congr fun v => ?_
  cases condition.isZero <;> rfl

theorem body_of_ne_condition {k : Keyword} (h : k ≠ .condition) (nested : Exec Unit) :
    body nested k = perform (some k) := by
  cases k <;> first | rfl | exact absurd rfl h

theorem executeWithin_eq (depth : Nat) :
    executeWithin depth = Exec.evaluate (selectWithin depth) >>= perform := by
  induction depth with
  | zero => rfl
  | succ depth ih =>
    simp only [executeWithin, selectWithin, Exec.evaluate_bind, bind_assoc, Exec.liftM_eq]
    refine bind_congr fun k => ?_
    by_cases hk : k = .condition
    · subst hk
      simp only [body, conditional_eq, ih, Exec.evaluate_bind, bind_assoc]
      refine bind_congr fun h => ?_
      cases h <;> rfl
    · rw [body_of_ne_condition hk]
      cases k <;> first | rfl | exact absurd rfl hk

theorem execute_eq : execute = Exec.evaluate select >>= perform := by
  funext s
  exact congrFun (executeWithin_eq (s.room + 1)) s

/-- A statement is selected by its own keyword, or behind a condition that holds. -/
theorem selectWithin_cases {depth : Nat} {context : Context} {r r' : Reading} {k : Keyword}
    (h : selectWithin (depth + 1) context r = .ok (some k) r') :
    (k ≠ .condition ∧ keyword context r = .ok k r') ∨
      ∃ s t, keyword context r = .ok .condition s ∧ holds context s = .ok true t ∧
        selectWithin depth context t = .ok (some k) r' := by
  obtain ⟨first, s, hk, h⟩ := Eval.bind_eq_ok_iff.mp h
  by_cases hf : first = .condition
  · subst hf
    obtain ⟨holds, t, hh, h⟩ := Eval.bind_eq_ok_iff.mp h
    cases holds with
    | true => exact .inr ⟨s, t, hk, hh, h⟩
    | false =>
      obtain ⟨u, v, -, h⟩ := Eval.bind_eq_ok_iff.mp h
      cases h
  · left
    cases first <;> first | exact absurd rfl hf | (cases h; exact ⟨hf, hk⟩)

theorem selectWithin_ne_condition {depth : Nat} {context : Context} {r r' : Reading}
    {k : Keyword} (h : selectWithin depth context r = .ok (some k) r') : k ≠ .condition := by
  induction depth generalizing r with
  | zero => cases h
  | succ depth ih =>
    rcases selectWithin_cases h with ⟨hk, -⟩ | ⟨s, t, -, -, h⟩
    · exact hk
    · exact ih h

theorem alike_keyword : Eval.Alike Eq keyword keyword := by
  refine .scan_bind fun _ => .scan_bind fun word => ?_
  cases word with
  | none => exact Eval.alike_failNear _
  | some word =>
    dsimp only
    split
    · exact .pure rfl
    · exact .throw_left _ _

theorem steady_holds : holds.Steady :=
  Eval.steady_expression.bind fun _ _ _ => .scan_bind fun found =>
    (Eval.steady_require found _).bind fun _ _ _ =>
      Eval.steady_descend.bind fun _ _ _ => .pure trivial

theorem selectWithin_alike {depth depth' : Nat} {context context' : Context}
    {k k' : Keyword} {r r' s s' : Reading} (same : r.cursor = r'.cursor)
    (h : selectWithin depth context r = .ok (some k) s)
    (h' : selectWithin depth' context' r' = .ok (some k') s') : k = k' := by
  induction depth generalizing depth' r r' with
  | zero => cases h
  | succ depth ih =>
    cases depth' with
    | zero => cases h'
    | succ depth' =>
      rcases selectWithin_cases h with ⟨hf, hk⟩ | ⟨t, u, hk, hh, h⟩ <;>
        rcases selectWithin_cases h' with ⟨hf', hk'⟩ | ⟨t', u', hk', hh', h'⟩
      · exact (alike_keyword same hk hk').2
      · exact absurd (alike_keyword same hk hk').2 hf
      · exact absurd (alike_keyword same hk hk').2.symm hf'
      · exact ih (steady_holds (alike_keyword same hk hk').1 hh hh').1 h h'

/-- Conditions decide whether a line selects a statement, but not which one. -/
theorem select_alike {context context' : Context} {k k' : Keyword} {r r' s s' : Reading}
    (same : r.cursor = r'.cursor) (h : select context r = .ok (some k) s)
    (h' : select context' r' = .ok (some k') s') : k = k' :=
  selectWithin_alike same h h'

end NumberedBasic.Statement
