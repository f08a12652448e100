import NumberedBasic.Statement

/-! # Composing evaluations and executions

An evaluation that follows another one starts where the first one stopped, and a
failure of the first one is the failure of both. Executions compose in the same
way, and an evaluation inside an execution reads the machine's own variables.
-/

namespace NumberedBasic

namespace Eval

variable {α β : Type} {context : Context} {r r' : Reading} {cause : Cause}

@[simp] theorem pure_apply (a : α) : (pure a : Eval α) context r = .ok a r := rfl

@[simp] theorem throw_apply : (throw cause : Eval α) context r = .error cause r := rfl

theorem bind_of_ok {e : Eval α} {a : α} (h : e context r = .ok a r') (f : α → Eval β) :
    (e >>= f) context r = f a context r' := by
  change EStateM.bind (e context) (fun a => f a context) r = _
  simp only [EStateM.bind, h]

theorem bind_of_error {e : Eval α} (h : e context r = .error cause r') (f : α → Eval β) :
    (e >>= f) context r = .error cause r' := by
  change EStateM.bind (e context) (fun a => f a context) r = _
  simp only [EStateM.bind, h]

theorem bind_eq_ok_iff {e : Eval α} {f : α → Eval β} {b : β} :
    (e >>= f) context r = .ok b r' ↔
      ∃ a s, e context r = .ok a s ∧ f a context s = .ok b r' := by
  constructor
  · intro h
    cases he : e context r with
    | ok a s => exact ⟨a, s, rfl, (bind_of_ok he f).symm.trans h⟩
    | error cause s => simp [bind_of_error he] at h
  · rintro ⟨a, s, he, hf⟩
    exact (bind_of_ok he f).trans hf

theorem bind_eq_error_iff {e : Eval α} {f : α → Eval β} :
    (e >>= f) context r = .error cause r' ↔
      e context r = .error cause r' ∨
        ∃ a s, e context r = .ok a s ∧ f a context s = .error cause r' := by
  constructor
  · intro h
    cases he : e context r with
    | ok a s => exact .inr ⟨a, s, rfl, (bind_of_ok he f).symm.trans h⟩
    | error cause' s =>
      obtain ⟨rfl, rfl⟩ : cause' = cause ∧ s = r' := by simpa [bind_of_error he] using h
      exact .inl rfl
  · rintro (he | ⟨a, s, he, hf⟩)
    · exact bind_of_error he f
    · exact (bind_of_ok he f).trans hf

theorem discard_eq (e : Eval α) : discard e = (do let _ ← e) := rfl

theorem bind_congr {e e' : Eval α} {f f' : α → Eval β} (he : e context r = e' context r)
    (hf : ∀ a s, e context r = .ok a s → f a context s = f' a context s) :
    (e >>= f) context r = (e' >>= f') context r := by
  cases h : e context r with
  | ok a s => rw [bind_of_ok h, bind_of_ok (he.symm.trans h), hf a s h]
  | error cause s => rw [bind_of_error h, bind_of_error (he.symm.trans h)]

theorem ofExcept_ok {x : Except Cause α} {a : α} (h : ofExcept x context r = .ok a r') :
    x = .ok a ∧ r = r' := by
  cases x with
  | ok b => cases h; exact ⟨rfl, rfl⟩
  | error cause => cases h

theorem require_eq_ok_iff {found : Bool} {f : Text → Cause} {u : Unit} :
    require found f context r = .ok u r' ↔ found = true ∧ r = r' := by
  cases found <;> simp [require, failNear]

end Eval

def Machine.context (m : Machine) : Context :=
  ⟨m.variables, m.clock.now⟩

namespace Execution

def context (s : Execution) : Context :=
  s.machine.context

def reading (s : Execution) : Reading :=
  ⟨s.cursor, s.machine.generator, s.room⟩

/-- The execution after an evaluation has stopped somewhere. -/
def moved (s : Execution) (r : Reading) : Execution :=
  ⟨{ s.machine with generator := r.generator }, r.cursor, r.room⟩

@[simp] theorem moved_reading (s : Execution) : s.moved s.reading = s := rfl

@[simp] theorem moved_moved (s : Execution) (r r' : Reading) :
    (s.moved r).moved r' = s.moved r' := rfl

@[simp] theorem context_moved (s : Execution) (r : Reading) :
    (s.moved r).context = s.context := rfl

@[simp] theorem reading_moved (s : Execution) (r : Reading) : (s.moved r).reading = r := rfl

end Execution

namespace Exec

variable {α β : Type} {s s' : Execution} {cause : Cause}

@[simp] theorem pure_apply (a : α) : (pure a : Exec α) s = .ok a s := rfl

@[simp] theorem throw_apply : (throw cause : Exec α) s = .error cause s := rfl

theorem bind_of_ok {x : Exec α} {a : α} (h : x s = .ok a s') (f : α → Exec β) :
    (x >>= f) s = f a s' := by
  change EStateM.bind x f s = _
  simp only [EStateM.bind, h]

theorem bind_of_error {x : Exec α} (h : x s = .error cause s') (f : α → Exec β) :
    (x >>= f) s = .error cause s' := by
  change EStateM.bind x f s = _
  simp only [EStateM.bind, h]

theorem bind_eq_ok_iff {x : Exec α} {f : α → Exec β} {b : β} :
    (x >>= f) s = .ok b s' ↔ ∃ a t, x s = .ok a t ∧ f a t = .ok b s' := by
  constructor
  · intro h
    cases hx : x s with
    | ok a t => exact ⟨a, t, rfl, (bind_of_ok hx f).symm.trans h⟩
    | error cause t => simp [bind_of_error hx] at h
  · rintro ⟨a, t, hx, hf⟩
    exact (bind_of_ok hx f).trans hf

theorem bind_eq_error_iff {x : Exec α} {f : α → Exec β} :
    (x >>= f) s = .error cause s' ↔
      x s = .error cause s' ∨ ∃ a t, x s = .ok a t ∧ f a t = .error cause s' := by
  constructor
  · intro h
    cases hx : x s with
    | ok a t => exact .inr ⟨a, t, rfl, (bind_of_ok hx f).symm.trans h⟩
    | error cause' t =>
      obtain ⟨rfl, rfl⟩ : cause' = cause ∧ t = s' := by simpa [bind_of_error hx] using h
      exact .inl rfl
  · rintro (hx | ⟨a, t, hx, hf⟩)
    · exact bind_of_error hx f
    · exact (bind_of_ok hx f).trans hf

@[simp] theorem liftM_eq (e : Eval α) : (liftM e : Exec α) = evaluate e := rfl

@[simp] theorem machine_apply : machine s = .ok s.machine s := rfl

@[simp] theorem change_apply (f : Machine → Machine) :
    change f s = .ok () { s with machine := f s.machine } := rfl

theorem ofExcept_ok {x : Except Cause α} {a : α}
    (h : ofExcept x s = .ok a s') : x = .ok a ∧ s = s' := by
  cases x with
  | ok b => cases h; exact ⟨rfl, rfl⟩
  | error cause => cases h

theorem ofExcept_error {x : Except Cause α}
    (h : ofExcept x s = .error cause s') : x = .error cause ∧ s = s' := by
  cases x with
  | ok a => cases h
  | error cause => cases h; exact ⟨rfl, rfl⟩

theorem evaluate_of_ok {e : Eval α} {a : α} {r : Reading}
    (h : e s.context s.reading = .ok a r) : evaluate e s = .ok a (s.moved r) := by
  unfold Execution.context Machine.context Execution.reading at h
  simp only [evaluate, h, Execution.moved]

theorem evaluate_of_error {e : Eval α} {r : Reading}
    (h : e s.context s.reading = .error cause r) : evaluate e s = .error cause (s.moved r) := by
  unfold Execution.context Machine.context Execution.reading at h
  simp only [evaluate, h, Execution.moved]

/-- An evaluation that draws nothing leaves the machine alone. -/
theorem evaluate_still {e : Eval α} {a : α} {m : Machine} {c c' : Cursor} {room : Nat}
    (h : e m.context ⟨c, m.generator, room⟩ = .ok a ⟨c', m.generator, room⟩) :
    evaluate e ⟨m, c, room⟩ = .ok a ⟨m, c', room⟩ := by
  simp only [Machine.context] at h
  simp only [evaluate, h]

theorem evaluate_eq_ok_iff {e : Eval α} {a : α} :
    evaluate e s = .ok a s' ↔
      ∃ r, e s.context s.reading = .ok a r ∧ s' = s.moved r := by
  constructor
  · intro h
    cases he : e s.context s.reading with
    | ok b r =>
      obtain ⟨rfl, rfl⟩ : b = a ∧ s.moved r = s' := by simpa [evaluate_of_ok he] using h
      exact ⟨r, rfl, rfl⟩
    | error cause r => simp [evaluate_of_error he] at h
  · rintro ⟨r, he, rfl⟩
    exact evaluate_of_ok he

theorem evaluate_eq_error_iff {e : Eval α} :
    evaluate e s = .error cause s' ↔
      ∃ r, e s.context s.reading = .error cause r ∧ s' = s.moved r := by
  constructor
  · intro h
    cases he : e s.context s.reading with
    | ok b r => simp [evaluate_of_ok he] at h
    | error cause' r =>
      obtain ⟨rfl, rfl⟩ : cause' = cause ∧ s.moved r = s' := by
        simpa [evaluate_of_error he] using h
      exact ⟨r, rfl, rfl⟩
  · rintro ⟨r, he, rfl⟩
    exact evaluate_of_error he

theorem evaluate_pure (a : α) : evaluate (pure a) = pure a := rfl

theorem evaluate_bind (e : Eval α) (f : α → Eval β) :
    evaluate (e >>= f) = evaluate e >>= fun a => evaluate (f a) := by
  funext s
  cases h : e s.context s.reading with
  | error cause r => rw [bind_of_error (evaluate_of_error h),
      evaluate_of_error (Eval.bind_of_error h f)]
  | ok a r =>
    rw [bind_of_ok (evaluate_of_ok h)]
    have hb := Eval.bind_of_ok h f
    cases h' : f a s.context r with
    | ok b r' =>
      have hf : evaluate (f a) (s.moved r) = .ok b (s.moved r') := evaluate_of_ok h'
      exact (evaluate_of_ok (hb.trans h')).trans hf.symm
    | error cause r' =>
      have hf : evaluate (f a) (s.moved r) = .error cause (s.moved r') := evaluate_of_error h'
      exact (evaluate_of_error (hb.trans h')).trans hf.symm

end Exec

end NumberedBasic
