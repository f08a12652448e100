import NumberedBasic.Proofs.Run.Turn
import NumberedBasic.Proofs.Statement.Effect
import NumberedBasic.Proofs.Statement.Likeness

/-! # Runs of machines that are alike

Where machines that are alike have the same program and come to the same lines, their turns are
alike, and so are their runs: both end in one way, or none of them ends. Only a run with less room
may fail for lack of it.
-/

namespace NumberedBasic

theorem Machine.going_fixed {m m' : Machine} (turn : m.step = .going m') :
    m'.program = m.program ∧ m'.running = m.running ∧ m'.room = m.room := by
  obtain ⟨-, number, text, u, s, -, -, executed, rfl⟩ := step_eq_going_iff.mp turn
  obtain ⟨errors, taken⟩ := m.exists_taken_eq number
  have fixed := Statement.execute_ok_fixed executed
  rw [taken] at fixed
  exact ⟨fixed.program, fixed.running, fixed.room⟩

def LacksRoom (ended : Option (Machine × Option Failure)) : Prop :=
  ∃ final failure, ended = some (final, some failure) ∧ failure.cause = .tooComplex

theorem LacksRoom.of_any {ends : Option (Machine × Option Failure)}
    (h : ends.any (fun ended => ended.2.any (·.cause = .tooComplex)) = true) : LacksRoom ends := by
  obtain ⟨⟨final, _⟩, rfl, lacks⟩ := (Option.any_eq_true _ _).mp h
  obtain ⟨failure, rfl, complex⟩ := (Option.any_eq_true _ _).mp lacks
  exact ⟨final, failure, rfl, of_decide_eq_true complex⟩

namespace Likeness

open Machine

variable (L : Likeness)

/-- A turn does nothing but statements that leads out of the likeness. -/
structure Lasting : Prop where
  timely : L.Timely
  program : ∀ {m m'}, L.Like m m' → m.program = m'.program
  halted : ∀ {m m'}, L.Like m m' → m.halted = m'.halted
  taken : ∀ {m m'}, L.Like m m' → ∀ number, L.Like (m.taken number) (m'.taken number)
  missed : ∀ {m m'}, L.Like m m' → ∀ number,
    L.Like { m with current := some number } { m' with current := some number }
  finish : ∀ {m m'}, L.Like m m' → L.Like m.finishRun m'.finishRun
  abort : ∀ {m m'}, L.Like m m' → ∀ cause line column,
    L.Like (m.abortRun cause line column).machine (m'.abortRun cause line column).machine

inductive Turns : Turn → Turn → Prop where
  | going {m m' : Machine} (like : L.Like m m') : Turns (.going m) (.going m')
  | ended {m m' : Machine} (failure : Option Failure) (like : L.Like m m') :
      Turns (.ended m failure) (.ended m' failure)
  | tooComplex (roomier : L.outlook.roomier) {m : Machine} {failure : Failure}
      (complex : failure.cause = .tooComplex) (turn : Turn) : Turns (.ended m (some failure)) turn

variable {L} {m m' : Machine}

namespace Lasting

theorem aborts (lasting : L.Lasting) (h : L.Like m m') (cause : Cause) (line : Int)
    (column : Nat) : L.Turns (m.abortRun cause line column) (m'.abortRun cause line column) :=
  .ended (some ⟨cause, line, column⟩) (lasting.abort h cause line column)

theorem next?_eq (lasting : L.Lasting) (h : L.Like m m') : m.next? = m'.next? := by
  simp only [next?, lasting.halted h, (L.agrees h).address, (L.agrees h).position]

theorem executeLine (lasting : L.Lasting) (h : L.Like m m') (number : Int)
    (clear : ∀ text ∈ m.program.get? number, L.outlook.Clear (.start text)) :
    L.Turns (m.executeLine number) (m'.executeLine number) := by
  have same := lasting.program h
  cases stored : m.program.get? number with
  | none =>
    rw [executeLine_of_none stored, executeLine_of_none (same ▸ stored)]
    exact lasting.aborts (lasting.missed h number) _ _ _
  | some text =>
    rw [executeLine_of_some stored, executeLine_of_some (same ▸ stored)]
    have executions := L.executions_start (lasting.taken h number) (clear text stored)
    have results := Statement.execute_results executions (.inl lasting.timely)
    generalize Statement.execute (.start (m.taken number) text) = r at results ⊢
    generalize Statement.execute (.start (m'.taken number) text) = r' at results ⊢
    cases results with
    | ok u state => exact .going state.machine
    | @error cause t t' machine cursor =>
      have aborts := lasting.aborts machine cause number t.cursor.column
      rw [Turn.ofResult, Turn.ofResult, ← cursor]
      exact aborts
    | tooComplex roomier => exact .tooComplex roomier rfl _

theorem step (lasting : L.Lasting) (h : L.Like m m') (clear : ∀ number ∈ m.next?,
    ∀ text ∈ m.program.get? number, L.outlook.Clear (.start text)) :
    L.Turns m.step m'.step := by
  cases next : m.next? with
  | none =>
    rw [step_of_next?_none next, step_of_next?_none (lasting.next?_eq h ▸ next)]
    exact .ended none (lasting.finish h)
  | some number =>
    obtain ⟨halted, place⟩ := next?_eq_some_iff.mp next
    obtain ⟨halted', place'⟩ := next?_eq_some_iff.mp (lasting.next?_eq h ▸ next)
    rw [step_of_taken halted place, step_of_taken halted' place']
    exact lasting.executeLine h number (clear number next)

/-- Both runs end after the same number of turns and in the same way, or neither of them ends, or
there is too little room for the first one. -/
theorem turns (lasting : L.Lasting) (h : L.Like m m')
    (clear : ∀ number, ∀ text ∈ m.program.get? number, L.outlook.Clear (.start text))
    (count : Nat) : Option.Rel (fun r r' => L.Like r.1 r'.1 ∧ r.2 = r'.2)
      (turns count m) (turns count m') ∨ L.outlook.roomier ∧ LacksRoom (turns count m) := by
  induction count generalizing m m' with
  | zero => exact .inl .none
  | succ count ih =>
    have both := lasting.step h fun number _ => clear number
    generalize turn : m.step = t at both
    generalize turn' : m'.step = t' at both
    cases both with
    | ended failure like =>
      rw [turns_of_ended turn, turns_of_ended turn']
      exact .inl (.some ⟨like, rfl⟩)
    | tooComplex roomier complex =>
      exact .inr ⟨roomier, _, _, turns_of_ended turn, complex⟩
    | going like =>
      rw [turns_of_going turn, turns_of_going turn']
      exact ih like ((going_fixed turn).1 ▸ clear)

end Lasting

end Likeness

end NumberedBasic
