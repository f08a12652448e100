import NumberedBasic.Proofs.Run.Turn
import NumberedBasic.Proofs.Statement.Failure

/-! # Brackets on the control stack

Each statement leaves the stack as it is, pushes one frame or pops one. So the frames at the
bottom are still there after any statements, if the stack was never lower in between, and a
return that finds the frame of a call finds what was below it as well.
-/

namespace NumberedBasic

inductive ControlStack.Shift {Position : Type} (stack : ControlStack Position) :
    ControlStack Position → Prop where
  | same : Shift stack stack
  | push (frame : Frame Position) : Shift stack (frame :: stack)
  | pop {frame : Frame Position} {rest : ControlStack Position} (top : stack = frame :: rest) :
      Shift stack rest

def ControlStack.bottom {Position : Type} (count : Nat) (stack : ControlStack Position) :
    ControlStack Position :=
  stack.drop (stack.length - count)

namespace ControlStack

variable {Position : Type} {stack stack' : ControlStack Position} {count : Nat}

theorem bottom_of_length_le (h : stack.length ≤ count) : stack.bottom count = stack := by
  rw [bottom, Nat.sub_eq_zero_of_le h, List.drop_zero]

theorem bottom_cons (frame : Frame Position) (h : count ≤ stack.length) :
    bottom count (frame :: stack) = stack.bottom count := by
  rw [bottom, List.length_cons, Nat.sub_add_comm h, List.drop_succ_cons, bottom]

theorem Shift.bottom_eq (h : stack.Shift stack') (high : count ≤ stack.length)
    (high' : count ≤ stack'.length) : stack'.bottom count = stack.bottom count := by
  cases h with
  | same => rfl
  | push frame => exact bottom_cons frame high
  | pop top =>
    subst top
    exact (bottom_cons _ high').symm

end ControlStack

namespace Statement

open ControlStack

variable {m m' : Machine} {k : Option Keyword} {s t : Execution} {u : Unit} {cause : Cause}

theorem assignAll_stack (m : Machine) (values : List (Text × Number)) :
    (values.foldl (fun m v => m.assign v.1 v.2) m).stack = m.stack := by
  induction values generalizing m with
  | nil => rfl
  | cons value values ih => exact ih (m.assign value.1 value.2)

theorem Effect.shift (h : Effect m k m') : m.stack.Shift m'.stack := by
  cases h with
  | call | count | enter => exact .push _
  | resume top | countDone _ top | repeatDone top => exact .pop top
  | input =>
    rw [assignAll_stack]
    exact .same
  | _ => exact .same

theorem execute_ok_shift (h : execute s = .ok u t) : s.machine.stack.Shift t.machine.stack := by
  obtain ⟨k, r, -, draws, effect⟩ := execute_changes h
  exact effect.shift

theorem execute_error_stack (h : execute s = .error cause t) :
    t.machine.stack = s.machine.stack := by
  obtain ⟨draws, residue⟩ := execute_residue h
  generalize t.machine = m at residue ⊢
  cases residue <;> rfl

theorem effect_of_select {r : Reading} (selects : select s.context s.reading = .ok k r)
    (h : execute s = .ok u t) :
    ∃ draws, Effect { s.machine with generator := s.machine.generator.drawn draws } k
      t.machine := by
  obtain ⟨k', r', selects', draws, effect⟩ := execute_changes h
  cases selects.symm.trans selects'
  exact ⟨draws, effect⟩

end Statement

namespace Machine

variable {m m' m'' : Machine}

/-- What can happen to a machine next: a turn of a run, a statement outside of a run, or
something between statements that is no statement. A run can go on but not begin anew. -/
inductive Move (m : Machine) : Machine → Prop where
  | turned {m' : Machine} (turn : m.step = .going m') : Move m m'
  | ended {m' : Machine} {failure : Option Failure} (turn : m.step = .ended m' failure) : Move m m'
  | resumed : Move m m.resumed
  | executed (text : Text) : Move m (m.execute text).1
  | ingested (text : Text) : Move m (m.ingest text).1
  | assigned (name : Text) (value : Number) : Move m (m.assign name value)
  | cleared : Move m m.clear
  | emptied : Move m m.new
  | deleted {number : Int} {m' : Machine} (deleted : m.deleteLine number = .ok m') : Move m m'
  | logged (level : LogLevel) (source message : String) : Move m (m.log level source message)
  | meanwhile (clock : Clock) (console : Console) (room : Nat) :
      Move m { m with clock, console, room }

/-- Moves lead to the second machine, and the stack is never lower than a height. -/
inductive Above (height : Nat) (m : Machine) : Machine → Prop where
  | start (high : height ≤ m.stack.length) : Above height m m
  | move {m' m'' : Machine} (earlier : Above height m m') (move : m'.Move m'')
      (high : height ≤ m''.stack.length) : Above height m m''

section Stack

open ControlStack

theorem log_stack (m : Machine) (level : LogLevel) (source message : String) :
    (m.log level source message).stack = m.stack := by
  obtain ⟨errors, hl⟩ := m.exists_log_eq level source message
  rw [hl]

theorem taken_stack (m : Machine) (number : Int) : (m.taken number).stack = m.stack := by
  obtain ⟨errors, taken⟩ := m.exists_taken_eq number
  rw [taken]

theorem finishRun_stack (m : Machine) : m.finishRun.stack = m.stack :=
  log_stack _ _ _ _

theorem abortRun_stack {cause : Cause} {line : Int} {column : Nat} {failure : Option Failure}
    (h : .ended m' failure = m.abortRun cause line column) : m'.stack = m.stack := by
  obtain ⟨errors, ha⟩ := m.exists_abortRun_eq cause line column
  cases h.trans ha
  rfl

theorem execute_shift (m : Machine) (text : Text) : m.stack.Shift (m.execute text).1.stack := by
  unfold execute
  split
  · rename_i he
    exact Statement.execute_ok_shift he
  · rename_i he
    rw [Statement.execute_error_stack he]
    exact .same

theorem ingest_shift (m : Machine) (text : Text) : m.stack.Shift (m.ingest text).1.stack := by
  unfold ingest
  dsimp only
  split
  · unfold ingestNumbered
    split <;> exact .same
  · exact m.execute_shift _

theorem turned_shift (turn : m.step = .going m') : m.stack.Shift m'.stack := by
  obtain ⟨-, number, text, u, s, -, -, executed, rfl⟩ := step_eq_going_iff.mp turn
  have shift := Statement.execute_ok_shift executed
  have taken := m.taken_stack number
  exact taken ▸ shift

theorem ended_stack {failure : Option Failure} (turn : m.step = .ended m' failure) :
    m'.stack = m.stack := by
  rcases step_ended_cases turn with
    ⟨-, rfl⟩ | ⟨number, -, -, aborted⟩ | ⟨number, text, cause, s, -, -, failed, aborted⟩
  · exact m.finishRun_stack
  · exact abortRun_stack (m := { m with current := some number }) aborted
  · rw [abortRun_stack aborted, Statement.execute_error_stack failed]
    exact m.taken_stack number

theorem deleteLine_stack {number : Int} (h : m.deleteLine number = .ok m') :
    m'.stack = m.stack := by
  unfold deleteLine at h
  cases hp : m.program.delete number with
  | error cause =>
    rw [hp] at h
    cases h
  | ok program =>
    rw [hp] at h
    cases h
    rfl

/-- Nothing that happens to a machine pushes or pops two frames at once. -/
theorem Move.shift (h : m.Move m') : m.stack.Shift m'.stack := by
  cases h with
  | turned turn => exact turned_shift turn
  | ended turn =>
    rw [ended_stack turn]
    exact .same
  | executed text => exact m.execute_shift text
  | ingested text => exact m.ingest_shift text
  | deleted deleted =>
    rw [deleteLine_stack deleted]
    exact .same
  | logged level source message =>
    rw [log_stack]
    exact .same
  | _ => exact .same

end Stack

namespace Above

variable {height : Nat}

theorem high (h : Above height m m') : height ≤ m'.stack.length := by
  cases h <;> assumption

theorem single (move : m.Move m') (high : height ≤ m.stack.length)
    (high' : height ≤ m'.stack.length) : Above height m m' :=
  .move (.start high) move high'

theorem trans (h : Above height m m') (h' : Above height m' m'') : Above height m m'' := by
  induction h' with
  | start => exact h
  | move _ move high ih => exact .move ih move high

/-- Frames that the stack was never lower than are still there. -/
theorem bottom_eq (h : Above height m m') :
    m'.stack.bottom height = m.stack.bottom height := by
  induction h with
  | start => rfl
  | move earlier move high ih => rw [move.shift.bottom_eq earlier.high high, ih]

/-- At its old height the stack is the old one, unless it was lower in between. -/
theorem stack_eq (h : Above m.stack.length m m') (length : m'.stack.length = m.stack.length) :
    m'.stack = m.stack := by
  have bottom := h.bottom_eq
  rwa [ControlStack.bottom_of_length_le (Nat.le_of_eq length),
    ControlStack.bottom_of_length_le (Nat.le_refl _)] at bottom

end Above

/-- The next line of a run selects a statement, with success. -/
def RunsLine (k : Keyword) (m m' : Machine) : Prop :=
  m.step = .going m' ∧ ∃ number text r, m.address[m.position]? = some number ∧
    m.program.get? number = some text ∧
    let s : Execution := .start (m.taken number) text
    Statement.select s.context s.reading = .ok (some k) r

/-- A text that is no line of a run selects a statement, with success. -/
def Performs (k : Keyword) (m m' : Machine) : Prop :=
  ∃ text r, m.execute text = (m', none) ∧
    let s : Execution := .start m.look text
    Statement.select s.context s.reading = .ok (some k) r

theorem RunsLine.exists_effect {k : Keyword} (h : m.RunsLine k m') :
    ∃ number draws, Statement.Effect
      { m.taken number with generator := (m.taken number).generator.drawn draws } (some k) m' := by
  obtain ⟨turn, number, text, r, next, stored, selects⟩ := h
  obtain ⟨-, number', text', u, s, next', stored', executed, rfl⟩ := step_eq_going_iff.mp turn
  cases next.symm.trans next'
  cases stored.symm.trans stored'
  exact ⟨number, Statement.effect_of_select selects executed⟩

theorem Performs.exists_effect {k : Keyword} (h : m.Performs k m') :
    ∃ draws, Statement.Effect { m.look with generator := m.generator.drawn draws } (some k) m' := by
  obtain ⟨text, r, executed, selects⟩ := h
  unfold execute at executed
  split at executed
  · rename_i he
    cases executed
    exact Statement.effect_of_select selects he
  · cases executed

theorem call_stack (h : m.RunsLine .call m') :
    m'.stack = .subroutine (m.position + 1) :: m.stack := by
  obtain ⟨number, draws, effect⟩ := h.exists_effect
  obtain ⟨errors, taken⟩ := m.exists_taken_eq number
  rw [taken] at effect
  cases effect with
  | call running found => rfl

theorem resume_top (h : m.RunsLine .resume m' ∨ m.Performs .resume m') :
    m.stack = .subroutine m'.position :: m'.stack := by
  rcases h with h | h
  · obtain ⟨number, draws, effect⟩ := h.exists_effect
    obtain ⟨errors, taken⟩ := m.exists_taken_eq number
    rw [taken] at effect
    cases effect with
    | resume top => exact top
  · obtain ⟨draws, effect⟩ := h.exists_effect
    cases effect with
    | resume top => exact top

/-- A return from a call goes on behind it, with the stack that it had found. -/
theorem resume_call {called before after : Machine} (call : m.RunsLine .call called)
    (between : Above called.stack.length called before)
    (length : before.stack.length = called.stack.length)
    (resume : before.RunsLine .resume after ∨ before.Performs .resume after) :
    after.position = m.position + 1 ∧ after.stack = m.stack := by
  have top := resume_top resume
  rw [between.stack_eq length, call_stack call] at top
  obtain ⟨frame, stack⟩ := List.cons.inj top
  exact ⟨(Frame.subroutine.inj frame).symm, stack.symm⟩

end Machine

end NumberedBasic
