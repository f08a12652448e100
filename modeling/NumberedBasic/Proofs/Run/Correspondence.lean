import NumberedBasic.Proofs.Run.Pause
import NumberedBasic.Proofs.Statement.Correspondence
import NumberedBasic.Proofs.Statement.Failure

/-! # Corresponding turns

Corresponding machines that take up the same line, in whatever letter case it is spelled,
correspond after that turn as well, or both runs end with it in the same way.
-/

namespace NumberedBasic

namespace Machine

/-- The line that the next turn jumps to or calls. -/
def aim? (m : Machine) : Option Int := do
  let number ← m.next?
  let text ← m.program.get? number
  Statement.aim? m.look.context ⟨.start text, m.generator, m.room + 14⟩

def aims : Nat → Machine → List Int
  | 0, _ => []
  | count + 1, m => m.aim?.toList ++
    match m.step with
    | .going m' => aims count m'
    | .ended _ _ => []

section Steps

variable {m m' final : Machine} {failure : Option Failure}

theorem aims_of_going (count : Nat) (turn : m.step = .going m') :
    m.aims (count + 1) = m.aim?.toList ++ m'.aims count := by
  simp only [aims, turn]

theorem mem_aims_of_aim? {count : Nat} {line : Int} (h : line ∈ m.aim?) :
    line ∈ m.aims (count + 1) :=
  List.mem_append_left _ (Option.mem_toList.mpr h)

theorem execute_fixed (m : Machine) (text : Text) :
    (m.execute text).1.program = m.program ∧ (m.execute text).1.address = m.address ∧
      (m.execute text).1.current = m.current := by
  unfold Machine.execute
  cases he : Statement.execute (.start m.look text) with
  | ok u s =>
    have fixed := Statement.execute_ok_fixed he
    exact ⟨fixed.program, fixed.address, fixed.current⟩
  | error cause s =>
    have fixed := Statement.execute_error_fixed he
    exact ⟨fixed.program, fixed.address, fixed.current⟩

theorem step_fixed (m : Machine) :
    m.step.machine.program = m.program ∧ m.step.machine.address = m.address ∧
      m.step.machine.current = m.next?.or m.current := by
  cases hn : m.next? with
  | none =>
    obtain ⟨errors, hf⟩ := m.exists_finishRun_eq
    rw [step_of_next?_none hn, Turn.machine, hf]
    exact ⟨rfl, rfl, rfl⟩
  | some number =>
    obtain ⟨halted, reached⟩ := next?_eq_some_iff.mp hn
    rw [step_of_taken halted reached]
    cases hs : m.program.get? number with
    | none =>
      obtain ⟨errors, ha⟩ := { m with current := some number }.exists_abortRun_eq
        (.lineMissing number) number 0
      rw [executeLine_of_none hs, ha]
      exact ⟨rfl, rfl, rfl⟩
    | some text =>
      obtain ⟨errors, ht⟩ := m.exists_taken_eq number
      rw [executeLine_of_some hs]
      cases he : Statement.execute (.start (m.taken number) text) with
      | ok u s =>
        have fixed := Statement.execute_ok_fixed he
        rw [ht] at fixed
        exact ⟨fixed.program, fixed.address, fixed.current⟩
      | error cause s =>
        have fixed := Statement.execute_error_fixed he
        obtain ⟨errors', ha⟩ := s.machine.exists_abortRun_eq cause number s.cursor.column
        rw [ht] at fixed
        rw [Turn.ofResult, ha]
        exact ⟨fixed.program, fixed.address, fixed.current⟩

end Steps

end Machine

namespace Folding

/-- The failures are at the same place, for causes that fold to the same one. -/
structure Failures (F : Folding) (failure failure' : Failure) : Prop where
  cause : F.cause failure.cause = F.cause failure'.cause
  line : failure.line = failure'.line
  column : failure.column = failure'.column

end Folding

namespace Correspondence

open Machine

variable (C : Correspondence)

def Untimed (m m' : Machine) : Prop :=
  C.Machines m { m' with clock := m.clock }

inductive Turns : Turn → Turn → Prop where
  | going {m m' : Machine} (machines : C.Untimed m m') : Turns (.going m) (.going m')
  | ended {m m' : Machine} {failure failure' : Option Failure} (machines : C.Untimed m m')
      (failures : Option.Rel C.folding.Failures failure failure') :
      Turns (.ended m failure) (.ended m' failure')

namespace Untimed

variable {C} {m m' : Machine} (h : C.Untimed m m')

include h

theorem taken (behind : C.place (m.position + 1) (m'.position + 1)) (number number' : Int) :
    C.Untimed (m.taken number) (m'.taken number') := by
  obtain ⟨errors, ht⟩ := m.exists_taken_eq number
  obtain ⟨errors', ht'⟩ := m'.exists_taken_eq number'
  rw [ht, ht']
  exact { h with position := behind, clock := rfl }

theorem finishRun : C.Untimed m.finishRun m'.finishRun := by
  obtain ⟨errors, hf⟩ := m.exists_finishRun_eq
  obtain ⟨errors', hf'⟩ := m'.exists_finishRun_eq
  rw [hf, hf']
  exact { h with running := rfl }

theorem abortRun {k k' : Cause} (cause : C.folding.cause k = C.folding.cause k') (line : Int)
    {column column' : Nat} (place : column = column') :
    C.Turns (m.abortRun k line column) (m'.abortRun k' line column') := by
  obtain ⟨errors, ha⟩ := m.exists_abortRun_eq k line column
  obtain ⟨errors', ha'⟩ := m'.exists_abortRun_eq k' line column'
  rw [ha, ha']
  exact .ended { h with running := rfl } (.some ⟨cause, rfl, place⟩)

section Lines

variable {text text' : Text} (same : C.folding.text text = C.folding.text text')
  (timeless : Statement.Timeless text')
  (aims : ∀ line ∈ Statement.aim? m.context ⟨.start text, m.generator, m.room + 14⟩, C.aim line)

include same timeless aims

theorem results_execute :
    C.folding.Results (fun s s' => C.Untimed s.machine s'.machine ∧
        C.folding.cursor s.cursor = C.folding.cursor s'.cursor) Eq
      (Statement.execute (.start m text)) (Statement.execute (.start m' text')) := by
  have related : C.Executions (.start m text) (.start { m' with clock := m.clock } text') :=
    ⟨h, congrArg (Cursor.mk 0) same, congrArg (· + 14) h.room⟩
  have results := Statement.results_execute related aims
  rw [timeless m' m.clock] at results
  generalize Statement.execute (.start m text) = r at results ⊢
  generalize Statement.execute (.start m' text') = r' at results ⊢
  cases r' with
  | ok u' s' =>
    cases results with
    | ok value state => exact .ok value ⟨{ state.machine with clock := rfl }, state.cursor⟩
  | error k' s' =>
    cases results with
    | error cause state => exact .error cause ⟨{ state.machine with clock := rfl }, state.cursor⟩

theorem ofResult (number : Int) :
    C.Turns (.ofResult number (Statement.execute (.start m text)))
      (.ofResult number (Statement.execute (.start m' text'))) := by
  have results := h.results_execute same timeless aims
  generalize Statement.execute (.start m text) = r at results ⊢
  generalize Statement.execute (.start m' text') = r' at results ⊢
  cases results with
  | ok _ state => exact .going state.1
  | error cause state => exact state.1.abortRun cause number (congrArg Cursor.column state.2 :)

end Lines

/-- Corresponding machines that take up the same line take corresponding turns. -/
theorem step (next : m.next? = m'.next?)
    (behind : ∀ number ∈ m.next?, C.place (m.position + 1) (m'.position + 1))
    (lines : ∀ number ∈ m.next?, Option.Rel (fun t t' => C.folding.text t = C.folding.text t')
      (m.program.get? number) (m'.program.get? number))
    (timeless : ∀ number ∈ m.next?, ∀ text ∈ m'.program.get? number, Statement.Timeless text)
    (aims : ∀ line ∈ m.aim?, C.aim line) : C.Turns m.step m'.step := by
  cases hn : m.next? with
  | none =>
    rw [step_of_next?_none hn, step_of_next?_none (next.symm.trans hn)]
    exact .ended h.finishRun .none
  | some number =>
    obtain ⟨halted, reached⟩ := next?_eq_some_iff.mp hn
    obtain ⟨halted', reached'⟩ := next?_eq_some_iff.mp (next.symm.trans hn)
    rw [step_of_taken halted reached, step_of_taken halted' reached']
    have stored := lines number hn
    generalize hs : m.program.get? number = line at stored
    generalize hs' : m'.program.get? number = line' at stored
    cases stored with
    | none =>
      rw [executeLine_of_none hs, executeLine_of_none hs']
      have current : C.Untimed { m with current := some number }
          { m' with current := some number } := { h with }
      exact current.abortRun rfl number rfl
    | some same =>
      rw [executeLine_of_some hs, executeLine_of_some hs']
      refine (h.taken (behind number hn) number number).ofResult same
        (timeless number hn _ hs') ?_ number
      obtain ⟨errors, ht⟩ := m.exists_taken_eq number
      rw [ht]
      simp only [aim?, hn, hs, Option.bind_eq_bind, Option.bind_some] at aims
      exact aims

end Untimed

end Correspondence

end NumberedBasic
