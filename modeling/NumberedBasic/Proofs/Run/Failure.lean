import NumberedBasic.Proofs.Run.Pause
import NumberedBasic.Proofs.Session.Coherence

/-! # Where runs fail

A run fails at the line that comes next: the line is missing, or its statement fails at a
place within its text. The failure leaves the table, the stack and the program alone, so a
continuation goes on behind the line, or tries a missing one again.
-/

namespace NumberedBasic

namespace Execution

variable {s t : Execution}

theorem Evaluates.reaches (h : s.Evaluates t) : s.cursor.Reaches t.cursor := by
  obtain ⟨r, hr, rfl⟩ := h
  exact hr.cursor

end Execution

namespace Statement

open Exec

variable {s t : Execution} {cause : Cause}

theorem count_error_reaches (h : count s = .error cause t) : s.cursor.Reaches t.cursor := by
  rw [count_eq] at h
  rcases bind_eq_error_iff.mp h with h | ⟨⟨name, first⟩, s₁, hs, h⟩
  · exact (Execution.Evaluates.of_error loopStart_advances h).reaches
  · have begun := (Execution.Evaluates.of_ok loopStart_advances hs).reaches
    have range : (evaluate loopRange >>= fun x => push (.count x.2 x.1)).Atomic :=
      (Reads.evaluate loopRange_advances).atomic_bind fun _ => .change _
    rcases bind_eq_error_iff.mp h with h | ⟨_, s₂, ha, h⟩
    · cases h
    · cases ha
      exact begun.trans (range h).reaches

theorem input_error_reaches (h : input s = .error cause t) : s.cursor.Reaches t.cursor := by
  rcases bind_eq_error_iff.mp h with h | ⟨⟨prompt, names⟩, s₁, hs, h⟩
  · exact (Execution.Evaluates.of_error inputList_advances h).reaches
  · have listed := (Execution.Evaluates.of_ok inputList_advances hs).reaches
    rcases bind_eq_error_iff.mp h with h | ⟨line, s₂, ha, h⟩
    · cases h
    · cases ha
      rcases bind_eq_error_iff.mp h with h | ⟨values, s₃, -, h⟩
      · obtain ⟨-, rfl⟩ := ofExcept_error h
        exact listed
      · cases h

theorem perform_error_reaches {k : Option Keyword} (hk : k ≠ some .condition)
    (h : perform k s = .error cause t) : s.cursor.Reaches t.cursor := by
  by_cases count : k = some .count
  · subst count
    exact count_error_reaches h
  by_cases input : k = some .input
  · subst input
    exact input_error_reaches h
  · exact (perform_atomic hk count input h).reaches

/-- A statement that fails has moved forward along its line, wherever the failure arose. -/
theorem execute_error_reaches (h : execute s = .error cause t) :
    s.cursor.Reaches t.cursor := by
  rw [execute_eq] at h
  rcases bind_eq_error_iff.mp h with h | ⟨k, s₁, hk, h⟩
  · exact (Execution.Evaluates.of_error select_advances h).reaches
  · have selecting := (Execution.Evaluates.of_ok select_advances hk).reaches
    obtain ⟨r, hr, -⟩ := evaluate_eq_ok_iff.mp hk
    refine selecting.trans (perform_error_reaches ?_ h)
    rintro rfl
    exact selectWithin_ne_condition hr rfl

end Statement

namespace Machine

/-- The failure of a run at the line that came next for the machine before. -/
structure FailedAt (before : Machine) (failure : Failure) (after : Machine) : Prop where
  line : before.next? = some failure.line
  missing : before.program.get? failure.line = none →
    failure.cause = .lineMissing failure.line ∧ failure.column = 0 ∧
      after.position = before.position
  executed : ∀ text, before.program.get? failure.line = some text →
    (∃ s, Statement.execute (.start (before.taken failure.line) text) = .error failure.cause s) ∧
      failure.column ≤ text.length ∧ after.position = before.position + 1
  current : after.current = some failure.line
  halted : after.halted = false
  running : after.running = false
  stack : after.stack = before.stack
  program : after.program = before.program
  address : after.address = before.address

variable {m m' before after : Machine} {failure : Failure} {number : Int} {text : Text}

theorem failedAt_missing {errors : String} (next : m.next? = some number)
    (absent : m.program.get? number = none) :
    m.FailedAt ⟨.lineMissing number, number, 0⟩
      { m with
        current := some number
        running := false
        console := { m.console with errors } } where
  line := next
  missing _ := ⟨rfl, rfl, rfl⟩
  executed _ stored := nomatch absent.symm.trans stored
  current := rfl
  halted := (next?_eq_some_iff.mp next).1
  running := rfl
  stack := rfl
  program := rfl
  address := rfl

theorem failedAt_executed {cause : Cause} {s : Execution} {errors : String}
    (next : m.next? = some number) (stored : m.program.get? number = some text)
    (failed : Statement.execute (.start (m.taken number) text) = .error cause s) :
    m.FailedAt ⟨cause, number, s.cursor.column⟩
      { s.machine with
        running := false
        console := { s.machine.console with errors } } := by
  obtain ⟨⟨program, address, position, current, halted, -, stack, -⟩, -⟩ :=
    Statement.execute_error_unchanged failed
  obtain ⟨logged, ht⟩ := m.exists_taken_eq number
  have within := (Statement.execute_error_reaches failed).rest_eq_drop.1
  rw [ht] at program address position current halted stack
  exact {
    line := next
    missing := fun absent => nomatch absent.symm.trans stored
    executed := by
      rintro text' stored'
      obtain rfl := Option.some.inj (stored.symm.trans stored')
      exact ⟨⟨s, failed⟩, within, position⟩
    current := current
    halted := halted.trans (next?_eq_some_iff.mp next).1
    running := rfl
    stack := stack
    program := program
    address := address }

theorem failedAt_of_step (turn : m.step = .ended m' (some failure)) : m.FailedAt failure m' := by
  have going : m.halted = false := by
    cases halted : m.halted with
    | false => rfl
    | true => simp [step, halted] at turn
  rcases step_ended_cases turn with
    ⟨hf, -⟩ | ⟨number, next, absent, hm⟩ | ⟨number, text, cause, s, next, stored, failed, hm⟩
  · cases hf
  · obtain ⟨errors, ha⟩ := exists_abortRun_eq { m with current := some number }
      (.lineMissing number) number 0
    cases hm.trans ha
    exact failedAt_missing (next?_eq_some_iff.mpr ⟨going, next⟩) absent
  · obtain ⟨errors, ha⟩ := s.machine.exists_abortRun_eq cause number s.cursor.column
    cases hm.trans ha
    exact failedAt_executed (next?_eq_some_iff.mpr ⟨going, next⟩) stored failed

def FailsNext (m : Machine) : Prop :=
  ∃ number, m.next? = some number ∧
    ∀ text, m.program.get? number = some text →
      ∃ cause s, Statement.execute (.start (m.taken number) text) = .error cause s

theorem FailsNext.exists_step (h : m.FailsNext) :
    ∃ m' failure, m.step = .ended m' (some failure) := by
  obtain ⟨number, next, fails⟩ := h
  obtain ⟨halted, at_⟩ := next?_eq_some_iff.mp next
  cases stored : m.program.get? number with
  | none =>
    obtain ⟨errors, ha⟩ := exists_abortRun_eq { m with current := some number }
      (.lineMissing number) number 0
    exact ⟨_, _, (step_of_taken halted at_).trans ((executeLine_of_none stored).trans ha)⟩
  | some text =>
    obtain ⟨cause, s, failed⟩ := fails text stored
    obtain ⟨errors, ha⟩ := s.machine.exists_abortRun_eq cause number s.cursor.column
    have executed := executeLine_of_some stored
    rw [failed, Turn.ofResult, ha] at executed
    exact ⟨_, _, (step_of_taken halted at_).trans executed⟩

section Resumption

variable (clock : Clock) (console : Console)

theorem next?_resumed (m : Machine) :
    ({ m with clock, console } : Machine).resumed.next? = m.address[m.position]? := rfl

theorem FailedAt.next?_missing (h : before.FailedAt failure after)
    (absent : before.program.get? failure.line = none) :
    ({ after with clock, console } : Machine).resumed.next? = some failure.line := by
  obtain ⟨-, -, position⟩ := h.missing absent
  rw [next?_resumed, h.address, position]
  exact (next?_eq_some_iff.mp h.line).2

theorem FailedAt.next?_executed (h : before.FailedAt failure after)
    (stored : before.program.get? failure.line = some text) :
    ({ after with clock, console } : Machine).resumed.next? =
      before.address[before.position + 1]? := by
  obtain ⟨-, -, position⟩ := h.executed text stored
  rw [next?_resumed, h.address, position]

end Resumption

/-- In an ordered list, what stands behind an element is the least of the greater ones. -/
theorem getElem?_succ_of_ascending {numbers : List Int} {place : Nat} {number : Int}
    (ascending : numbers.Pairwise (· < ·)) (found : numbers[place]? = some number) :
    (∀ next, numbers[place + 1]? = some next → number < next) ∧
      ∀ other ∈ numbers, number < other →
        ∃ next, numbers[place + 1]? = some next ∧ next ≤ other := by
  obtain ⟨hp, rfl⟩ := List.getElem?_eq_some_iff.mp found
  rw [List.pairwise_iff_getElem] at ascending
  constructor
  · intro next hn
    obtain ⟨hp', rfl⟩ := List.getElem?_eq_some_iff.mp hn
    exact ascending _ _ hp hp' (Nat.lt_succ_self place)
  · rintro other member greater
    obtain ⟨index, hi, rfl⟩ := List.mem_iff_getElem.mp member
    have behind : place < index := by
      by_contra before
      rcases Nat.lt_or_eq_of_le (Nat.le_of_not_lt before) with hl | rfl
      · exact Int.lt_irrefl _ (Int.lt_trans greater (ascending _ _ hi hp hl))
      · exact Int.lt_irrefl _ greater
    have hp' : place + 1 < numbers.length := by omega
    refine ⟨numbers[place + 1], List.getElem?_eq_getElem hp', ?_⟩
    rcases Nat.lt_or_eq_of_le (Nat.succ_le_of_lt behind) with hl | rfl
    · exact Int.le_of_lt (ascending _ _ hp' hi hl)
    · exact Int.le_refl _

/-- A continuation takes up a line first that is the next one behind another. -/
def GoesOnBehind (m : Machine) (number : Int) : Prop :=
  (∀ next, m.next? = some next → number < next) ∧
    (∀ other ∈ m.address, number < other → ∃ next, m.next? = some next ∧ next ≤ other) ∧
    (m.next? = none → m.step = .ended m.finishRun none)

theorem FailedAt.goesOnBehind (h : before.FailedAt failure after)
    (ascending : before.address.Pairwise (· < ·))
    (stored : before.program.get? failure.line = some text) (clock : Clock) (console : Console) :
    ({ after with clock, console } : Machine).resumed.GoesOnBehind failure.line := by
  obtain ⟨above, least⟩ :=
    getElem?_succ_of_ascending ascending (next?_eq_some_iff.mp h.line).2
  have next := h.next?_executed clock console stored
  refine ⟨next ▸ above, ?_, step_of_next?_none⟩
  intro other member greater
  have table : other ∈ after.address := member
  rw [h.address] at table
  exact next ▸ least other table greater

end Machine

namespace Session

open Machine

/-- A run that is begun or continued in any session fails where it gets to a line that is
missing or whose statement fails, and nowhere else. The failure tells the line and a column
within its text, and the stack, the table and the program are as they were before the line.
A continuation goes on behind the line, and tries a missing line again. -/
theorem Reachable.failed_run {s : Session} (h : s.Reachable) {calls : Nat} {m : Machine}
    (begun : m = (s.allow calls).machine.restarted ∨ m = (s.allow calls).machine.resumed) :
    (∀ count after failure, Machine.turns count m = some (after, some failure) →
      ∃ before, m.Underway before ∧ before.FailedAt failure after ∧
        ∀ clock console, let again := ({ after with clock, console } : Machine).resumed
          (before.program.get? failure.line = none → again.next? = some failure.line) ∧
          ∀ text, before.program.get? failure.line = some text →
            again.next? = before.address[before.position + 1]? ∧
              again.GoesOnBehind failure.line) ∧
    ∀ before, m.Underway before → before.FailsNext →
      ∃ count after failure, Machine.turns count m = some (after, some failure) ∧
        before.FailedAt failure after := by
  have coherent : m.Coherent := by
    have allowed := h.resting.allow calls
    rcases begun with rfl | rfl
    · exact allowed.1.restarted
    · exact allowed.1.resumed
  constructor
  · intro count after failure run
    obtain ⟨before, underway, turn⟩ := exists_underway_of_turns run
    have failed := failedAt_of_step turn
    refine ⟨before, underway, failed, fun clock console => ⟨?_, ?_⟩⟩
    · exact failed.next?_missing clock console
    · intro text stored
      exact ⟨failed.next?_executed clock console stored,
        failed.goesOnBehind (coherent.underway underway).ascending stored clock console⟩
  · intro before underway fails
    obtain ⟨after, failure, turn⟩ := fails.exists_step
    obtain ⟨count, run⟩ := underway.exists_turns turn
    exact ⟨count, after, failure, run, failedAt_of_step turn⟩

/-- A run that fails inside a subroutine keeps the frame of the call, and goes on behind. -/
theorem failed_subroutine_goes_on :
    let failure : Failure := ⟨.unknownVariable ['y'], 20, 7⟩
    ∃ (s : Session) (before after : Machine), s.Reachable ∧
      (s.allow 3).machine.runFor 2 = some (after, some failure) ∧
      (s.allow 3).machine.restarted.Underway before ∧
      before.FailedAt failure after ∧ after.stack = [.subroutine 1] ∧
      after.resumed.next? = some 30 ∧ after.resumed.GoesOnBehind 20 := by
  intro failure
  let s₀ : Session := ⟨.fresh 0 0 (.ofInput []), ⟨[], Table.empty⟩, 0⟩
  let call : Text := ['1', '0', ' ', 'G', 'O', 'S', 'U', 'B', ' ', '2', '0']
  let wrong : Text := ['2', '0', 'L', 'E', 'T', ' ', 'X', '=', 'Y']
  let s₁ : Session := (s₀.allow 3).update fun m => (m.ingest call).1
  let s₂ : Session := (s₁.allow 3).update fun m => (m.ingest wrong).1
  let s : Session := (s₂.allow 3).update fun m => (m.ingest ['3', '0', 'E', 'N', 'D']).1
  have first : s₀.answer (.ingest call) = some (s₁, .done _) := rfl
  have second : s₁.answer (.ingest wrong) = some (s₂, .done _) := rfl
  have third : s₂.answer (.ingest ['3', '0', 'E', 'N', 'D']) = some (s, .done _) := rfl
  have h : s.Reachable :=
    .answered (.answered (.answered (.fresh 0 0 (.ofInput []) _ _) first) second) third
  have outcome : ((s.allow 3).machine.runFor 2).any (fun ended =>
      decide (ended.2 = some failure) && ended.1.stack == [.subroutine 1] &&
        ended.1.resumed.next? == some 30 && (ended.1.program.get? 20).isSome) = true := by
    decide +kernel
  clear first second third
  clear_value s
  obtain ⟨⟨m, ending⟩, run, facts⟩ := (Option.any_eq_true _ _).mp outcome
  simp only [Bool.and_eq_true, decide_eq_true_eq, beq_iff_eq, and_assoc] at facts
  obtain ⟨rfl, stack, next, stored⟩ := facts
  obtain ⟨before, underway, failed, again⟩ := (h.failed_run (.inl rfl)).1 2 m failure run
  obtain ⟨text, stored⟩ := Option.isSome_iff_exists.mp stored
  rw [failed.program] at stored
  exact ⟨s, before, m, h, run, underway, failed, stack, next,
    ((again m.clock m.console).2 text stored).2⟩

end Session

end NumberedBasic
