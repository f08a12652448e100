import NumberedBasic.Proofs.Run.Coherence
import NumberedBasic.Proofs.Session.Operation

/-! # Reachable sessions

Operations leave the machine of a session coherent and out of the run loop, and a run
that they begin is coherent between any two lines. Jumps have no target outside of a
run, whatever conditions stand before them.
-/

namespace NumberedBasic

namespace Machine

variable {m m' : Machine}

namespace Coherent

theorem execute (h : m.Coherent) (text : Text) : (m.execute text).1.Coherent := by
  have look : m.look.Coherent := h.of_eq rfl rfl rfl rfl
  unfold Machine.execute
  split
  · rename_i he
    exact executed_ok look he
  · rename_i he
    exact executed_error look he

theorem ingest (h : m.Coherent) (text : Text) : (m.ingest text).1.Coherent := by
  unfold Machine.ingest Machine.ingestNumbered
  dsimp only
  split
  · split
    · exact h.storeLine (Int.natCast_nonneg _) _
    · exact h
    · exact h
  · exact h.execute _

end Coherent

/-- The machine is coherent and not in a run. -/
def Resting (m : Machine) : Prop :=
  m.Coherent ∧ m.running = false

namespace Resting

theorem execute (h : m.Resting) (text : Text) : (m.execute text).1.Resting := by
  refine ⟨h.1.execute text, ?_⟩
  unfold Machine.execute
  split
  · rename_i he
    exact (Statement.execute_ok_fixed he).running.trans h.2
  · rename_i he
    exact (Statement.execute_error_fixed he).running.trans h.2

theorem ingest (h : m.Resting) (text : Text) : (m.ingest text).1.Resting := by
  refine ⟨h.1.ingest text, ?_⟩
  unfold Machine.ingest Machine.ingestNumbered
  dsimp only
  split
  · split <;> exact h.2
  · exact (h.execute _).2

theorem ingestAll (h : m.Resting) (lines : List Text) : (m.ingestAll lines).1.Resting := by
  induction lines generalizing m with
  | nil => exact h
  | cons line lines ih =>
    unfold Machine.ingestAll
    split
    · exact ih h
    · have hl := h.ingest line
      split
      · rename_i he
        rw [he] at hl
        exact ih hl
      · rename_i he
        rw [he] at hl
        exact hl

theorem deleteLine (h : m.Resting) {number : Int} (hd : m.deleteLine number = .ok m') :
    m'.Resting := by
  refine ⟨h.1.deleteLine hd, ?_⟩
  unfold Machine.deleteLine Program.delete at hd
  split at hd
  · cases hd
    exact h.2
  · cases hd

theorem log (h : m.Resting) (level : LogLevel) (source message : String) :
    (m.log level source message).Resting := by
  obtain ⟨errors, hl⟩ := m.exists_log_eq level source message
  rw [hl]
  exact ⟨h.1.of_eq rfl rfl rfl rfl, h.2⟩

theorem allow {s : Session} (h : s.machine.Resting) (calls : Nat) :
    (s.allow calls).machine.Resting :=
  ⟨h.1.of_eq rfl rfl rfl rfl, h.2⟩

end Resting

theorem Coherent.turns (h : m.Coherent) {count : Nat} {failure : Option Failure}
    (ht : turns count m = some (m', failure)) : m'.Resting := by
  obtain ⟨last, hu, turn⟩ := exists_underway_of_turns ht
  exact ⟨(h.underway hu).ended turn, step_ended_running turn⟩

end Machine

namespace Statement

open Exec

variable {s : Execution} {k : Keyword} {r : Reading}

theorem target_not_running (h : s.machine.running = false) : target s = .error .notRunning s := by
  have hr : evaluate (Eval.require false fun _ => .notRunning) s = .error .notRunning s := rfl
  rw [target, bind_of_ok machine_apply, h]
  exact bind_of_error hr _

/-- A jump outside of a run fails before it evaluates its target. -/
theorem execute_not_running (h : s.machine.running = false) (hk : k = .jump ∨ k = .call)
    (hs : select s.context s.reading = .ok (some k) r) :
    execute s = .error .notRunning (s.moved r) := by
  have ht : target (s.moved r) = .error .notRunning (s.moved r) := target_not_running h
  rw [execute_eq, bind_of_ok (evaluate_of_ok hs)]
  rcases hk with rfl | rfl
  · exact bind_of_error ht _
  · exact bind_of_error ht _

end Statement

namespace Session

variable {s s' : Session} {operation : Operation} {result : Answer}

theorem loadFrom_resting (h : s.machine.Resting) (path : Path) :
    (s.loadFrom path).1.machine.Resting := by
  have ingested {lines : List Text} {m : Machine} {failure : Option Cause}
      (he : s.machine.ingestAll lines = (m, failure)) : m.Resting := by
    have all := h.ingestAll lines
    rwa [he] at all
  obtain ⟨s', result, eq, loading⟩ := s.loading path
  rw [eq]
  cases loading with
  | unread _ => exact h
  | failed _ he => exact ingested he
  | undecodable _ he => exact ingested he
  | loaded _ he => exact (ingested he).log _ _ _

theorem load_resting (h : s.machine.Resting) (name : Text) : (s.load name).1.machine.Resting := by
  unfold load
  split
  · exact h
  · exact loadFrom_resting h _

theorem save_resting (h : s.machine.Resting) (name : Text) : (s.save name).1.machine.Resting := by
  unfold save saveTo
  split
  · exact h
  · dsimp only
    split
    · exact h
    · split
      · exact h.log _ _ _
      · exact h

/-- Every operation leaves a resting machine at rest, whether it fails or not. -/
theorem answer_resting (h : s.machine.Resting) (answer : s.answer operation = some (s', result)) :
    s'.machine.Resting := by
  cases operation with
  | ingest text =>
    cases answer
    exact (h.allow 3).ingest text
  | execute text =>
    cases answer
    exact (h.allow 4).execute text
  | assign name value =>
    cases answer
    exact ⟨h.1.assign name value, h.2⟩
  | clear =>
    cases answer
    exact ⟨h.1.of_eq rfl rfl rfl rfl, h.2⟩
  | new =>
    cases answer
    exact ⟨{ h.1 with number_nonneg := nofun, text_trimmed := nofun }, h.2⟩
  | delete number =>
    simp only [Session.answer] at answer
    split at answer
    · rename_i hd
      cases answer
      exact h.deleteLine hd
    · cases answer
      exact h
  | run turns =>
    obtain ⟨⟨m, failure⟩, ht, he⟩ := Option.map_eq_some_iff.mp answer
    cases he
    exact (h.allow 3).1.restarted.turns ht
  | resume turns =>
    obtain ⟨⟨m, failure⟩, ht, he⟩ := Option.map_eq_some_iff.mp answer
    cases he
    exact (h.allow 4).1.resumed.turns ht
  | load name =>
    cases answer
    exact load_resting (h.allow 2) name
  | save name =>
    cases answer
    exact save_resting h name

theorem Reachable.resting (h : s.Reachable) : s.machine.Resting := by
  induction h with
  | fresh seed clock console => exact ⟨.fresh seed clock console, rfl⟩
  | answered _ answer ih => exact answer_resting ih answer
  | meanwhile _ clock console _ _ ih => exact ⟨ih.1.of_eq rfl rfl rfl rfl, ih.2⟩

/-- A machine is coherent between any two operations and between any two lines of a run.
It is in no run between operations, so that no line can jump then. -/
theorem Reachable.coherent (h : s.Reachable) :
    s.machine.Coherent ∧ s.machine.running = false ∧
    (∀ calls m, Machine.Underway (s.allow calls).machine.restarted m ∨
      Machine.Underway (s.allow calls).machine.resumed m → m.Coherent) ∧
    ∀ (calls : Nat) (text : Text) (k : Keyword) (r : Reading), k = .jump ∨ k = .call →
      let e : Execution := .start (s.allow calls).machine.look text
      Statement.select e.context e.reading = .ok (some k) r →
      ∃ cause, cause.message = "Program not running" ∧
        Statement.execute e = .error cause (e.moved r) := by
  obtain ⟨coherent, running⟩ := h.resting
  refine ⟨coherent, running, ?_, ?_⟩
  · have allowed (calls : Nat) : (s.allow calls).machine.Coherent :=
      coherent.of_eq rfl rfl rfl rfl
    rintro calls m (hu | hu)
    · exact (allowed calls).restarted.underway hu
    · exact (allowed calls).resumed.underway hu
  · intro calls text k r hk e hs
    exact ⟨.notRunning, rfl, Statement.execute_not_running running hk hs⟩

/-- A loop that is begun outside of a run leaves a frame on the stack, but no line jumps. -/
theorem coherent_after_loop :
    let text : Text := ['I', 'F', ' ', '1', ' ', 'T', 'H', 'E', 'N', ' ', 'G', 'O', 'T', 'O', ' ',
      '9']
    ∃ s : Session, s.Reachable ∧ s.machine.stack.length = 1 ∧ s.machine.Coherent ∧
      ∃ cause t, cause.message = "Program not running" ∧
        Statement.execute (.start (s.allow 4).machine.look text) = .error cause t := by
  intro text
  let s : Session := ⟨.fresh 0 0 (.ofInput []), ⟨[], Table.empty⟩, 0⟩
  let s' : Session := { s with machine := ((s.allow 4).machine.execute ['D', 'O']).1 }
  have answer : s.answer (.execute ['D', 'O']) = some (s', .done _) := rfl
  have h : s'.Reachable := .answered (.fresh _ _ _ _ _) answer
  have length : s'.machine.stack.length = 1 := by decide +kernel
  let e : Execution := .start (s'.allow 4).machine.look text
  have jumps : Statement.selected e.context e.reading = some .jump := by
    decide +kernel
  clear answer
  clear_value s'
  obtain ⟨r, hr⟩ := Statement.selected_eq_some_iff.mp jumps
  obtain ⟨coherent, -, -, fails⟩ := h.coherent
  obtain ⟨cause, message, failed⟩ := fails 4 text .jump r (.inl rfl) hr
  exact ⟨s', h, length, coherent, cause, _, message, failed⟩

end Session

end NumberedBasic
