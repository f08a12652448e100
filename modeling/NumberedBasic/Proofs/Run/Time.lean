import NumberedBasic.Proofs.Run.Pause
import NumberedBasic.Proofs.Session.Edit

/-! # Runs at another time

Lines that do the same at any time are executed alike whatever the clock tells, and so are runs and
the ingestion of files that have no other lines. Where there is more room as well, this holds
unless there is too little for the first of two machines.
-/

namespace NumberedBasic

namespace Machine

def timed (clock : Clock) (m : Machine) : Machine :=
  { m with clock }

def Turn.timed (clock : Clock) : Turn → Turn
  | going m => going (m.timed clock)
  | ended m failure => ended (m.timed clock) failure

section Changes

variable (clock : Clock) (m : Machine)

theorem unlogged_timed : Unlogged (timed clock) :=
  .of_console (fun _ => rfl) fun _ _ => rfl

theorem taken_timed (number : Int) :
    (m.timed clock).taken number = (m.taken number).timed clock.tick :=
  (unlogged_timed clock.tick).logLine
    { m.look with current := some number, position := m.position + 1 } number

theorem restarted_timed : (m.timed clock).restarted = m.restarted.timed clock :=
  congrArg resumed <| unlogged_timed clock
    { m with address := m.program.lineNumbers, stack := [], position := 0 } _ _ _

theorem finishRun_timed : (m.timed clock).finishRun = m.finishRun.timed clock :=
  unlogged_timed clock { m with running := false } _ _ _

theorem abortRun_timed (cause : Cause) (line : Int) (column : Nat) :
    (m.timed clock).abortRun cause line column = (m.abortRun cause line column).timed clock :=
  congrArg (Turn.ended · (some ⟨cause, line, column⟩))
    ((unlogged_timed clock).abortRun m rfl cause line column)

end Changes

end Machine

open Machine

def Exec.timed {α : Type} (clock : Clock) :
    EStateM.Result Cause Execution α → EStateM.Result Cause Execution α
  | .ok a s => .ok a { s with machine := s.machine.timed clock }
  | .error cause s => .error cause { s with machine := s.machine.timed clock }

theorem Statement.Timeless.execute_timed {text : Text} (h : Timeless text) (clock : Clock)
    (m : Machine) : execute (.start (m.timed clock) text) =
      Exec.timed clock (execute (.start m text)) := by
  -- the line leaves the backdrop of the machine as it is
  have kept : execute (.start m text) = Exec.against m.backdrop (execute (.start m text)) :=
    h.execute_against m m.backdrop
  have moved : execute (.start (m.timed clock) text) = _ := h m clock
  rw [moved]
  nth_rewrite 2 [kept]
  cases execute (.start m text) <;> rfl

def Program.Untimed (p : Program) : Prop :=
  ∀ number, ∀ text ∈ p.get? number, Statement.Timeless text

namespace Machine

variable {m : Machine} {text line : Text} {lines : List Text}

theorem execute_timed (timeless : Statement.Timeless text) (clock : Clock) (m : Machine) :
    (m.timed clock).execute text = ((m.execute text).1.timed clock.tick, (m.execute text).2) := by
  have same : Statement.execute (.start (m.timed clock).look text) = _ :=
    timeless.execute_timed clock.tick m.look
  unfold execute
  rw [same]
  cases Statement.execute (.start m.look text) <;> rfl

/-- The line does the same at any time, whether it is executed now or stored and executed later. -/
structure UntimedLine (line : Text) : Prop where
  executed : (Cursor.start line.trimStart).lineNumber.1 = .ok none →
    Statement.Timeless line.trimStart
  stored : ∀ ⦃number text⦄, .store number text ∈ lineEdits line → Statement.Timeless text.trim

theorem ingest_timed (untimed : UntimedLine line) (clock : Clock) (m : Machine) :
    ∃ clock', (m.timed clock).ingest line =
      ((m.ingest line).1.timed clock', (m.ingest line).2) := by
  rw [ingest_eq, ingest_eq]
  split
  · exact ⟨clock, rfl⟩
  · rename_i none
    exact ⟨clock.tick, execute_timed (untimed.executed (congrArg Prod.fst none)) clock m⟩
  · exact ⟨clock, rfl⟩

theorem ingestAll_timed (untimed : ∀ line ∈ lines, UntimedLine line) (clock : Clock)
    (m : Machine) : ∃ clock', (m.timed clock).ingestAll lines =
      ((m.ingestAll lines).1.timed clock', (m.ingestAll lines).2) := by
  induction lines generalizing m clock with
  | nil => exact ⟨clock, rfl⟩
  | cons line lines ih =>
    obtain ⟨first, further⟩ := List.forall_mem_cons.mp untimed
    unfold ingestAll
    split
    · exact ih further clock m
    · obtain ⟨clock', same⟩ := ingest_timed first clock m
      rw [same]
      rcases m.ingest line with ⟨m', _ | cause⟩
      · exact ih further clock' m'
      · exact ⟨clock', rfl⟩

theorem ingestAll_untimed (program : m.program.Untimed)
    (untimed : ∀ line ∈ lines, UntimedLine line) :
    (m.ingestAll lines).1.program.Untimed := by
  intro number shown held
  rcases stored_of_get?_ingestAll held with held | ⟨line, hl, text, stored, rfl⟩
  · exact program number shown held
  · exact (untimed line hl).stored stored

theorem step_timed (untimed : m.program.Untimed) (clock : Clock) :
    ∃ clock', (m.timed clock).step = m.step.timed clock' := by
  cases next : m.next? with
  | none =>
    rw [step_of_next?_none next, step_of_next?_none (m := m.timed clock) next, finishRun_timed]
    exact ⟨clock, rfl⟩
  | some number =>
    obtain ⟨halted, place⟩ := next?_eq_some_iff.mp next
    rw [step_of_taken halted place, step_of_taken (m := m.timed clock) halted place]
    cases stored : m.program.get? number with
    | none =>
      rw [executeLine_of_none stored, executeLine_of_none (m := m.timed clock) stored]
      exact ⟨clock, abortRun_timed clock { m with current := some number } _ _ _⟩
    | some text =>
      refine ⟨clock.tick, ?_⟩
      rw [executeLine_of_some stored, executeLine_of_some (m := m.timed clock) stored, taken_timed,
        (untimed number text stored).execute_timed]
      cases Statement.execute (.start (m.taken number) text) with
      | ok u s => rfl
      | error cause s => exact abortRun_timed clock.tick s.machine cause number s.cursor.column

theorem turns_timed (untimed : m.program.Untimed) (clock : Clock) (count : Nat) :
    ∃ clock', turns count (m.timed clock) =
      (turns count m).map fun (final, failure) => (final.timed clock', failure) := by
  induction count generalizing m clock with
  | zero => exact ⟨clock, rfl⟩
  | succ count ih =>
    obtain ⟨clock', same⟩ := step_timed untimed clock
    cases turn : m.step with
    | ended final failure =>
      rw [turn] at same
      rw [turns_of_ended turn, turns_of_ended same]
      exact ⟨clock', rfl⟩
    | going m' =>
      rw [turn] at same
      rw [turns_of_going turn, turns_of_going same]
      exact ih ((going_fixed turn).1 ▸ untimed) clock'

/-- A run of lines that do the same at any time does the same at another time. -/
theorem runFor_timed (untimed : m.program.Untimed) (clock : Clock) (count : Nat) :
    ∃ clock', (m.timed clock).runFor count =
      (m.runFor count).map fun (final, failure) => (final.timed clock', failure) := by
  obtain ⟨errors, begun⟩ := m.exists_restarted_eq
  have untimed : m.restarted.program.Untimed := by rwa [begun]
  rw [runFor, runFor, restarted_timed]
  exact turns_timed untimed clock count

def bare (m : Machine) : Machine :=
  (m.within 0).timed 0

/-- The second machine has as much room or more, and another clock if the time is of no account. -/
def Ampler (timeless : Prop) (m m' : Machine) : Prop :=
  ∃ room clock, m' = (m.within room).timed clock ∧ m.room ≤ room ∧ (timeless ∨ clock = m.clock)

namespace Ampler

variable {timeless : Prop} {m m' : Machine}

theorem bare_eq (h : Ampler timeless m m') : m.bare = m'.bare := by
  obtain ⟨room, clock, rfl, -, -⟩ := h
  rfl

theorem allow (h : Ampler timeless m m') {room room' : Nat} (le : room ≤ room') :
    Ampler timeless { m with room } { m' with room := room' } := by
  obtain ⟨-, clock, rfl, -, times⟩ := h
  exact ⟨room', clock, rfl, le, times⟩

theorem log (h : Ampler timeless m m') (level : LogLevel) (source message : String) :
    Ampler timeless (m.log level source message) (m'.log level source message) := by
  obtain ⟨room, clock, rfl, le, times⟩ := h
  obtain ⟨errors, logged⟩ := m.exists_log_eq level source message
  refine ⟨room, clock, ?_, ?_, ?_⟩
  · rw [unlogged_timed, unlogged_within]
  · rwa [logged]
  · rwa [logged]

theorem ingestAll (h : Ampler timeless m m')
    (untimed : timeless → ∀ line ∈ lines, UntimedLine line) :
    Ampler timeless (m.ingestAll lines).1 (m'.ingestAll lines).1 ∧
        (m'.ingestAll lines).2 = (m.ingestAll lines).2 ∨
      (m.ingestAll lines).2 = some .tooComplex := by
  obtain ⟨room, clock, rfl, le, times⟩ := h
  refine (ingestAll_within le lines).imp_left fun ⟨le, within⟩ => ?_
  rcases times with timeless | same
  · obtain ⟨clock', timed⟩ := ingestAll_timed (untimed timeless) clock (m.within room)
    rw [timed, within]
    exact ⟨⟨room, clock', rfl, le, .inl timeless⟩, rfl⟩
  · have still : (m.within room).timed clock = m.within room := by rw [same]; rfl
    rw [still, within]
    exact ⟨⟨room, _, rfl, le, .inr rfl⟩, rfl⟩

/-- Both runs end in the same way or none of them, if the first one does not lack room. -/
theorem runFor (h : Ampler timeless m m') (untimed : timeless → m.program.Untimed) (count : Nat) :
    Option.Rel (fun r r' => r.1.bare = r'.1.bare ∧ r.2 = r'.2) (m.runFor count)
      (m'.runFor count) ∨ LacksRoom (m.runFor count) := by
  obtain ⟨room, clock, rfl, le, times⟩ := h
  refine (runFor_within le count).imp_left fun within => ?_
  have timed : ∃ change : Machine → Machine, (∀ m, (change m).bare = m.bare) ∧
      ((m.within room).timed clock).runFor count =
        (m.runFor count).map fun (final, failure) => (change final, failure) := by
    rcases times with timeless | same
    · obtain ⟨clock', timed⟩ := runFor_timed (m := m.within room) (untimed timeless) clock count
      refine ⟨fun m => (m.within room).timed clock', fun _ => rfl, ?_⟩
      rw [timed, within, Option.map_map]
      rfl
    · exact ⟨fun m => m.within room, fun _ => rfl, same ▸ within⟩
  obtain ⟨change, shown, same⟩ := timed
  rw [same]
  cases m.runFor count with
  | none => exact .none
  | some ended => exact .some ⟨(shown ended.1).symm, rfl⟩

end Ampler

end Machine

end NumberedBasic
