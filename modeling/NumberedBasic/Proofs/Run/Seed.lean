import NumberedBasic.Proofs.Evaluation.Seed
import NumberedBasic.Proofs.Run.Likeness

/-! # Machines with other seeds

Where no line contains the name of the function that draws random numbers, machines that differ in
their random numbers alone take the same turns, whatever new seeds they are given on the way.
-/

namespace NumberedBasic

def Program.Lacks (functions : List Builtin) (p : Program) : Prop :=
  ∀ number, ∀ text ∈ p.get? number, text.Lacks functions

theorem Program.lacks_empty (functions : List Builtin) : Program.Lacks functions Table.empty :=
  nofun

namespace Machine

def seedless (m : Machine) : Machine :=
  { m with generator := default, clock := 0 }

theorem unlogged_seedless : Unlogged seedless :=
  .of_console (fun _ => rfl) fun _ _ => rfl

theorem log_clock (m : Machine) (level : LogLevel) (source message : String) :
    (m.log level source message).clock = m.clock := by
  obtain ⟨errors, hl⟩ := m.exists_log_eq level source message
  rw [hl]

theorem taken_seedless (m : Machine) (number : Int) :
    (m.taken number).seedless = m.seedless.taken number :=
  (unlogged_seedless.logLine
    { m.look with current := some number, position := m.position + 1 } number).symm

/-- The machines differ in their random numbers alone, and in the time if the timer is one of the
other functions that do not occur. -/
structure Unseeded (others : List Builtin) (m m' : Machine) : Prop where
  seedless : m.seedless = m'.seedless
  clock : m.clock = m'.clock ∨ .timer ∈ others

namespace Unseeded

variable {others : List Builtin} {m m' : Machine} (h : Unseeded others m m')

include h

theorem same {α : Type} {f : Machine → α} (seedless : ∀ m, f m.seedless = f m) : f m = f m' := by
  rw [← seedless m, h.seedless, seedless]

/-- Nothing that leaves the random numbers and the time alone tells the machines apart. -/
theorem map {f : Machine → Machine} (seedless : ∀ m, (f m).seedless = f m.seedless)
    (clock : ∀ m, (f m).clock = m.clock) : Unseeded others (f m) (f m') where
  seedless := by rw [seedless, seedless, h.seedless]
  clock := by
    rw [clock, clock]
    exact h.clock

theorem allow (room : Nat) : Unseeded others { m with room } { m' with room } :=
  h.map (f := fun m => { m with room }) (fun _ => rfl) fun _ => rfl

theorem look : Unseeded others m.look m'.look where
  seedless := h.seedless
  clock := h.clock.imp_left (congrArg Clock.tick)

theorem taken (number : Int) : Unseeded others (m.taken number) (m'.taken number) where
  seedless := by rw [taken_seedless, taken_seedless, h.seedless]
  clock := by
    obtain ⟨errors, ht⟩ := m.exists_taken_eq number
    obtain ⟨errors', ht'⟩ := m'.exists_taken_eq number
    rw [ht, ht']
    exact h.look.clock

theorem abortRun (cause : Cause) (line : Int) (column : Nat) :
    Unseeded others (m.abortRun cause line column).machine
      (m'.abortRun cause line column).machine :=
  h.map (f := fun m => (m.abortRun cause line column).machine)
    (fun m => (unlogged_seedless.abortRun m rfl cause line column).symm) fun m => by
      obtain ⟨errors, ha⟩ := m.exists_abortRun_eq cause line column
      rw [ha]
      rfl

theorem log (level : LogLevel) (source message : String) :
    Unseeded others (m.log level source message) (m'.log level source message) :=
  h.map (fun m => (unlogged_seedless m level source message).symm) fun m =>
    m.log_clock level source message

theorem agrees : m.Agrees m' where
  «variables» := h.same (f := (·.variables)) fun _ => rfl
  stack := h.same (f := (·.stack)) fun _ => rfl
  position := h.same (f := (·.position)) fun _ => rfl
  address := h.same (f := (·.address)) fun _ => rfl
  running := h.same (f := (·.running)) fun _ => rfl
  input := h.same (f := (·.console.input)) fun _ => rfl

end Unseeded

end Machine

open Machine

namespace Likeness

def unseeded (others : List Builtin) : Likeness where
  outlook := .unseeded others
  Like := Unseeded others
  alike h := h.clock.imp_left (congrArg Clock.now)
  rooms h := .inl (h.same (f := (·.room)) fun _ => rfl)
  agrees h := h.agrees
  draw h _ _ _ := ⟨h.seedless, h.clock⟩
  assign h name value := h.map (f := (·.assign name value)) (fun _ => rfl) fun _ => rfl
  restack h stack := h.map (f := fun m => { m with stack }) (fun _ => rfl) fun _ => rfl
  goTo h position := h.map (f := fun m => { m with position }) (fun _ => rfl) fun _ => rfl
  halt h := h.map (f := fun m => { m with halted := true }) (fun _ => rfl) fun _ => rfl
  write h text := h.map (f := (·.write text)) (fun _ => rfl) fun _ => rfl
  read h input := h.map (f := fun m => { m with console := { m.console with input } })
    (fun _ => rfl) fun _ => rfl

theorem unseeded_timely (others : List Builtin) : (unseeded others).Timely :=
  fun {_ _} h => (Unseeded.clock h).imp_left (congrArg Clock.now)

theorem unseeded_lasting (others : List Builtin) : (unseeded others).Lasting where
  timely := unseeded_timely others
  program h := Unseeded.same h (f := (·.program)) fun _ => rfl
  halted h := Unseeded.same h (f := (·.halted)) fun _ => rfl
  missed h number := Unseeded.map h (f := fun m => { m with current := some number })
    (fun _ => rfl) fun _ => rfl
  taken h number := Unseeded.taken h number
  finish h := Unseeded.map h (fun _ => (unlogged_seedless _ _ _ _).symm) fun _ => log_clock _ _ _ _
  abort h cause line column := Unseeded.abortRun h cause line column

end Likeness

namespace Machine.Unseeded

variable {others : List Builtin} {m m' : Machine} (h : Unseeded others m m') {text : Text}

include h

theorem execute (lacks : text.Lacks (.rnd :: others)) :
    Unseeded others (m.execute text).1 (m'.execute text).1 ∧
      (m.execute text).2 = (m'.execute text).2 := by
  have executions := (Likeness.unseeded others).executions_start h.look
    (Outlook.clear_of_lacks lacks)
  have results := Statement.execute_results executions (.inl (Likeness.unseeded_timely others))
  unfold Machine.execute
  generalize Statement.execute (.start m.look text) = r at results ⊢
  generalize Statement.execute (.start m'.look text) = r' at results ⊢
  cases results with
  | ok u state => exact ⟨state.machine, rfl⟩
  | error cause machine => exact ⟨machine, rfl⟩
  | tooComplex roomier => exact roomier.elim

theorem ingest (lacks : text.Lacks (.rnd :: others)) :
    Unseeded others (m.ingest text).1 (m'.ingest text).1 ∧
      (m.ingest text).2 = (m'.ingest text).2 := by
  unfold Machine.ingest
  dsimp only
  split
  · unfold Machine.ingestNumbered
    rcases (Cursor.start text.trimStart).lineNumber with ⟨cause | _ | number, c⟩
    · exact ⟨h, rfl⟩
    · exact ⟨h, rfl⟩
    · exact ⟨h.map (f := (·.storeLine number c.rest)) (fun _ => rfl) fun _ => rfl, rfl⟩
  · exact h.execute (lacks.of_isInfix text.trimStart_suffix.isInfix)

theorem deleteLine (number : Int) :
    (∃ next next', m.deleteLine number = .ok next ∧ m'.deleteLine number = .ok next' ∧
      Unseeded others next next') ∨
      ∃ cause, m.deleteLine number = .error cause ∧ m'.deleteLine number = .error cause := by
  have program : m.program = m'.program := h.same (f := (·.program)) fun _ => rfl
  unfold Machine.deleteLine
  rw [← program]
  cases m.program.delete number with
  | error cause => exact .inr ⟨cause, rfl, rfl⟩
  | ok p =>
    exact .inl ⟨_, _, rfl, rfl, h.map (f := fun m => { m with program := p }) (fun _ => rfl)
      fun _ => rfl⟩

theorem continueFor (lacks : m.program.Lacks (.rnd :: others)) (count : Nat) :
    Option.Rel (fun r r' => Unseeded others r.1 r'.1 ∧ r.2 = r'.2)
      (m.continueFor count) (m'.continueFor count) := by
  have resumed : Unseeded others m.resumed m'.resumed :=
    h.map (f := Machine.resumed) (fun _ => rfl) fun _ => rfl
  exact ((Likeness.unseeded_lasting others).turns resumed
    (fun number text stored => Outlook.clear_of_lacks (lacks number text stored))
    count).resolve_right And.left

theorem runFor (lacks : m.program.Lacks (.rnd :: others)) (count : Nat) :
    Option.Rel (fun r r' => Unseeded others r.1 r'.1 ∧ r.2 = r'.2)
      (m.runFor count) (m'.runFor count) := by
  have restarted : Unseeded others m.restarted m'.restarted :=
    h.map (f := Machine.restarted) (fun _ => congrArg resumed (unlogged_seedless _ _ _ _).symm)
      fun _ => log_clock _ _ _ _
  obtain ⟨errors, begun⟩ := m.exists_restarted_eq
  have program : m.restarted.program = m.program := by rw [begun]
  rw [← program] at lacks
  exact ((Likeness.unseeded_lasting others).turns restarted
    (fun number text stored => Outlook.clear_of_lacks (lacks number text stored))
    count).resolve_right And.left

end Machine.Unseeded

end NumberedBasic
