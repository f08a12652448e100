import NumberedBasic.Run

/-! # Turns of a run

A run that ends has taken one turn after the other and left the loop at the last
one. What every turn keeps therefore holds between any two lines, and what the last
turn adds to it holds at the end.
-/

namespace NumberedBasic.Machine

theorem exists_log_eq (m : Machine) (level : LogLevel) (source message : String) :
    ∃ errors, m.log level source message = { m with console := { m.console with errors } } := by
  unfold log
  split
  · exact ⟨_, rfl⟩
  · exact ⟨m.console.errors, rfl⟩

section Logged

variable (m : Machine)

theorem exists_logLine_eq (number : Int) :
    ∃ errors, m.logLine number = { m with console := { m.console with errors } } := by
  unfold logLine
  split
  · exact exists_log_eq _ _ _ _
  · exact ⟨m.console.errors, rfl⟩

theorem exists_taken_eq (number : Int) : ∃ errors, m.taken number =
    { m with
      clock := m.clock.tick
      current := some number
      position := m.position + 1
      console := { m.console with errors } } :=
  exists_logLine_eq _ _

theorem exists_finishRun_eq : ∃ errors, m.finishRun =
    { m with running := false, console := { m.console with errors } } :=
  exists_log_eq _ _ _ _

theorem exists_abortRun_eq (cause : Cause) (line : Int) (column : Nat) :
    ∃ errors, m.abortRun cause line column =
      .ended { m with running := false, console := { m.console with errors } }
        (some ⟨cause, line, column⟩) := by
  let failure : Failure := ⟨cause, line, column⟩
  have logged (message? : Option String) (m : Machine) : ∃ errors,
      (message?.elim m fun message => m.logRun s!"run aborted: {message}") =
        { m with console := { m.console with errors } } := by
    cases message? with
    | none => exact ⟨m.console.errors, rfl⟩
    | some message => exact exists_log_eq _ _ _ _
  obtain ⟨errors, hl⟩ := logged failure.message? { m with running := false }
  exact ⟨errors, congrArg (Turn.ended · (some failure)) hl⟩

theorem exists_restarted_eq : ∃ errors, m.restarted =
    { m with
      address := m.program.lineNumbers
      stack := []
      position := 0
      halted := false
      running := true
      console := { m.console with errors } } := by
  obtain ⟨errors, hl⟩ := exists_log_eq
    { m with address := m.program.lineNumbers, stack := [], position := 0 } .debug logSource
    s!"run: {m.program.lineNumbers.length} lines"
  exact ⟨errors, congrArg resumed hl⟩

end Logged

/-- The log of a machine does not show what was changed. -/
def Unlogged (change : Machine → Machine) : Prop :=
  ∀ (m : Machine) (level : LogLevel) (source message : String),
    (change m).log level source message = change (m.log level source message)

namespace Unlogged

variable {change : Machine → Machine}

theorem of_console (verbose : ∀ m, (change m).console.verbose = m.console.verbose)
    (errors : ∀ m text, (change m).writeError text = change (m.writeError text)) :
    Unlogged change := by
  intro m level source message
  unfold log
  rw [verbose]
  split
  · exact errors m _
  · rfl

variable (h : Unlogged change) (m : Machine)

include h

theorem logLine (number : Int) : (change m).logLine number = change (m.logLine number) := by
  unfold Machine.logLine
  split
  · exact h m _ _ _
  · rfl

theorem abortRun (stops : { change m with running := false } = change { m with running := false })
    (cause : Cause) (line : Int) (column : Nat) :
    ((change m).abortRun cause line column).machine =
      change (m.abortRun cause line column).machine := by
  have logs (message? : Option String) (m : Machine) :
      (message?.elim (change m) fun message =>
          (change m).logRun s!"run aborted: {message}") =
        change (message?.elim m fun message => m.logRun s!"run aborted: {message}") := by
    cases message? with
    | none => rfl
    | some message => exact h m _ _ _
  refine Eq.trans ?_ (logs (Failure.message? ⟨cause, line, column⟩) { m with running := false })
  rw [← stops]
  rfl

end Unlogged

/-- The number of the line that the next turn takes up, if there is one. -/
def next? (m : Machine) : Option Int :=
  if m.halted then none else m.address[m.position]?

section Steps

variable {m m' : Machine} {number : Int} {text : Text} {failure : Option Failure}

def Turn.ofResult (number : Int) : EStateM.Result Cause Execution Unit → Turn
  | .ok _ s => .going s.machine
  | .error cause s => s.machine.abortRun cause number s.cursor.column

theorem executeLine_of_some (h : m.program.get? number = some text) :
    m.executeLine number =
      .ofResult number (Statement.execute (.start (m.taken number) text)) := by
  unfold executeLine
  simp only [h]
  rfl

theorem executeLine_of_none (h : m.program.get? number = none) :
    m.executeLine number =
      { m with current := some number }.abortRun (.lineMissing number) number 0 := by
  simp only [executeLine, h]

theorem step_of_taken (going : m.halted = false) (next : m.address[m.position]? = some number) :
    m.step = m.executeLine number := by
  simp [step, going, next]

theorem step_at_end (next : m.address[m.position]? = none) : m.step = .ended m.finishRun none := by
  simp [step, next]

theorem next?_eq_some_iff :
    m.next? = some number ↔ m.halted = false ∧ m.address[m.position]? = some number := by
  cases h : m.halted <;> simp [next?, h]

theorem step_of_next?_none (h : m.next? = none) : m.step = .ended m.finishRun none := by
  cases halted : m.halted with
  | true => simp [step, halted]
  | false => exact step_at_end (by simpa [next?, halted] using h)

theorem step_eq_going_iff : m.step = .going m' ↔
    m.halted = false ∧ ∃ number text u s, m.address[m.position]? = some number ∧
      m.program.get? number = some text ∧
      Statement.execute (.start (m.taken number) text) = .ok u s ∧ s.machine = m' := by
  constructor
  · intro h
    cases halted : m.halted with
    | true => simp [step, halted] at h
    | false =>
      cases next : m.address[m.position]? with
      | none => simp [step_at_end next] at h
      | some number =>
        rw [step_of_taken halted next] at h
        cases stored : m.program.get? number with
        | none => simp [executeLine_of_none stored, abortRun] at h
        | some text =>
          rw [executeLine_of_some stored] at h
          cases he : Statement.execute (.start (m.taken number) text) with
          | error cause s => simp [he, Turn.ofResult, abortRun] at h
          | ok u s =>
            rw [he] at h
            cases h
            exact ⟨rfl, number, text, u, s, rfl, stored, he, rfl⟩
  · rintro ⟨halted, number, text, u, s, next, stored, he, rfl⟩
    rw [step_of_taken halted next, executeLine_of_some stored, he]
    rfl

/-- The last turn of a run finds it halted or at its end, finds a line missing, or
executes a line that fails. -/
theorem step_ended_cases (h : m.step = .ended m' failure) :
    (failure = none ∧ m' = m.finishRun) ∨
      (∃ number, m.address[m.position]? = some number ∧ m.program.get? number = none ∧
        .ended m' failure =
          { m with current := some number }.abortRun (.lineMissing number) number 0) ∨
      ∃ number text cause s, m.address[m.position]? = some number ∧
        m.program.get? number = some text ∧
        Statement.execute (.start (m.taken number) text) = .error cause s ∧
        .ended m' failure = s.machine.abortRun cause number s.cursor.column := by
  rcases Bool.eq_false_or_eq_true m.halted with halted | halted
  · obtain ⟨rfl, rfl⟩ : m.finishRun = m' ∧ none = failure := by simpa [step, halted] using h
    exact .inl ⟨rfl, rfl⟩
  · cases next : m.address[m.position]? with
    | none =>
      obtain ⟨rfl, rfl⟩ : m.finishRun = m' ∧ none = failure := by
        simpa [step_at_end next] using h
      exact .inl ⟨rfl, rfl⟩
    | some number =>
      rw [step_of_taken halted next] at h
      cases stored : m.program.get? number with
      | none =>
        rw [executeLine_of_none stored] at h
        exact .inr (.inl ⟨number, rfl, stored, h.symm⟩)
      | some text =>
        rw [executeLine_of_some stored] at h
        cases he : Statement.execute (.start (m.taken number) text) with
        | ok u s => simp [he, Turn.ofResult] at h
        | error cause s =>
          rw [he] at h
          exact .inr (.inr ⟨number, text, cause, s, rfl, stored, he, h.symm⟩)

theorem step_ended_running (h : m.step = .ended m' failure) : m'.running = false := by
  rcases step_ended_cases h with
    ⟨-, rfl⟩ | ⟨number, -, -, hm⟩ | ⟨number, text, cause, s, -, -, -, hm⟩
  · obtain ⟨errors, hf⟩ := m.exists_finishRun_eq
    rw [hf]
  · obtain ⟨errors, ha⟩ := exists_abortRun_eq { m with current := some number }
      (.lineMissing number) number 0
    cases hm.trans ha
    rfl
  · obtain ⟨errors, ha⟩ := s.machine.exists_abortRun_eq cause number s.cursor.column
    cases hm.trans ha
    rfl

end Steps

/-- The second machine is what turns have made of the first one so far. -/
inductive Underway (m : Machine) : Machine → Prop where
  | begun : Underway m m
  | turned {before after : Machine} (earlier : Underway m before)
      (turn : before.step = .going after) : Underway m after

variable {m before after final : Machine} {failure : Option Failure}

theorem turns_of_going {count : Nat} (turn : m.step = .going before) :
    turns (count + 1) m = turns count before := by
  simp only [turns, turn]

theorem turns_of_ended {count : Nat} (turn : m.step = .ended final failure) :
    turns (count + 1) m = some (final, failure) := by
  simp only [turns, turn]

/-- What a run has come to without a failure can be computed. -/
theorem exists_ended_well {σ ε : Type} {P : σ → Prop} [DecidablePred P]
    {ends : Option (σ × Option ε)}
    (h : ends.any (fun ended => ended.2.isNone && decide (P ended.1)) = true) :
    ∃ final, ends = some (final, none) ∧ P final := by
  obtain ⟨⟨final, failure⟩, rfl, shown⟩ := (Option.any_eq_true _ _).mp h
  obtain ⟨well, shown⟩ := Bool.and_eq_true_iff.mp shown
  cases Option.isNone_iff_eq_none.mp well
  exact ⟨final, rfl, of_decide_eq_true shown⟩

/-- However many turns a run is given, it ends in one way at most. -/
theorem turns_unique {count count' : Nat} {r r' : Machine × Option Failure}
    (h : turns count m = some r) (h' : turns count' m = some r') : r = r' := by
  induction count generalizing m count' with
  | zero => cases h
  | succ count ih =>
    cases count' with
    | zero => cases h'
    | succ count' =>
      cases turn : m.step with
      | going next =>
        rw [turns_of_going turn] at h h'
        exact ih h h'
      | ended final failure =>
        rw [turns_of_ended turn] at h h'
        exact Option.some.inj (h.symm.trans h')

theorem Underway.head (turn : m.step = .going before) (h : Underway before after) :
    Underway m after := by
  induction h with
  | begun => exact .turned .begun turn
  | turned _ next ih => exact .turned ih next

theorem Underway.trans (h : Underway m before) (h' : Underway before after) :
    Underway m after := by
  induction h' with
  | begun => exact h
  | turned _ next ih => exact .turned ih next

/-- What every turn keeps holds all along. -/
theorem Underway.keeps {p : Machine → Prop} (h : Underway m after) (begun : p m)
    (turned : ∀ ⦃before after⦄, p before → before.step = .going after → p after) : p after := by
  induction h with
  | begun => exact begun
  | turned _ next ih => exact turned ih next

/-- A run that ends in some number of turns is underway until its last turn. -/
theorem exists_underway_of_turns {count : Nat} (h : turns count m = some (final, failure)) :
    ∃ last, Underway m last ∧ last.step = .ended final failure := by
  induction count generalizing m with
  | zero => cases h
  | succ count ih =>
    rw [turns] at h
    cases hs : m.step with
    | going next =>
      rw [hs] at h
      obtain ⟨last, underway, ended⟩ := ih h
      exact ⟨last, .head hs underway, ended⟩
    | ended final' failure' =>
      rw [hs] at h
      cases h
      exact ⟨m, .begun, hs⟩

theorem Underway.exists_turns (h : Underway m before) (ended : before.step = .ended final failure) :
    ∃ count, turns count m = some (final, failure) := by
  have turned : ∃ count, turns count before = some (final, failure) := by
    refine ⟨1, ?_⟩
    simp only [turns, ended]
  clear ended
  induction h with
  | begun => exact turned
  | turned _ next ih =>
    obtain ⟨count, hc⟩ := turned
    refine ih ⟨count + 1, ?_⟩
    simp only [turns, next, hc]

end NumberedBasic.Machine
