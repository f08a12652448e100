import NumberedBasic.Proofs.Run.Pause
import NumberedBasic.Proofs.Session.Edit
import NumberedBasic.Proofs.Statement.Complaint

/-! # Snapshots

A run follows the line numbers that the program had when it began, and so do all
continuations up to the next run. The texts of the lines are those of the program as it is
when a line is taken up, and a line that was removed since the snapshot stops the run there.
-/

namespace NumberedBasic

namespace Machine

variable {m m' : Machine} {number : Int} {text : Text} {failure : Failure} {edits : List Edit}

def Executes (m : Machine) (number : Int) (text : Text) : Prop :=
  m.next? = some number ∧
    m.step = .ofResult number (Statement.execute (.start (m.taken number) text))

/-- The next turn fails since the line is missing, at its column zero, and takes nothing up. -/
def Misses (m : Machine) (number : Int) : Prop :=
  m.next? = some number ∧ ∃ m', m.step = .ended m' (some ⟨.lineMissing number, number, 0⟩) ∧
    m'.position = m.position ∧ m'.halted = m.halted

theorem executes_of_stored (next : m.next? = some number)
    (stored : m.program.get? number = some text) : m.Executes number text := by
  obtain ⟨halted, at_⟩ := next?_eq_some_iff.mp next
  exact ⟨next, (step_of_taken halted at_).trans (executeLine_of_some stored)⟩

theorem misses_of_absent (next : m.next? = some number)
    (absent : m.program.get? number = none) : m.Misses number := by
  obtain ⟨halted, at_⟩ := next?_eq_some_iff.mp next
  obtain ⟨errors, ha⟩ := exists_abortRun_eq { m with current := some number }
    (.lineMissing number) number 0
  have missing := (step_of_taken halted at_).trans ((executeLine_of_none absent).trans ha)
  exact ⟨next, _, missing, rfl, rfl⟩

/-- A turn says that a line is missing if it takes up the line and does not find it, or if it
executes a jump to a number that is not in the table. -/
theorem step_ended_missing (turn : m.step = .ended m' (some failure))
    (missing : failure.cause.missing? = some number) :
    (m.next? = some number ∧ m.program.get? number = none ∧
        failure = ⟨.lineMissing number, number, 0⟩ ∧ m'.position = m.position) ∨
      number ∉ m.address ∧ ∃ value, failure.cause = .targetMissing value := by
  have halted : m.halted = false := by
    cases hm : m.halted with
    | false => rfl
    | true => simp [step, hm] at turn
  rcases step_ended_cases turn with
    ⟨hf, -⟩ | ⟨line, next, absent, hm⟩ | ⟨line, text, cause, s, next, stored, he, hm⟩
  · cases hf
  · obtain ⟨errors, ha⟩ := exists_abortRun_eq { m with current := some line }
      (.lineMissing line) line 0
    cases hm.trans ha
    cases missing
    exact .inl ⟨next?_eq_some_iff.mpr ⟨halted, next⟩, absent, rfl, rfl⟩
  · obtain ⟨errors, ha⟩ := s.machine.exists_abortRun_eq cause line s.cursor.column
    cases hm.trans ha
    have outside := Statement.execute_error_missing? he missing
    have address : (m.taken line).address = m.address := (Edited.taken m line).address
    exact .inr ⟨address ▸ outside.1, outside.2⟩

theorem position_log (m : Machine) (level : LogLevel) (source message : String) :
    (m.log level source message).position = m.position := by
  obtain ⟨errors, hl⟩ := m.exists_log_eq level source message
  rw [hl]

theorem mem_address_of_next? (next : m.next? = some number) : number ∈ m.address :=
  List.mem_of_getElem? (next?_eq_some_iff.mp next).2

section Run

variable {final : Machine} {count : Nat}

theorem restarted_underway (underway : m.restarted.Underway m') :
    m'.address = m.program.lineNumbers ∧ m'.program = m.program ∧
      ∀ number, m'.next? = some number →
        ∃ text, m.program.get? number = some text ∧ m'.Executes number text := by
  have kept := Edited.underway underway
  obtain ⟨errors, hr⟩ := m.exists_restarted_eq
  have table : m'.address = m.program.lineNumbers := by rw [kept.address, hr]
  have program : m'.program = m.program := by rw [kept.program, hr, Program.edited_nil]
  refine ⟨table, program, fun number next => ?_⟩
  have line : number ∈ m.program.lineNumbers := table ▸ mem_address_of_next? next
  obtain ⟨text, stored⟩ := Option.ne_none_iff_exists'.mp (Program.mem_lineNumbers_iff.mp line)
  exact ⟨text, stored, executes_of_stored next (program ▸ stored)⟩

theorem runFor_missing (run : m.runFor count = some (final, some failure))
    (missing : failure.cause.missing? = some number) : number ∉ m.program.lineNumbers := by
  obtain ⟨last, underway, turn⟩ := exists_underway_of_turns run
  obtain ⟨table, program, -⟩ := restarted_underway underway
  rcases step_ended_missing turn missing with ⟨-, absent, -⟩ | ⟨outside, -⟩
  · rw [program] at absent
    exact fun line => Program.mem_lineNumbers_iff.mp line absent
  · rwa [table] at outside

end Run

end Machine

namespace Session

open Machine

/-- Some operations have led from a fresh session to this one. The program is that of the
most recent run, or none before any run, and the edits are those that were made since. -/
inductive Since : Session → Program → List Edit → Prop where
  | fresh (seed : Int) (clock : Clock) (console : Console) (directory : Directory) (room : Nat) :
      Since ⟨.fresh seed clock console, directory, room⟩ Table.empty []
  | ran {s s' : Session} {p : Program} {edits : List Edit} {turns : Nat} {result : Answer}
      (earlier : Since s p edits) (answer : s.answer (.run turns) = some (s', result)) :
      Since s' s.machine.program []
  | answered {s s' : Session} {p : Program} {edits : List Edit} {operation : Operation}
      {result : Answer} (earlier : Since s p edits) (old : ∀ turns, operation ≠ .run turns)
      (answer : s.answer operation = some (s', result)) : Since s' p (edits ++ s.edits operation)
  | meanwhile {s : Session} {p : Program} {edits : List Edit} (earlier : Since s p edits)
      (clock : Clock) (console : Console) (directory : Directory) (room : Nat) :
      Since ⟨{ s.machine with clock, console }, directory, room⟩ p edits

/-- Operations without a new run have led from one session to another and have made the
edits. Each of them has left the position as it was. -/
inductive Waits (s : Session) : List Edit → Session → Prop where
  | begun : Waits s [] s
  | answered {s' s'' : Session} {edits : List Edit} {operation : Operation} {result : Answer}
      (earlier : Waits s edits s') (old : ∀ turns, operation ≠ .run turns)
      (answer : s'.answer operation = some (s'', result))
      (stays : s''.machine.position = s'.machine.position) :
      Waits s (edits ++ s'.edits operation) s''
  | meanwhile {s' : Session} {edits : List Edit} (earlier : Waits s edits s') (clock : Clock)
      (console : Console) (directory : Directory) (room : Nat) :
      Waits s edits ⟨{ s'.machine with clock, console }, directory, room⟩

/-- Operations that execute no statement: an input line with a number, and all that only
change or show the program or the variables. -/
inductive Passive : Operation → Prop where
  | ingest {text : Text} (numbered : (Cursor.start text.trimStart).lineNumber.1 ≠ .ok none) :
      Passive (.ingest text)
  | assign (name : Text) (value : Number) : Passive (.assign name value)
  | clear : Passive .clear
  | new : Passive .new
  | delete (number : Int) : Passive (.delete number)
  | save (name : Text) : Passive (.save name)

variable {s s' : Session} {p : Program} {edits later : List Edit} {operation : Operation}
  {result : Answer} {number : Int}

theorem position_ingest (m : Machine) {text : Text}
    (numbered : (Cursor.start text.trimStart).lineNumber.1 ≠ .ok none) :
    (m.ingest text).1.position = m.position := by
  rw [ingest_eq]
  rcases hl : (Cursor.start text.trimStart).lineNumber with ⟨cause | _ | number, c⟩
  · rfl
  · exact absurd (congrArg Prod.fst hl) numbered
  · rfl

theorem position_save (s : Session) (name : Text) :
    (s.save name).1.machine.position = s.machine.position := by
  unfold save saveTo
  split
  · rfl
  · dsimp only
    split
    · rfl
    · split
      · exact position_log _ _ _ _
      · rfl

theorem Passive.position_answer (h : Passive operation)
    (answer : s.answer operation = some (s', result)) :
    s'.machine.position = s.machine.position := by
  cases h with
  | ingest numbered =>
    cases answer
    exact position_ingest _ numbered
  | assign => cases answer; rfl
  | clear => cases answer; rfl
  | new => cases answer; rfl
  | delete number =>
    simp only [Session.answer, deleteLine, Program.delete] at answer
    by_cases present : s.machine.program.contains number = true
    · rw [if_pos present] at answer
      cases answer
      rfl
    · rw [if_neg present] at answer
      cases answer
      rfl
  | save name =>
    cases answer
    exact s.position_save name

theorem Waits.position (h : s.Waits later s') : s'.machine.position = s.machine.position := by
  induction h with
  | begun => rfl
  | answered _ _ _ stays ih => exact stays.trans ih
  | meanwhile _ _ _ _ _ ih => exact ih

namespace Since

theorem exists_of_reachable (h : s.Reachable) : ∃ p edits, s.Since p edits := by
  induction h with
  | fresh seed clock console directory room =>
    exact ⟨_, _, .fresh seed clock console directory room⟩
  | @answered s s' operation result _ answer ih =>
    obtain ⟨p, edits, since⟩ := ih
    by_cases run : ∃ turns, operation = .run turns
    · obtain ⟨turns, rfl⟩ := run
      exact ⟨_, _, .ran since answer⟩
    · exact ⟨_, _, .answered since (fun turns h => run ⟨turns, h⟩) answer⟩
  | meanwhile _ clock console directory room ih =>
    obtain ⟨p, edits, since⟩ := ih
    exact ⟨_, _, .meanwhile since clock console directory room⟩

theorem waits (h : s.Since p edits) (waits : s.Waits later s') : s'.Since p (edits ++ later) := by
  induction waits with
  | begun => simpa using h
  | answered _ old answer _ ih =>
    rw [← List.append_assoc]
    exact .answered ih old answer
  | meanwhile _ clock console directory room ih =>
    exact .meanwhile ih clock console directory room

/-- The table has the numbers of the lines at the most recent run, and the edits that were
made since have led to the program as it is now. -/
theorem followed (h : s.Since p edits) :
    s.machine.address = p.lineNumbers ∧ s.machine.program = p.edited edits := by
  induction h with
  | fresh => exact ⟨rfl, rfl⟩
  | ran _ answer ih =>
    obtain ⟨⟨m, failure⟩, ht, he⟩ := Option.map_eq_some_iff.mp answer
    cases he
    have kept := Edited.turns ht
    obtain ⟨errors, hr⟩ := exists_restarted_eq _
    rw [hr] at kept
    exact ⟨kept.address, kept.program⟩
  | answered _ old answer ih =>
    have edited := edited_answer old answer
    exact ⟨edited.address.trans ih.1, by rw [edited.program, ih.2, Program.edited_append]⟩
  | meanwhile _ _ _ _ _ ih => exact ih

variable (h : s.Since p edits) {m : Machine}

include h

/-- A continuation takes up lines of the snapshot, with the texts of the program as it is now,
and misses those that were removed since. -/
theorem resumed (underway : (s.allow 4).machine.resumed.Underway m) :
    m.address = p.lineNumbers ∧ m.program = s.machine.program ∧
      ∀ number, m.next? = some number → number ∈ p.lineNumbers ∧
        (Edit.Removed number edits → m.Misses number) ∧
        (¬Edit.Removed number edits → ∃ text, s.machine.program.get? number = some text ∧
          m.Executes number text) := by
  obtain ⟨address, program⟩ := h.followed
  have kept := Edited.underway underway
  have table : m.address = p.lineNumbers := kept.address.trans address
  refine ⟨table, kept.program, fun number next => ?_⟩
  have line : number ∈ p.lineNumbers := table ▸ mem_address_of_next? next
  have removed := Program.get?_edited_eq_none_iff (Program.mem_lineNumbers_iff.mp line) edits
  rw [← program, ← show m.program = s.machine.program from kept.program] at removed
  refine ⟨line, fun hr => misses_of_absent next (removed.mpr hr), fun hr => ?_⟩
  obtain ⟨text, stored⟩ := Option.ne_none_iff_exists'.mp (mt removed.mp hr)
  refine ⟨text, ?_, executes_of_stored next stored⟩
  rw [← stored]
  exact congrArg (Table.get? · number) kept.program.symm

theorem continueFor_lineMissing {count : Nat} {failure : Failure}
    (run : (s.allow 4).machine.continueFor count = some (m, some failure))
    (missing : failure.cause = .lineMissing number) :
    Edit.Removed number edits ∧ failure = ⟨.lineMissing number, number, 0⟩ ∧
      m.address[m.position]? = some number := by
  obtain ⟨last, underway, turn⟩ := exists_underway_of_turns run
  obtain ⟨table, program, lines⟩ := h.resumed underway
  have missing' : failure.cause.missing? = some number := by rw [missing]; rfl
  rcases step_ended_missing turn missing' with ⟨next, absent, located, position⟩ | ⟨-, value, hv⟩
  · refine ⟨?_, located, ?_⟩
    · by_contra kept
      obtain ⟨text, stored, -⟩ := (lines number next).2.2 kept
      rw [program, stored] at absent
      cases absent
    · rw [position, (Edited.ended turn).address]
      exact (next?_eq_some_iff.mp next).2
  · cases missing.symm.trans hv

theorem resumed_waits (waiting : s.Waits later s')
    (next : s.machine.address[s.machine.position]? = some number) :
    (s'.allow 4).machine.resumed.next? = some number := by
  have address : s'.machine.address = s.machine.address :=
    (h.waits waiting).followed.1.trans h.followed.1.symm
  refine next?_eq_some_iff.mpr ⟨rfl, ?_⟩
  change s'.machine.address[s'.machine.position]? = _
  rw [address, waiting.position, next]

/-- While the line is removed, every continuation fails at it again and leaves the session
waiting there. -/
theorem continueFor_removed (waiting : s.Waits later s')
    (next : s.machine.address[s.machine.position]? = some number)
    (removed : Edit.Removed number (edits ++ later)) (count : Nat) :
    ∃ m, (s'.allow 4).machine.continueFor (count + 1) =
      some (m, some ⟨.lineMissing number, number, 0⟩) ∧
      s.Waits later ⟨m, s'.directory, s'.room⟩ := by
  have next' := h.resumed_waits waiting next
  obtain ⟨-, -, lines⟩ := (h.waits waiting).resumed .begun
  obtain ⟨-, m, turn, position, -⟩ := (lines number next').2.1 removed
  have ends : (s'.allow 4).machine.continueFor (count + 1) =
      some (m, some ⟨.lineMissing number, number, 0⟩) := turns_of_ended turn
  have answer : s'.answer (.resume (count + 1)) =
      some (⟨m, s'.directory, s'.room⟩, .ended (some ⟨.lineMissing number, number, 0⟩)) := by
    simp only [Session.answer, ends, Option.map_some]
  refine ⟨m, ends, ?_⟩
  have old : ∀ turns, Operation.resume (count + 1) ≠ .run turns :=
    fun _ h => Operation.noConfusion h
  have waits := waiting.answered old answer position
  simpa [Session.edits] using waits

end Since

/-- In every session the table has the line numbers of the program at the most recent run, and
the program has been edited since, by no statement. A run executes lines of its snapshot with
the texts that they had when it began. A continuation executes lines of the old snapshot with
their present texts, and it fails at a line of the snapshot exactly if this was removed and
not stored again. There it stays: every continuation fails in the same way until the line is
stored again, and then executes it. -/
theorem snapshot_followed :
    (∀ s : Session, s.Reachable → ∃ p edits, s.Since p edits) ∧
    (∀ (m : Machine) (text : Text), (m.execute text).1.program = m.program ∧
      (m.execute text).1.address = m.address) ∧
    (∀ (s s' : Session) (operation : Operation) (result : Answer), Passive operation →
      s.answer operation = some (s', result) → s'.machine.position = s.machine.position) ∧
    ∀ (s : Session) (p : Program) (edits : List Edit), s.Since p edits →
      (s.machine.address = p.lineNumbers ∧ p.lineNumbers.Pairwise (· < ·) ∧
        s.machine.program = p.edited edits) ∧
      (∀ m, (s.allow 3).machine.restarted.Underway m →
        m.address = s.machine.program.lineNumbers ∧ m.program = s.machine.program ∧
        ∀ number, m.next? = some number →
          ∃ text, s.machine.program.get? number = some text ∧ m.Executes number text) ∧
      (∀ count m failure number, (s.allow 3).machine.runFor count = some (m, some failure) →
        failure.cause.missing? = some number → number ∉ s.machine.program.lineNumbers) ∧
      (∀ m, (s.allow 4).machine.resumed.Underway m →
        m.address = p.lineNumbers ∧ m.program = s.machine.program ∧
        ∀ number, m.next? = some number → number ∈ p.lineNumbers ∧
          (Edit.Removed number edits → m.Misses number) ∧
          (¬Edit.Removed number edits → ∃ text, s.machine.program.get? number = some text ∧
            m.Executes number text)) ∧
      ∀ count m failure number, (s.allow 4).machine.continueFor count = some (m, some failure) →
        failure.cause = .lineMissing number →
        Edit.Removed number edits ∧ failure = ⟨.lineMissing number, number, 0⟩ ∧
        ∀ s' later, Waits ⟨m, s.directory, s.room⟩ later s' →
          (Edit.Removed number (edits ++ later) → ∀ count, ∃ m',
            (s'.allow 4).machine.continueFor (count + 1) = some (m', some failure) ∧
              Waits ⟨m, s.directory, s.room⟩ later ⟨m', s'.directory, s'.room⟩) ∧
          (¬Edit.Removed number (edits ++ later) →
            ∃ text, s'.machine.program.get? number = some text ∧
              (s'.allow 4).machine.resumed.Executes number text) := by
  refine ⟨fun _ => Since.exists_of_reachable, fun m text => ?_,
    fun _ _ _ _ passive => passive.position_answer, fun s p edits h => ?_⟩
  · have kept := Edited.executed m text
    exact ⟨kept.program, kept.address⟩
  obtain ⟨address, program⟩ := h.followed
  refine ⟨⟨address, p.lineNumbers_ascending, program⟩, fun _ => restarted_underway,
    fun _ _ _ _ => runFor_missing, fun _ => h.resumed, ?_⟩
  intro count m failure number run missing
  obtain ⟨removed, located, next⟩ := h.continueFor_lineMissing run missing
  have failed : Since ⟨m, s.directory, s.room⟩ p edits := by
    have answer : s.answer (.resume count) =
        some (⟨m, s.directory, s.room⟩, .ended (some failure)) := by
      simp only [Session.answer, run, Option.map_some]
    have old : ∀ turns, Operation.resume count ≠ .run turns := fun _ h => Operation.noConfusion h
    simpa [Session.edits] using h.answered old answer
  refine ⟨removed, located, fun s' later waiting => ⟨fun still count => ?_, fun again => ?_⟩⟩
  · rw [located]
    exact failed.continueFor_removed waiting next still count
  · have next' := failed.resumed_waits waiting next
    obtain ⟨-, -, lines⟩ := (failed.waits waiting).resumed .begun
    exact (lines number next').2.2 again

/-- A line that is deleted while a run is halted is missed again and again, until it is stored
anew. -/
theorem deleted_line_missed :
    let p : Program := (Table.empty.insert 10 ['S', 'T', 'O', 'P']).insert 20 ['?']
    ∃ (s s' : Session) (m : Machine), s.Since p [.erase 20] ∧
      (s.allow 4).machine.continueFor 1 = some (m, some ⟨.lineMissing 20, 20, 0⟩) ∧
      (∃ m', (Session.allow ⟨m, s.directory, s.room⟩ 4).machine.continueFor 5 =
        some (m', some ⟨.lineMissing 20, 20, 0⟩)) ∧
      Waits ⟨m, s.directory, s.room⟩ [.store 20 ['E', 'N', 'D']] s' ∧
      (s'.allow 4).machine.resumed.Executes 20 ['E', 'N', 'D'] := by
  intro p
  let s₀ : Session := ⟨.fresh 0 0 (.ofInput []), ⟨[], Table.empty⟩, 0⟩
  let s₁ : Session := (s₀.allow 3).update fun m => (m.ingest ['1', '0', 'S', 'T', 'O', 'P']).1
  let s₂ : Session := (s₁.allow 3).update fun m => (m.ingest ['2', '0', '?']).1
  let m₃ := (((s₂.allow 3).machine.runFor 2).map (·.1)).getD s₂.machine
  let s₄ : Session := ⟨{ m₃ with program := m₃.program.erase 20 }, s₀.directory, 0⟩
  let m := (((s₄.allow 4).machine.continueFor 1).map (·.1)).getD m₃
  let s' : Session := (Session.allow ⟨m, s₀.directory, 0⟩ 3).update fun m =>
    (m.ingest ['2', '0', 'E', 'N', 'D']).1
  have first : s₀.answer (.ingest ['1', '0', 'S', 'T', 'O', 'P']) = some (s₁, .done _) := rfl
  have second : s₁.answer (.ingest ['2', '0', '?']) = some (s₂, .done _) := rfl
  have ended {o : Option (Machine × Option Failure)} {failure : Option Failure}
      (h : o.map (·.2) = some failure) (m : Machine) :
      o = some ((o.map (·.1)).getD m, failure) := by
    obtain ⟨⟨m', _⟩, rfl, rfl⟩ := Option.map_eq_some_iff.mp h
    rfl
  have ran : (s₂.allow 3).machine.runFor 2 = some (m₃, none) := ended (by decide +kernel) _
  have run : s₂.answer (.run 2) = some (⟨m₃, s₀.directory, 0⟩, .ended none) := by
    simp only [Session.answer, ran, Option.map_some]
    rfl
  have present : m₃.program.contains 20 = true := by decide +kernel
  have delete : (⟨m₃, s₀.directory, 0⟩ : Session).answer (.delete 20) = some (s₄, .done none) := by
    simp only [Session.answer, deleteLine, Program.delete, if_pos present]
    rfl
  have edits : (⟨m₃, s₀.directory, 0⟩ : Session).edits (.delete 20) = [.erase 20] := by
    simp only [Session.edits, if_pos present]
  have program : s₂.machine.program = p := by decide +kernel
  obtain ⟨_, _, since⟩ := Since.exists_of_reachable
    (.answered (.answered (.fresh 0 0 _ _ _) first) second)
  have since : s₄.Since p [.erase 20] := by
    have old : ∀ turns, Operation.delete 20 ≠ .run turns := fun _ h => Operation.noConfusion h
    have h := (since.ran run).answered old delete
    rwa [edits, program] at h
  have failed : (s₄.allow 4).machine.continueFor 1 = some (m, some ⟨.lineMissing 20, 20, 0⟩) :=
    ended (by decide +kernel) _
  have store : (⟨m, s₀.directory, 0⟩ : Session).answer (.ingest ['2', '0', 'E', 'N', 'D']) =
      some (s', .done _) := rfl
  have position : s'.machine.position = m.position := by decide +kernel
  have waiting : Waits ⟨m, s₀.directory, 0⟩ [.store 20 ['E', 'N', 'D']] s' := by
    have old : ∀ turns, Operation.ingest ['2', '0', 'E', 'N', 'D'] ≠ .run turns :=
      fun _ h => Operation.noConfusion h
    exact .answered .begun old store position
  obtain ⟨-, -, -, followed⟩ := snapshot_followed
  obtain ⟨-, -, -, -, missed⟩ := followed s₄ p [.erase 20] since
  obtain ⟨removed, -, later⟩ := missed 1 m _ 20 failed rfl
  obtain ⟨m', again, -⟩ := (later _ [] .begun).1 (by simpa using removed) 4
  have kept : ¬Edit.Removed 20 ([.erase 20] ++ [.store 20 ['E', 'N', 'D']]) := by
    rw [Edit.removed_concat_iff]
    simp [Edit.removes, Edit.stores]
  obtain ⟨text, stored, executes⟩ := (later s' _ waiting).2 kept
  have text_eq : s'.machine.program.get? 20 = some ['E', 'N', 'D'] := by decide +kernel
  cases stored.symm.trans text_eq
  exact ⟨s₄, s', m, since, failed, ⟨m', again⟩, waiting, executes⟩

end Session

end NumberedBasic
