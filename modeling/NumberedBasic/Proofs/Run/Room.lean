import NumberedBasic.Proofs.Run.Likeness
import NumberedBasic.Session

/-! # Runs with more room

Room is what limits how far a statement may nest, and nothing else looks at it. With more room a
line does the same, and so do a run and the ingestion of a file, unless the one with less room
fails for lack of it.
-/

namespace NumberedBasic

namespace Machine

def within (room : Nat) (m : Machine) : Machine :=
  { m with room }

variable (room : Nat) (m : Machine)

theorem unlogged_within : Unlogged (within room) :=
  .of_console (fun _ => rfl) fun _ _ => rfl

theorem taken_within (number : Int) :
    (m.within room).taken number = (m.taken number).within room :=
  (unlogged_within room).logLine
    { m.look with current := some number, position := m.position + 1 } number

theorem restarted_within : (m.within room).restarted = m.restarted.within room :=
  congrArg resumed <| unlogged_within room
    { m with address := m.program.lineNumbers, stack := [], position := 0 } _ _ _

def Turn.within (room : Nat) : Turn → Turn
  | going m => going (m.within room)
  | ended m failure => ended (m.within room) failure

end Machine

open Machine

def Likeness.within (roomier : Prop) (room : Nat) : Likeness where
  outlook := .exact roomier
  Like m m' := (Outlook.exact roomier).Rooms m.room room ∧ m' = m.within room
  alike := by
    rintro m _ ⟨-, rfl⟩
    exact ⟨rfl, rfl⟩
  rooms := by
    rintro m _ ⟨rooms, rfl⟩
    exact rooms
  agrees := by
    rintro m _ ⟨-, rfl⟩
    exact ⟨rfl, rfl, rfl, rfl, rfl, rfl⟩
  draw := by
    rintro m _ ⟨rooms, rfl⟩ g g' ⟨-, rfl⟩
    exact ⟨rooms, rfl⟩
  assign h _ _ := ⟨h.1, by rw [h.2]; rfl⟩
  restack h _ := ⟨h.1, by rw [h.2]; rfl⟩
  goTo h _ := ⟨h.1, by rw [h.2]; rfl⟩
  halt h := ⟨h.1, by rw [h.2]; rfl⟩
  write h _ := ⟨h.1, by rw [h.2]; rfl⟩
  read h _ := ⟨h.1, by rw [h.2]; rfl⟩

theorem Likeness.within_timely (roomier : Prop) (room : Nat) :
    (Likeness.within roomier room).Timely := by
  rintro m _ ⟨-, rfl⟩
  exact ⟨rfl, rfl⟩

theorem Likeness.within_lasting (roomier : Prop) (room : Nat) :
    (Likeness.within roomier room).Lasting where
  timely := within_timely roomier room
  program := by
    rintro m _ ⟨-, rfl⟩
    rfl
  halted := by
    rintro m _ ⟨-, rfl⟩
    rfl
  taken := by
    rintro m _ ⟨rooms, rfl⟩ number
    obtain ⟨errors, taken⟩ := m.exists_taken_eq number
    exact ⟨by rwa [taken], m.taken_within room number⟩
  missed := by
    rintro m _ ⟨rooms, rfl⟩ number
    exact ⟨rooms, rfl⟩
  finish := by
    rintro m _ ⟨rooms, rfl⟩
    obtain ⟨errors, finished⟩ := m.exists_finishRun_eq
    exact ⟨by rwa [finished], unlogged_within room { m with running := false } _ _ _⟩
  abort := by
    rintro m _ ⟨rooms, rfl⟩ cause line column
    obtain ⟨errors, aborted⟩ := m.exists_abortRun_eq cause line column
    exact ⟨by rwa [aborted], (unlogged_within room).abortRun m rfl cause line column⟩

namespace Machine

variable {m : Machine} {room : Nat}

section Turns

variable {roomier : Prop} (rooms : (Outlook.exact roomier).Rooms m.room room)

include rooms

theorem step_within : (m.within room).step = m.step.within room ∨ roomier ∧
    ∃ final failure, m.step = .ended final (some failure) ∧ failure.cause = .tooComplex := by
  have both := (Likeness.within_lasting roomier room).step ⟨rooms, rfl⟩ fun _ _ _ _ =>
    Outlook.clear_exact _ _
  generalize m.step = t at both ⊢
  generalize (m.within room).step = t' at both ⊢
  cases both with
  | going like =>
    obtain ⟨-, rfl⟩ := like
    exact .inl rfl
  | ended failure like =>
    obtain ⟨-, rfl⟩ := like
    exact .inl rfl
  | tooComplex roomier complex => exact .inr ⟨roomier, _, _, rfl, complex⟩

end Turns

/-- A run in some room that ends so, without a failure for lack of room, does not show whether
there is more. -/
def Fits (least room : Nat) (failure : Option Failure) : Prop :=
  room = least ∨ least ≤ room ∧ ∀ f ∈ failure, f.cause ≠ .tooComplex

theorem Fits.le {failure : Option Failure} (fits : Fits m.room room failure) : m.room ≤ room :=
  fits.elim (fun same => Nat.le_of_eq same.symm) And.left

theorem step_within_of_going {m' : Machine} (le : m.room ≤ room) (turn : m.step = .going m') :
    (m.within room).step = .going (m'.within room) := by
  rcases step_within (.inr ⟨trivial, le⟩) with same | ⟨-, final, failure, ended, -⟩
  · rw [same, turn]
    rfl
  · cases turn.symm.trans ended

theorem step_within_of_ended {final : Machine} {failure : Option Failure}
    (fits : Fits m.room room failure) (turn : m.step = .ended final failure) :
    (m.within room).step = .ended (final.within room) failure := by
  have same : (m.within room).step = m.step.within room := by
    rcases fits with same | ⟨le, fits⟩
    · exact (step_within (.inl same.symm)).resolve_right fun lacks => lacks.1
    · refine (step_within (.inr ⟨trivial, le⟩)).resolve_right ?_
      rintro ⟨-, final', failure', ended, complex⟩
      cases turn.symm.trans ended
      exact fits failure' rfl complex
  rw [same, turn]
  rfl

variable (le : m.room ≤ room)

include le

/-- A run that does not fail for lack of room is the same with more. -/
theorem runFor_within (count : Nat) : (m.within room).runFor count =
    (m.runFor count).map (fun (final, failure) => (final.within room, failure)) ∨
      LacksRoom (m.runFor count) := by
  obtain ⟨errors, begun⟩ := m.exists_restarted_eq
  have le : m.restarted.room ≤ room := by rwa [begun]
  have both := (Likeness.within_lasting True room).turns (m := m.restarted)
    ⟨.inr ⟨trivial, le⟩, rfl⟩ (fun _ _ _ => Outlook.clear_exact _ _) count
  rw [runFor, runFor, restarted_within]
  refine both.imp (fun both => ?_) And.right
  generalize turns count m.restarted = ends at both ⊢
  generalize turns count (m.restarted.within room) = ends' at both ⊢
  cases both with
  | none => rfl
  | @some r r' same =>
    obtain ⟨final, failure⟩ := r
    obtain ⟨_, _⟩ := r'
    obtain ⟨⟨-, rfl⟩, rfl⟩ := same
    rfl

theorem execute_within (text : Text) : (m.execute text).1.room ≤ room ∧
    (m.within room).execute text = ((m.execute text).1.within room, (m.execute text).2) ∨
      (m.execute text).2 = some .tooComplex := by
  let L : Likeness := .within True room
  have like : L.Like m.look (m.within room).look := ⟨.inr ⟨trivial, le⟩, rfl⟩
  have executions := L.executions_start like (Outlook.clear_exact True (.start text))
  have results := Statement.execute_results executions (.inl (Likeness.within_timely True room))
  have least {m m' : Machine} (like : L.Like m m') : m.room ≤ room :=
    like.1.elim Nat.le_of_eq And.right
  unfold execute
  generalize Statement.execute (.start m.look text) = r at results ⊢
  generalize Statement.execute (.start (m.within room).look text) = r' at results ⊢
  cases results with
  | ok u state => exact .inl ⟨least state.machine, Prod.ext state.machine.2 rfl⟩
  | error cause machine => exact .inl ⟨least machine, Prod.ext machine.2 rfl⟩
  | tooComplex => exact .inr rfl

theorem ingest_within (text : Text) : (m.ingest text).1.room ≤ room ∧
    (m.within room).ingest text = ((m.ingest text).1.within room, (m.ingest text).2) ∨
      (m.ingest text).2 = some .tooComplex := by
  unfold ingest
  dsimp only
  split
  · left
    unfold ingestNumbered
    split <;> exact ⟨le, rfl⟩
  · exact execute_within le _

theorem ingestAll_within (lines : List Text) : (m.ingestAll lines).1.room ≤ room ∧
    (m.within room).ingestAll lines =
      ((m.ingestAll lines).1.within room, (m.ingestAll lines).2) ∨
      (m.ingestAll lines).2 = some .tooComplex := by
  induction lines generalizing m with
  | nil => exact .inl ⟨le, rfl⟩
  | cons line lines ih =>
    unfold ingestAll
    split
    · exact ih le
    · rcases ingest_within le line with ⟨le', same⟩ | complex
      · rw [same]
        rcases ingested : m.ingest line with ⟨m', _ | cause⟩
        · rw [ingested] at le'
          exact ih le'
        · rw [ingested] at le'
          exact .inl ⟨le', rfl⟩
      · right
        rcases ingested : m.ingest line with ⟨m', _ | cause⟩
        · rw [ingested] at complex
          cases complex
        · rw [ingested] at complex
          exact complex

end Machine

end NumberedBasic
