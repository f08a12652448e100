import NumberedBasic.Proofs.Run.Likeness

/-! # What was written before

Nothing reads what was written. A machine that has written more before a run takes the same
turns, and writes the same behind it.
-/

namespace NumberedBasic

def Console.behind (text : String) (c : Console) : Console :=
  { c with output := text ++ c.output }

theorem Console.behind_write (text written : String) (c : Console) :
    (c.behind text).write written = (c.write written).behind text := by
  simp only [behind, write, String.append_assoc]

namespace Machine

def behind (text : String) (m : Machine) : Machine :=
  { m with console := m.console.behind text }

theorem behind_write (text written : String) (m : Machine) :
    (m.behind text).write written = (m.write written).behind text :=
  congrArg (fun console => { m with console }) (Console.behind_write text written m.console)

theorem behind_output (m : Machine) :
    { m with console.output := "" }.behind m.console.output = m := by
  simp only [behind, Console.behind, String.append_empty]

theorem unlogged_behind (text : String) : Unlogged (behind text) :=
  .of_console (fun _ => rfl) fun _ _ => rfl

theorem taken_behind (text : String) (m : Machine) (number : Int) :
    (m.behind text).taken number = (m.taken number).behind text :=
  (unlogged_behind text).logLine
    { m.look with current := some number, position := m.position + 1 } number

theorem restarted_behind (text : String) (m : Machine) :
    (m.behind text).restarted = m.restarted.behind text :=
  congrArg resumed
    (unlogged_behind text
      { m with address := m.program.lineNumbers, stack := [], position := 0 } _ _ _)

end Machine

def Likeness.behind (text : String) : Likeness where
  outlook := .exact False
  Like m m' := m' = m.behind text
  alike := by
    rintro m _ rfl
    exact ⟨rfl, rfl⟩
  rooms := by
    rintro m _ rfl
    exact .inl rfl
  agrees := by
    rintro m _ rfl
    exact ⟨rfl, rfl, rfl, rfl, rfl, rfl⟩
  draw := by
    rintro m _ rfl g g' ⟨-, rfl⟩
    rfl
  assign h _ _ := by rw [h]; rfl
  restack h _ := by rw [h]; rfl
  goTo h _ := by rw [h]; rfl
  halt h := by rw [h]; rfl
  write h _ := by rw [h, Machine.behind_write]
  read h _ := by rw [h]; rfl

open Machine

theorem Likeness.behind_lasting (text : String) : (Likeness.behind text).Lasting where
  timely := by
    rintro m _ rfl
    exact ⟨rfl, rfl⟩
  program := by
    rintro m _ rfl
    rfl
  halted := by
    rintro m _ rfl
    rfl
  taken := by
    rintro m _ rfl number
    exact m.taken_behind text number
  missed := by
    rintro m _ rfl number
    rfl
  finish := by
    rintro m _ rfl
    exact unlogged_behind text { m with running := false } _ _ _
  abort := by
    rintro m _ rfl cause line column
    exact (unlogged_behind text).abortRun m rfl cause line column

namespace Machine

theorem runFor_behind (text : String) (m : Machine) (count : Nat) : (m.behind text).runFor count =
    (m.runFor count).map fun (m, failure) => (m.behind text, failure) := by
  have both := ((Likeness.behind_lasting text).turns (m := m.restarted) rfl
    (fun _ _ _ => Outlook.clear_exact _ _) count).resolve_right And.left
  rw [runFor, runFor, restarted_behind]
  generalize turns count m.restarted = ends at both ⊢
  generalize turns count (m.restarted.behind text) = ends' at both ⊢
  cases both with
  | none => rfl
  | @some r r' same =>
    obtain ⟨final, failure⟩ := r
    obtain ⟨_, _⟩ := r'
    obtain ⟨rfl, rfl⟩ := same
    rfl

/-- A machine that has written some more runs alike, and writes the same behind it. -/
theorem runFor_write (count : Nat) (m : Machine) (text : String) :
    m.runFor count = none ∧ (m.write text).runFor count = none ∨
      ∃ (final : Machine) (failure : Option Failure),
        m.runFor count = some (final.behind m.console.output, failure) ∧
        (m.write text).runFor count = some (final.behind (m.console.output ++ text), failure) := by
  let silent : Machine := { m with console.output := "" }
  have here : m.runFor count = _ := congrArg (runFor count) m.behind_output.symm
  have more : m.write text = silent.behind (m.console.output ++ text) := by
    simp only [silent, behind, Console.behind, String.append_empty]
    rfl
  rw [here, more, runFor_behind, runFor_behind]
  rcases silent.runFor count with _ | ⟨final, failure⟩
  · exact .inl ⟨rfl, rfl⟩
  · exact .inr ⟨final, failure, rfl, rfl⟩

end Machine

end NumberedBasic
